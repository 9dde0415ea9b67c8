import Mathlib.Data.List.DropRight
import Mathlib.Tactic.SplitIfs
import TemplateTree.Text.Blank

/-!
# Pieces of texts

Texts are cut at every occurrence of a character, and blanks are taken off the ends of the pieces.

* `eq_splitOn`, `not_mem_of_mem_splitOn`: the pieces between the occurrences of a character.
* `head?_trim`, `getLast?_trim`: a trimmed text neither begins nor ends with a blank.
* `trim_eq_self`: trimming takes nothing off such a text.
-/

namespace TemplateTree.Text

variable {s : List Char} {c : Char}

/-! ## Cutting -/

/-- Starting a new piece at every occurrence of a character is cutting at that character. -/
theorem eq_splitOn {cut : List Char → List (List Char)} {separator : Char} (hnil : cut [] = [[]])
    (hcons : ∀ c s, cut (c :: s) =
      if c == separator then [] :: cut s
      else
        match cut s with
        | [] => [[c]]
        | piece :: pieces => (c :: piece) :: pieces)
    (s : List Char) : cut s = s.splitOn separator := by
  induction s with
  | nil => exact hnil
  | cons c s ih =>
    rw [hcons, ih, List.splitOn_cons_eq_if_modifyHead]
    split_ifs
    · rfl
    · cases hs : s.splitOn separator with
      | nil => exact absurd hs (List.splitOn_ne_nil _ _)
      | cons piece pieces => rfl

theorem not_mem_of_mem_splitOn {separator : Char} : ∀ piece ∈ s.splitOn separator, separator ∉ piece := by
  induction s with
  | nil => simp
  | cons c s ih =>
    rw [List.splitOn_cons_eq_if_modifyHead]
    split_ifs with hc
    · simpa using ih
    · cases hs : s.splitOn separator with
      | nil => simp
      | cons piece pieces =>
        rw [hs] at ih
        obtain ⟨hpiece, hpieces⟩ := List.forall_mem_cons.1 ih
        have hne : separator ≠ c := fun h => hc (beq_iff_eq.2 h.symm)
        exact List.forall_mem_cons.2 ⟨by simp [hne, hpiece], hpieces⟩

/-! ## Trimming -/

theorem trim_eq (s : List Char) : trim s = (s.dropWhile isBlank).rdropWhile isBlank := rfl

theorem mem_of_mem_trim (h : c ∈ trim s) : c ∈ s := by
  have hstart : trim s <+: s.dropWhile isBlank := List.rdropWhile_prefix isBlank _
  exact (List.dropWhile_sublist isBlank).mem (hstart.mem h)

/-- Only blanks are taken off. -/
theorem mem_trim (h : c ∈ s) (hc : isBlank c = false) : c ∈ trim s := by
  have hdrop : ∀ {s : List Char}, c ∈ s → c ∈ s.dropWhile isBlank := by
    intro s hmem
    rw [← List.takeWhile_append_dropWhile (p := isBlank) (l := s), List.mem_append] at hmem
    refine hmem.resolve_left fun htake => ?_
    rw [List.mem_takeWhile_imp htake] at hc
    cases hc
  rw [trim, trimBy, trimRightBy, List.mem_reverse]
  exact hdrop (List.mem_reverse.2 (hdrop h))

theorem trim_cons_of_isBlank (hc : isBlank c = true) : trim (c :: s) = trim s := by
  rw [trim_eq, trim_eq, List.dropWhile_cons_of_pos hc]

/-- A first character that is not blank stays in front. -/
theorem exists_trim_cons (hc : isBlank c = false) (s : List Char) : ∃ rest, trim (c :: s) = c :: rest := by
  have hmem : c ∈ trim (c :: s) := mem_trim List.mem_cons_self hc
  have hprefix : trim (c :: s) <+: c :: s := by
    rw [trim_eq, List.dropWhile_cons_of_neg (by simp [hc])]
    exact List.rdropWhile_prefix isBlank _
  obtain hnil | ⟨rest, hrest, -⟩ := List.prefix_cons_iff.1 hprefix
  · rw [hnil] at hmem
    cases hmem
  · exact ⟨rest, hrest⟩

theorem head?_trim : ∀ c ∈ (trim s).head?, isBlank c = false := by
  intro c hc
  -- Without the blanks in front, the text begins as the trimmed one does.
  obtain ⟨rest, hrest⟩ : trim s <+: s.dropWhile isBlank := List.rdropWhile_prefix isBlank _
  have hfirst : (s.dropWhile isBlank).head? = some c := by
    rw [← hrest, List.head?_append, hc]
    rfl
  have hnot := List.head?_dropWhile_not isBlank s
  rwa [hfirst] at hnot

theorem getLast?_trim : ∀ c ∈ (trim s).getLast?, isBlank c = false := by
  intro c hc
  obtain ⟨hne, rfl⟩ := List.mem_getLast?_eq_getLast hc
  exact Bool.eq_false_iff.2 (List.rdropWhile_last_not isBlank (s.dropWhile isBlank) hne)

theorem trim_eq_self (hfirst : ∀ c ∈ s.head?, isBlank c = false) (hlast : ∀ c ∈ s.getLast?, isBlank c = false) :
    trim s = s := by
  have hleft : s.dropWhile isBlank = s := by
    cases s with
    | nil => rfl
    | cons c rest => exact List.dropWhile_cons_of_neg (by simpa using hfirst)
  rw [trim_eq, hleft, List.rdropWhile_eq_self_iff]
  intro hne
  simpa using hlast _ (List.getLast?_eq_some_getLast hne)

end TemplateTree.Text
