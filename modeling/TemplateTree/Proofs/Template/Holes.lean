import Mathlib.Data.List.Infix
import Mathlib.Tactic.SplitIfs
import TemplateTree.Template.Lexer

/-!
# Texts with holes

Templates that are plain text apart from holes, in each of which a name is printed. Reading such a text
normalises its line breaks, and that does not touch the holes.

* `Holed`, `Holed.source`: texts with holes, and how they are written.
* `Holed.filled`: the text with values in the holes.
* `Holed.parts`: the texts and holes, one after the other.
* `Holed.IsLiteral`: nothing between the holes looks like the start of a tag.
* `normalizeBreaks_source`, `Holed.IsLiteral.normalized`: what normalisation does.
-/

namespace TemplateTree.Template

open Text

/-- What is printed in a hole: one of the values that follow from the path of an input file. -/
inductive Hole
  | package
  | className
  deriving DecidableEq, Repr

/-- The name of a value. -/
def Hole.name : Hole → String
  | .package => "package"
  | .className => "class"

/-- A text with holes in it. -/
inductive Holed
  | last (text : String)
  | hole (text : String) (h : Hole) (rest : Holed)

/-- A text without the marks that start tags. -/
def IsPlain (s : List Char) : Prop :=
  ∀ c ∈ ['{', '%', '#'], ¬['{', c] <:+: s

instance (s : List Char) : Decidable (IsPlain s) :=
  List.decidableBAll _ _

namespace Holed

/-- The text as it is written. -/
def source : Holed → String
  | .last text => text
  | .hole text h rest => text ++ "\x7b\x7b " ++ h.name ++ " \x7d\x7d" ++ rest.source

/-- The text with values in the holes; line breaks between them are line feeds. -/
def filled (value : Hole → String) : Holed → String
  | .last text => normalizeNewlines text
  | .hole text h rest => normalizeNewlines text ++ value h ++ rest.filled value

/-- Between the holes there are no marks that start tags; none comes about at a hole, either. -/
def IsLiteral : Holed → Prop
  | .last text => IsPlain text.toList
  | .hole text _ rest => IsPlain text.toList ∧ text.toList.getLast? ≠ some '{' ∧ rest.IsLiteral

instance decidableIsLiteral : (t : Holed) → Decidable t.IsLiteral
  | .last text => inferInstanceAs (Decidable (IsPlain text.toList))
  | .hole _ _ rest =>
    have := rest.decidableIsLiteral
    inferInstanceAs (Decidable (_ ∧ _ ∧ _))

/-- The same text with line feeds only. -/
def normalized : Holed → Holed
  | .last text => .last (normalizeNewlines text)
  | .hole text h rest => .hole (normalizeNewlines text) h rest.normalized

/-- A text as a part, unless it is empty. -/
def textPart (text : String) : List (String ⊕ Hole) :=
  if text.toList.isEmpty then [] else [.inl text]

/-- The texts that are not empty and the holes, in order. -/
def parts : Holed → List (String ⊕ Hole)
  | .last text => textPart text
  | .hole text h rest => textPart text ++ .inr h :: rest.parts

end Holed

/-! ## Plain texts -/

theorem isPlain_cons {a : Char} {s : List Char} :
    IsPlain (a :: s) ↔ (a = '{' → ∀ c ∈ ['{', '%', '#'], s.head? ≠ some c) ∧ IsPlain s := by
  simp only [IsPlain, List.infix_cons_iff, not_or, List.cons_prefix_cons]
  constructor
  · intro h
    refine ⟨?_, fun c hc => (h c hc).2⟩
    rintro rfl c hc hs
    cases s with
    | nil => cases hs
    | cons b s =>
      obtain rfl : b = c := Option.some.inj hs
      exact (h b hc).1 ⟨rfl, by simp⟩
  · rintro ⟨hhead, hs⟩ c hc
    refine ⟨?_, hs c hc⟩
    rintro ⟨rfl, hprefix⟩
    cases s with
    | nil => simp at hprefix
    | cons b s =>
      have hcb : c = b := by simpa using hprefix
      exact hhead rfl c hc (by rw [hcb]; rfl)

/-- A plain text that does not end in a brace stays plain in front of one. -/
theorem isPlain_concat {s : List Char} (h : IsPlain s) (hlast : s.getLast? ≠ some '{') :
    IsPlain (s ++ ['{']) := by
  induction s with
  | nil =>
    rw [List.nil_append, isPlain_cons]
    refine ⟨fun _ c _ => by simp, fun c _ => by simp⟩
  | cons a s ih =>
    rw [isPlain_cons] at h
    rw [List.cons_append, isPlain_cons]
    cases s with
    | nil =>
      refine ⟨fun ha => absurd (by simp [ha]) hlast, ?_⟩
      rw [List.nil_append, isPlain_cons]
      exact ⟨fun _ c _ => by simp, fun c _ => by simp⟩
    | cons b s =>
      rw [List.getLast?_cons_cons] at hlast
      exact ⟨by simpa using h.1, ih h.2 hlast⟩

theorem isPlain_of_concat {s : List Char} (h : IsPlain (s ++ ['{'])) :
    IsPlain s ∧ s.getLast? ≠ some '{' := by
  refine ⟨fun c hc hs => h c hc (hs.trans (List.prefix_append s _).isInfix), fun hlast => ?_⟩
  obtain ⟨front, rfl⟩ := List.getLast?_eq_some_iff.1 hlast
  refine h '{' (by simp) ?_
  rw [List.append_assoc]
  exact (List.suffix_append front _).isInfix

/-! ## Line breaks -/

theorem normalizeBreaks_cons {c : Char} (hc : c ≠ '\r') (s : List Char) :
    normalizeBreaks (c :: s) = c :: normalizeBreaks s := by
  rw [normalizeBreaks]
  · intro rest h
    exact absurd h hc
  · exact hc

theorem normalizeBreaks_return {s : List Char} (hs : s.head? ≠ some '\n') :
    normalizeBreaks ('\r' :: s) = '\n' :: normalizeBreaks s := by
  rw [normalizeBreaks]
  rintro rest rfl
  exact hs rfl

/-- Two parts are normalised apart unless a line break stretches over both. -/
theorem normalizeBreaks_append (s : List Char) {t : List Char} (ht : t.head? ≠ some '\n') :
    normalizeBreaks (s ++ t) = normalizeBreaks s ++ normalizeBreaks t := by
  fun_induction normalizeBreaks s with
  | case1 => rfl
  | case2 rest ih => simp [normalizeBreaks, ih]
  | case3 rest hrest ih =>
    rw [List.cons_append, normalizeBreaks_return, ih, List.cons_append]
    cases rest with
    | nil => exact ht
    | cons c rest =>
      intro h
      cases h
      exact hrest rest rfl
  | case4 c rest h1 h2 ih => rw [List.cons_append, normalizeBreaks_cons h2, ih, List.cons_append]

/-- The first character of a normalised text, unless it is a line feed. -/
theorem head?_of_normalizeBreaks {s : List Char} {c : Char} (hc : c ≠ '\n')
    (h : (normalizeBreaks s).head? = some c) : s.head? = some c := by
  fun_cases normalizeBreaks s
  · exact h
  · rw [normalizeBreaks] at h
    exact absurd (Option.some.inj h).symm hc
  · rename_i rest hrest
    rw [normalizeBreaks_return (by cases rest <;> simp_all)] at h
    exact absurd (Option.some.inj h).symm hc
  · rename_i h2
    rwa [normalizeBreaks_cons h2] at h

theorem IsPlain.normalizeBreaks {s : List Char} (h : IsPlain s) : IsPlain (normalizeBreaks s) := by
  fun_induction Text.normalizeBreaks s with
  | case1 => exact h
  | case2 rest ih =>
    rw [isPlain_cons, isPlain_cons] at h
    rw [isPlain_cons]
    exact ⟨fun ha => absurd ha (by decide), ih h.2.2⟩
  | case3 rest hrest ih =>
    rw [isPlain_cons] at h ⊢
    exact ⟨fun ha => absurd ha (by decide), ih h.2⟩
  | case4 c rest h1 h2 ih =>
    rw [isPlain_cons] at h ⊢
    refine ⟨fun hc d hd hhead => h.1 hc d hd (head?_of_normalizeBreaks ?_ hhead), ih h.2⟩
    rintro rfl
    revert hd
    decide

/-- A normalised text has no carriage returns. -/
theorem not_mem_normalizeBreaks (s : List Char) : '\r' ∉ normalizeBreaks s := by
  fun_induction normalizeBreaks s with
  | case1 => simp
  | case2 rest ih => simpa using ih
  | case3 rest hrest ih => simpa using ih
  | case4 c rest h1 h2 ih => simpa [Ne.symm h2] using ih

theorem normalizeBreaks_of_not_mem {s : List Char} (h : '\r' ∉ s) : normalizeBreaks s = s := by
  induction s with
  | nil => rfl
  | cons c s ih =>
    simp only [List.mem_cons, not_or] at h
    rw [normalizeBreaks_cons (Ne.symm h.1), ih h.2]

/-! ## Normalised texts with holes -/

namespace Holed

/-- A hole as it is written. -/
def written (h : Hole) : List Char :=
  '{' :: '{' :: ' ' :: (h.name.toList ++ [' ', '}', '}'])

theorem toList_source_hole (text : String) (h : Hole) (rest : Holed) :
    (Holed.hole text h rest).source.toList = text.toList ++ (written h ++ rest.source.toList) := by
  simp [source, written]

theorem normalizeBreaks_written (h : Hole) (s : List Char) :
    normalizeBreaks (written h ++ s) = written h ++ normalizeBreaks s := by
  cases h <;> simp [written, Hole.name, normalizeBreaks_cons]

/-- A text with holes is normalised between the holes. -/
theorem normalizeBreaks_source (t : Holed) :
    normalizeBreaks t.source.toList = t.normalized.source.toList := by
  induction t with
  | last text => simp [source, normalized, normalizeNewlines]
  | hole text h rest ih =>
    rw [toList_source_hole, normalized, toList_source_hole, normalizeBreaks_append _ (by simp [written]),
      normalizeBreaks_written, ih]
    simp [normalizeNewlines]

theorem IsLiteral.normalized {t : Holed} (h : t.IsLiteral) : t.normalized.IsLiteral := by
  induction t with
  | last text => simpa [Holed.normalized, IsLiteral, normalizeNewlines] using IsPlain.normalizeBreaks h
  | hole text hole rest ih =>
    obtain ⟨hplain, hlast, hrest⟩ := h
    have := (isPlain_concat hplain hlast).normalizeBreaks
    rw [normalizeBreaks_append _ (by simp)] at this
    obtain ⟨hplain', hlast'⟩ := isPlain_of_concat this
    exact ⟨by simpa [normalizeNewlines] using hplain', by simpa [normalizeNewlines] using hlast', ih hrest⟩

/-- The parts of a normalised text, put together with values for the holes. -/
theorem join_parts (value : Hole → String) (t : Holed) :
    String.join (t.normalized.parts.map (Sum.elim id value)) = t.filled value := by
  have htext : ∀ text : String,
      String.join ((textPart text).map (Sum.elim id value)) = text := by
    intro text
    unfold textPart
    split_ifs with h
    · exact (String.toList_inj.1 (List.isEmpty_iff.1 h)).symm
    · simp
  induction t with
  | last text => exact htext _
  | hole text h rest ih =>
    rw [normalized, parts, List.map_append, String.join_append, htext, List.map_cons, String.join_cons,
      ih, filled, String.append_assoc]
    rfl

/-- Between two texts there is a hole. -/
theorem isChain_parts (t : Holed) : t.parts.IsChain fun a b => a.isRight ∨ b.isRight := by
  induction t with
  | last text =>
    rw [parts, textPart]
    split_ifs <;> simp
  | hole text h rest ih =>
    have hhole : (Sum.inr h :: rest.parts).IsChain fun a b => a.isRight ∨ b.isRight := by
      cases hp : rest.parts with
      | nil => exact .singleton _
      | cons p ps => exact List.isChain_cons_cons.2 ⟨.inl rfl, hp ▸ ih⟩
    rw [parts, textPart]
    split_ifs
    · exact hhole
    · exact List.isChain_cons_cons.2 ⟨.inr rfl, hhole⟩

end Holed

end TemplateTree.Template
