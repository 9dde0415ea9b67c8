import TemplateTree.Proofs.Text.Pieces
import TemplateTree.SearchPath

/-!
# Normal form of search paths

Splitting takes a search path to a list of entries: texts that are not empty, have no comma and neither begin nor end
with a blank. Written as a search path again, and split again, they are the same list; so a list of entries is the
normal form of every search path that is split into it.

* `cuts_append_comma`, `cuts_cons_of_isBlank`: a comma separates, and a blank at the start does nothing.
* `IsEntry`, `isEntry_of_mem_split`: the texts that splitting yields.
* `split_intercalate`: texts with separators between them are split text by text.
* `split_intercalate_eq_iff`: the lists that splitting gives back.
* `split_normal`: all of this for the entries of any search path.
-/

namespace TemplateTree.SearchPath

variable {s entry : String}

/-! ## Cutting -/

/-- What splitting makes of the characters of a text. -/
def cuts (s : List Char) : List (List Char) :=
  ((splitComma s).map Text.trim).filter (!·.isEmpty)

theorem split_eq (s : String) : split s = (cuts s.toList).map String.ofList := rfl

theorem splitComma_eq_splitOn (s : List Char) : splitComma s = s.splitOn ',' :=
  Text.eq_splitOn rfl (fun _ _ => rfl) s

/-- A comma separates what stands before it from what follows. -/
theorem cuts_append_comma (a b : List Char) : cuts (a ++ ',' :: b) = cuts a ++ cuts b := by
  unfold cuts
  rw [splitComma_eq_splitOn (a ++ _), List.splitOn_append_cons_self, ← splitComma_eq_splitOn,
    ← splitComma_eq_splitOn, List.map_append, List.filter_append]

/-- A blank at the start of a text leaves no trace. -/
theorem cuts_cons_of_isBlank {c : Char} (hc : Text.isBlank c = true) (s : List Char) : cuts (c :: s) = cuts s := by
  have hcomma : ¬(c == ',') = true := by
    intro h
    rw [eq_of_beq h] at hc
    exact absurd hc (by decide)
  unfold cuts
  rw [splitComma, if_neg hcomma]
  cases splitComma s with
  | nil => rw [List.map_singleton, Text.trim_cons_of_isBlank hc]; rfl
  | cons piece pieces => rw [List.map_cons, Text.trim_cons_of_isBlank hc, List.map_cons]

/-- The comma and the space between two entries leave no trace. -/
theorem cuts_separated (a b : List Char) : cuts (a ++ ',' :: ' ' :: b) = cuts a ++ cuts b := by
  rw [cuts_append_comma, cuts_cons_of_isBlank (by decide)]

theorem cuts_intercalate (texts : List String) :
    cuts (separator.intercalate texts).toList = texts.flatMap fun text => cuts text.toList := by
  induction texts with
  | nil => rfl
  | cons text texts ih =>
    cases texts with
    | nil => simp
    | cons next texts =>
      have hcut := cuts_separated text.toList (separator.intercalate (next :: texts)).toList
      rw [List.flatMap_cons, ← ih, ← hcut, String.intercalate_cons_cons]
      simp [separator]

/-- Texts with separators between them are split text by text. -/
theorem split_intercalate (texts : List String) : split (separator.intercalate texts) = texts.flatMap split := by
  rw [split_eq, cuts_intercalate, List.map_flatMap]
  rfl

/-! ## Entries -/

/-- An entry of a search path: it is not empty, has no comma, and neither begins nor ends with a blank. -/
structure IsEntry (entry : String) : Prop where
  ne_empty : entry ≠ ""
  no_comma : ',' ∉ entry.toList
  first : ∀ c ∈ entry.toList.head?, Text.isBlank c = false
  last : ∀ c ∈ entry.toList.getLast?, Text.isBlank c = false

theorem isEntry_of_mem_split (h : entry ∈ split s) : IsEntry entry := by
  rw [split_eq] at h
  obtain ⟨_, hcut, rfl⟩ := List.mem_map.1 h
  obtain ⟨htrim, hne⟩ := List.mem_filter.1 hcut
  obtain ⟨piece, hpiece, rfl⟩ := List.mem_map.1 htrim
  rw [splitComma_eq_splitOn] at hpiece
  have hcomma : ',' ∉ Text.trim piece := fun hmem =>
    Text.not_mem_of_mem_splitOn piece hpiece (Text.mem_of_mem_trim hmem)
  refine ⟨?_, ?_, ?_, ?_⟩
  · simpa using hne
  · simpa using hcomma
  · simpa using Text.head?_trim (s := piece)
  · simpa using Text.getLast?_trim (s := piece)

/-- An entry is its own only piece. -/
theorem IsEntry.cuts_eq (h : IsEntry entry) : cuts entry.toList = [entry.toList] := by
  have hne : entry.toList ≠ [] := fun hnil => h.ne_empty (String.toList_eq_nil_iff.1 hnil)
  unfold cuts
  rw [splitComma_eq_splitOn, List.splitOn_eq_singleton h.no_comma, List.map_singleton,
    Text.trim_eq_self h.first h.last, List.filter_cons_of_pos (by simpa using hne)]
  rfl

theorem IsEntry.split_eq_singleton (h : IsEntry entry) : split entry = [entry] := by
  rw [split_eq, h.cuts_eq, List.map_singleton, String.ofList_toList]

/-- Splitting gives a list of texts back just when all of them are entries. -/
theorem split_intercalate_eq_iff {texts : List String} :
    split (separator.intercalate texts) = texts ↔ ∀ text ∈ texts, IsEntry text := by
  constructor
  · intro h text htext
    rw [← h] at htext
    exact isEntry_of_mem_split htext
  · intro h
    calc split (separator.intercalate texts)
      _ = texts.flatMap split := split_intercalate texts
      _ = texts.flatMap fun text => [text] := List.flatMap_congr fun text htext => (h text htext).split_eq_singleton
      _ = texts := List.flatMap_singleton' texts

/-- Two search paths with a comma between them have the entries of the one, then those of the other. -/
theorem split_append_comma (s t : String) : split (s ++ "," ++ t) = split s ++ split t := by
  have htext : (s ++ "," ++ t).toList = s.toList ++ ',' :: t.toList := by simp
  rw [split_eq, htext, cuts_append_comma, List.map_append]
  rfl

/-- Splitting takes every search path to its normal form. What it yields are entries. Joined again, they are split
    into the same list; of all lists of texts, just those of entries come back so. And splitting goes piece by piece:
    a comma between two search paths puts the entries of the second behind those of the first. -/
theorem split_normal (s t : String) (texts : List String) :
    (∀ entry ∈ split s, IsEntry entry) ∧
      split (separator.intercalate (split s)) = split s ∧
      (split (separator.intercalate texts) = texts ↔ ∀ text ∈ texts, IsEntry text) ∧
      split (s ++ "," ++ t) = split s ++ split t := by
  have hentries : ∀ entry ∈ split s, IsEntry entry := fun _ hentry => isEntry_of_mem_split hentry
  exact ⟨hentries, split_intercalate_eq_iff.2 hentries, split_intercalate_eq_iff, split_append_comma s t⟩

/-- Blanks of all kinds around entries are gone, and so are empty pieces; blanks inside an entry stay. -/
theorem split_normal_tangled :
    let s := " /a b ,,\t,\u2003/c\u00a0"
    split s = ["/a b", "/c"] ∧ (∀ entry ∈ ["/a b", "/c"], IsEntry entry) ∧
      split "/a b, /c" = ["/a b", "/c"] ∧ ¬IsEntry "/a, b" ∧ split (s ++ "," ++ "/d,") = ["/a b", "/c", "/d"] := by
  intro s
  have hfirst : split s = ["/a b", "/c"] := by decide +kernel
  have hsecond : split "/d," = ["/d"] := by decide +kernel
  have hcut : split "/a, b" ≠ ["/a, b"] := by decide +kernel
  obtain ⟨hentries, hagain, honly, happend⟩ := split_normal s "/d," ["/a, b"]
  rw [hfirst] at hentries hagain happend
  rw [hsecond] at happend
  exact ⟨hfirst, hentries, hagain, fun h => hcut (honly.2 (by simpa using h)), happend⟩

end TemplateTree.SearchPath
