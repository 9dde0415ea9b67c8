import TemplateTree.Proofs.Template.Holes

/-!
# Cutting texts with holes into tokens

A text with holes becomes one token of data for every text that is not empty, and three tokens for every
hole.

* `Holed.kinds`: the kinds of the tokens.
* `splitAt?_plain`: the first tag behind a plain text.
* `run_hole`, `run_holed`: one hole, and the whole text.
-/

namespace TemplateTree.Template

open Text Lexer

/-- The kinds of the tokens of a text or a hole. -/
def partKinds : String ⊕ Hole → List TokenKind
  | .inl text => [.data text]
  | .inr h => [.variableBegin, .name h.name, .variableEnd]

/-- The kinds of the tokens of a text with holes. -/
def Holed.kinds (t : Holed) : List TokenKind :=
  t.parts.flatMap partKinds

namespace Lexer

variable {config : Config} {s : List Char} {p : Place} {kinds : List TokenKind} {l : Lexed}

/-- Tokens of certain kinds, without a fault. -/
def Lexed.HasKinds (l : Lexed) (kinds : List TokenKind) : Prop :=
  l.tokens.map (·.kind) = kinds ∧ l.fault = none

theorem Lexed.HasKinds.cons (h : l.HasKinds kinds) (t : Token) :
    (l.cons t).HasKinds (t.kind :: kinds) :=
  ⟨by rw [Lexed.cons, List.map_cons, h.1], h.2⟩

theorem hasKinds_dataToken (h : l.HasKinds kinds) (line : Nat) (s : List Char) :
    (dataToken line s l).HasKinds ((Holed.textPart (String.ofList s)).flatMap partKinds ++ kinds) := by
  unfold dataToken Holed.textPart
  rw [String.toList_ofList]
  split_ifs
  · exact h
  · exact h.cons _

/-! ## Data -/

theorem tagAt?_cons {a : Char} (h : a = '{' → ∀ c ∈ ['{', '%', '#'], s.head? ≠ some c) :
    tagAt? (a :: s) = none := by
  unfold tagAt?
  split
  · rename_i rest heq
    cases heq
    exact absurd rfl (h rfl '%' (by simp))
  · rename_i rest heq
    cases heq
    exact absurd rfl (h rfl '{' (by simp))
  · rename_i rest heq
    cases heq
    exact absurd rfl (h rfl '#' (by simp))
  · rfl

/-- In a plain text there is no tag. -/
theorem splitAt?_plain (h : IsPlain s) : splitAt? tagAt? s = (s, none) := by
  induction s with
  | nil => rfl
  | cons a s ih =>
    rw [isPlain_cons] at h
    rw [splitAt?, tagAt?_cons h.1, ih h.2]

/-- Behind a plain text that does not end in a brace, a tag starts where it is written. -/
theorem splitAt?_plain_append (h : IsPlain (s ++ ['{'])) {rest : List Char}
    {found : Tag × Sign × List Char} (hfound : tagAt? ('{' :: rest) = some found) :
    splitAt? tagAt? (s ++ '{' :: rest) = (s, some found) := by
  induction s with
  | nil => rw [List.nil_append, splitAt?, hfound]
  | cons a s ih =>
    rw [List.cons_append, isPlain_cons] at h
    have hnone : tagAt? (a :: (s ++ '{' :: rest)) = none := by
      refine tagAt?_cons fun ha c hc => ?_
      have := h.1 ha c hc
      cases s with
      | nil => exact this
      | cons b s => exact this
    rw [List.cons_append, splitAt?, hnone, ih h.2]

@[simp] theorem moveTo_rest (p : Place) (rest : List Char) : (p.moveTo rest).rest = rest := rfl

theorem keepBefore_print (lstrip freshLine : Bool) (s : List Char) :
    keepBefore lstrip .print .none freshLine s = (s, 0) := by
  simp [keepBefore]

/-! ## Holes -/

theorem pieceAt_space (line position : Nat) (afterPoint : Bool) {c : Char} (hc : isBlank c = false)
    (s : List Char) : pieceAt line position afterPoint (' ' :: c :: s) = .space 1 := by
  have htake : (' ' :: c :: s).takeWhile isBlank = [' '] := by
    rw [List.takeWhile_cons_of_pos (by decide), List.takeWhile_cons_of_neg (by simp [hc])]
  unfold pieceAt
  extract_lets spaces float integer word
  have hspaces : spaces = 1 := by
    simp only [spaces, htake]
    rfl
  clear_value spaces float integer word
  rw [hspaces]
  rfl

theorem takeGrouped_of_not_digit {c : Char} (hc : isDigit c = false) (s : List Char) :
    Decimal.takeGrouped (c :: s) = ([], c :: s) := by
  unfold Decimal.takeGrouped Decimal.takeGrouped.go
  split
  · simp_all
  · simp_all
  · simp_all

theorem integerLength_of_not_digit {c : Char} (hc : isDigit c = false) (s : List Char) :
    integerLength (c :: s) = 0 := by
  have hrange : ¬(0x30 ≤ c.toNat ∧ c.toNat ≤ 0x39) := by
    intro h
    simp [isDigit, digitValue?, h] at hc
  unfold integerLength
  split
  · rename_i heq
    cases heq
    exact absurd (by decide) hrange
  · rename_i d rest hne heq
    cases heq
    rw [if_neg]
    intro h
    simp only [Bool.and_eq_true, decide_eq_true_eq] at h
    have h1 : 0x31 ≤ c.toNat := h.1
    have h9 : c.toNat ≤ 0x39 := h.2
    omega
  · rfl

/-- A word that is followed by a blank is one token inside a tag. -/
theorem pieceAt_word (line position : Nat) (afterPoint : Bool) (c : Char) (word : List Char)
    (hc : isBlank c = false) (hdigit : isDigit c = false)
    (hchars : ∀ d ∈ c :: word, isNameChar d = true) (hword : isIdentifier (c :: word) = true)
    (s : List Char) :
    pieceAt line position afterPoint (c :: word ++ ' ' :: s)
      = .token (.name (String.ofList (c :: word))) (c :: word).length := by
  have htake : (c :: word ++ ' ' :: s).takeWhile isBlank = [] := by
    rw [List.cons_append, List.takeWhile_cons_of_neg (by simp [hc])]
  have hname : (c :: word ++ ' ' :: s).takeWhile isNameChar = c :: word := by
    rw [List.takeWhile_append_of_pos hchars, List.takeWhile_cons_of_neg (by decide),
      List.append_nil]
  unfold pieceAt
  extract_lets spaces float integer name
  have hspaces : spaces = 0 := by
    simp only [spaces, htake]
    rfl
  have hfloat : float = 0 := by
    simp only [float, floatLength, List.cons_append, takeGrouped_of_not_digit hdigit]
    simp
  have hinteger : integer = 0 := by
    simp only [integer, List.cons_append, integerLength_of_not_digit hdigit]
  have hname' : name = c :: word := hname
  clear_value spaces float integer name
  subst hspaces hfloat hinteger hname'
  simp [hword]

theorem pieceAt_name (line position : Nat) (afterPoint : Bool) (h : Hole) (s : List Char) :
    pieceAt line position afterPoint (h.name.toList ++ ' ' :: s)
      = .token (.name h.name) h.name.toList.length := by
  cases h
  · exact pieceAt_word line position afterPoint 'p' "ackage".toList
      (by decide) (by decide) (List.all_eq_true.1 (by decide)) (by decide) s
  · exact pieceAt_word line position afterPoint 'c' "lass".toList
      (by decide) (by decide) (List.all_eq_true.1 (by decide)) (by decide) s

theorem printEnd?_of_ne {c : Char} (h1 : c ≠ '-') (h2 : c ≠ '}') (s : List Char) :
    printEnd? (c :: s) = none := by
  unfold printEnd?
  split
  · rename_i heq
    cases heq
    exact absurd rfl h1
  · rename_i heq
    cases heq
    exact absurd rfl h2
  · rfl

/-- Inside a print tag, a piece that is no end of the tag is passed over. -/
theorem run_space {fuel : Nat} {c : Char} (hc : isBlank c = false) (hp : p.rest = ' ' :: c :: s) :
    run config (fuel + 1) (.inside .print []) p
      = run config fuel (.inside .print []) (p.moveTo (c :: s)) := by
  simp [run, hp, tagEnd?, printEnd?_of_ne, pieceAt_space _ _ _ hc]

/-- The tokens of a hole, and those behind it. -/
theorem run_hole {fuel : Nat} (h : Hole) (rest : List Char)
    (hp : p.rest = ' ' :: (h.name.toList ++ ' ' :: '}' :: '}' :: rest))
    (hrest : ∀ q : Place, q.rest = rest → (run config fuel .data q).HasKinds kinds) :
    (run config (fuel + 4) (.inside .print []) p).HasKinds
      (.name h.name :: .variableEnd :: kinds) := by
  obtain ⟨c, word, hname, hblank, hne⟩ : ∃ c word, h.name.toList = c :: word ∧ isBlank c = false ∧
      c ≠ '-' ∧ c ≠ '}' := by
    cases h
    · exact ⟨'p', _, rfl, by decide⟩
    · exact ⟨'c', _, rfl, by decide⟩
  rw [hname, List.cons_append] at hp
  rw [run_space hblank hp]
  set q := p.moveTo (c :: (word ++ ' ' :: '}' :: '}' :: rest)) with hq
  have hqrest : q.rest = h.name.toList ++ ' ' :: '}' :: '}' :: rest := by
    rw [hname]
    rfl
  have hpiece := pieceAt_name q.line q.offset (q.before == some '.') h ('}' :: '}' :: rest)
  rw [← hqrest] at hpiece
  have hend : tagEnd? config .print q.rest = none := by
    rw [hqrest, hname]
    simp [tagEnd?, printEnd?_of_ne hne.1 hne.2]
  have hempty : q.rest.isEmpty = false := by
    rw [hqrest, hname]
    rfl
  have hdrop : q.rest.drop h.name.toList.length = ' ' :: '}' :: '}' :: rest := by
    rw [hqrest, List.drop_left]
  have hstep : run config (fuel + 3) (.inside .print []) q
      = (run config (fuel + 2) (.inside .print []) (q.moveTo (' ' :: '}' :: '}' :: rest))).cons
        ⟨q.line, .name h.name⟩ := by
    rw [run]
    simp [hempty, hend, hpiece, hdrop]
  rw [hstep, run_space (c := '}') (by decide) (moveTo_rest q _)]
  refine Lexed.HasKinds.cons ?_ _
  rw [run]
  simp only [moveTo_rest, List.isEmpty_cons, List.isEmpty_nil, if_true, tagEnd?, printEnd?]
  exact (hrest _ rfl).cons _

/-! ## Whole texts -/

/-- The tokens of a text with holes. -/
theorem run_holed {t : Holed} (ht : t.IsLiteral) {fuel : Nat} (hp : p.rest = t.source.toList)
    (hfuel : t.source.toList.length < fuel) : (run config fuel .data p).HasKinds t.kinds := by
  induction t generalizing fuel p with
  | last text =>
    obtain ⟨fuel, rfl⟩ : ∃ n, fuel = n + 1 := ⟨fuel - 1, by omega⟩
    rw [run, hp, Holed.source, splitAt?_plain ht]
    have hnothing : Lexed.nothing.HasKinds [] := ⟨rfl, rfl⟩
    simpa [Holed.kinds, Holed.parts] using hasKinds_dataToken hnothing p.line text.toList
  | hole text h rest ih =>
    obtain ⟨hplain, hlast, hrest⟩ := ht
    rw [Holed.toList_source_hole] at hp hfuel
    simp only [Holed.written, List.length_append, List.length_cons, List.length_nil] at hfuel
    obtain ⟨fuel, rfl⟩ : ∃ n, fuel = n + 5 := ⟨fuel - 5, by omega⟩
    set inner := ' ' :: (h.name.toList ++ ' ' :: '}' :: '}' :: rest.source.toList) with hinner
    have hwritten : Holed.written h ++ rest.source.toList = '{' :: '{' :: inner := by
      simp [Holed.written, hinner]
    have htag : tagAt? ('{' :: '{' :: inner) = some (.print, .none, inner) := rfl
    rw [hwritten] at hp
    rw [run, hp, splitAt?_plain_append (isPlain_concat hplain hlast) htag]
    simp only [keepBefore_print]
    have hhole : (run config (fuel + 4) (.inside .print []) (p.moveTo inner)).HasKinds
        (.name h.name :: .variableEnd :: rest.kinds) :=
      run_hole h rest.source.toList rfl fun q hq => ih hrest hq (by omega)
    have := hasKinds_dataToken (hhole.cons ⟨p.line + lineFeeds text.toList, .variableBegin⟩)
      p.line text.toList
    simpa [Holed.kinds, Holed.parts, partKinds] using this

/-- The tokens of a template that is a text with holes. -/
theorem scan_holed {t : Holed} (ht : t.IsLiteral) (hconfig : config.keepTrailingNewline = true) :
    (scan config t.source).HasKinds t.normalized.kinds := by
  have hprepare : prepare config t.source.toList = t.normalized.source.toList := by
    simp [prepare, hconfig, Holed.normalizeBreaks_source]
  rw [scan, hprepare]
  exact run_holed ht.normalized rfl (by omega)

end Lexer

end TemplateTree.Template
