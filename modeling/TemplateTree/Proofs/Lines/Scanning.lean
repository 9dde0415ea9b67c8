import Mathlib.Data.List.Infix
import TemplateTree.Proofs.Lines.Keeping
import TemplateTree.Template.Lexer

/-!
# Lines of a text

The tokens of a text, and the fault that ends them, have lines that the text has.

* `lineCount`, `IsLine`: the lines of a text.
* `scan_within`: every line that is found in a text is one of them.
-/

namespace TemplateTree.Template

/-- How many lines a text has. Every break ends a line, and one at the very end opens no further line; a text
    without breaks has one line. -/
def lineCount (source : String) : Nat :=
  1 + Text.lineFeeds (Text.normalizeBreaks source.toList).dropLast

/-- A line that a text has, counted from one. -/
def IsLine (source : String) (line : Nat) : Prop :=
  1 ≤ line ∧ line ≤ lineCount source

instance (source : String) (line : Nat) : Decidable (IsLine source line) :=
  inferInstanceAs (Decidable (_ ∧ _))

theorem isLine_one (source : String) : IsLine source 1 :=
  ⟨le_rfl, Nat.le_add_right 1 _⟩

namespace Lexer

open TemplateTree.Text

/-! ## What is left of a text -/

theorem takeSign_suffix (s : List Char) : (takeSign s).2 <:+ s := by
  unfold takeSign
  split
  · exact List.suffix_cons _ _
  · exact List.suffix_cons _ _
  · exact List.suffix_rfl

theorem skipBlank_suffix (s : List Char) : skipBlank s <:+ s :=
  List.dropWhile_suffix _

theorem afterWord?_suffix {word : String} {s rest : List Char} (h : afterWord? word s = some rest) : rest <:+ s := by
  unfold afterWord? at h
  split at h
  · exact Option.some.inj h ▸ List.drop_suffix _ s
  · cases h

theorem statementEnd?_suffix {trim plus : Bool} {s rest : List Char} (h : statementEnd? trim plus s = some rest) :
    rest <:+ s := by
  unfold statementEnd? at h
  split at h
  next r => exact Option.some.inj h ▸ (skipBlank_suffix r).trans (List.suffix_append ['-', '%', '\x7d'] r)
  next r =>
    split at h
    · exact Option.some.inj h ▸ List.suffix_append ['+', '%', '\x7d'] r
    · cases h
  next r =>
    split at h
    · exact Option.some.inj h ▸ List.suffix_append ['%', '\x7d', '\n'] r
    · exact Option.some.inj h ▸ List.suffix_append ['%', '\x7d'] ('\n' :: r)
  next r _ => exact Option.some.inj h ▸ List.suffix_append ['%', '\x7d'] r
  · cases h

theorem printEnd?_suffix {s rest : List Char} (h : printEnd? s = some rest) : rest <:+ s := by
  unfold printEnd? at h
  split at h
  next r => exact Option.some.inj h ▸ (skipBlank_suffix r).trans (List.suffix_append ['-', '\x7d', '\x7d'] r)
  next r => exact Option.some.inj h ▸ List.suffix_append ['\x7d', '\x7d'] r
  · cases h

theorem commentEnd?_suffix {trim : Bool} {s rest : List Char} (h : commentEnd? trim s = some rest) : rest <:+ s := by
  unfold commentEnd? at h
  split at h
  next r => exact Option.some.inj h ▸ (skipBlank_suffix r).trans (List.suffix_append ['-', '#', '\x7d'] r)
  next r => exact Option.some.inj h ▸ List.suffix_append ['+', '#', '\x7d'] r
  next r =>
    split at h
    · exact Option.some.inj h ▸ List.suffix_append ['#', '\x7d', '\n'] r
    · exact Option.some.inj h ▸ List.suffix_append ['#', '\x7d'] ('\n' :: r)
  next r _ => exact Option.some.inj h ▸ List.suffix_append ['#', '\x7d'] r
  · cases h

theorem tagAt?_suffix {s rest : List Char} {tag : Tag} {sign : Sign} (h : tagAt? s = some (tag, sign, rest)) :
    s ≠ [] ∧ rest <:+ s := by
  unfold tagAt? at h
  split at h
  next r =>
    refine ⟨List.cons_ne_nil _ _, List.IsSuffix.trans ?_ (List.suffix_append ['\x7b', '%'] r)⟩
    refine List.IsSuffix.trans ?_ (takeSign_suffix r)
    dsimp only at h
    split at h
    next r' hraw =>
      obtain ⟨w, hword, hend⟩ := Option.bind_eq_some_iff.1 hraw
      cases h
      exact (statementEnd?_suffix hend).trans ((skipBlank_suffix w).trans
        ((afterWord?_suffix hword).trans (skipBlank_suffix _)))
    next =>
      cases h
      exact List.suffix_rfl
  next r =>
    cases h
    exact ⟨List.cons_ne_nil _ _, (takeSign_suffix r).trans (List.suffix_append ['\x7b', '\x7b'] r)⟩
  next r =>
    cases h
    exact ⟨List.cons_ne_nil _ _, (takeSign_suffix r).trans (List.suffix_append ['\x7b', '#'] r)⟩
  next => cases h

theorem endRawAt?_suffix {trim : Bool} {s rest : List Char} {sign : Sign} (h : endRawAt? trim s = some (sign, rest)) :
    rest <:+ s := by
  unfold endRawAt? at h
  split at h
  next r =>
    obtain ⟨w, hword, h⟩ := Option.bind_eq_some_iff.1 h
    obtain ⟨r', hend, h⟩ := Option.bind_eq_some_iff.1 h
    obtain ⟨-, rfl⟩ : _ ∧ r' = rest := by simpa using h
    exact (statementEnd?_suffix hend).trans <| (skipBlank_suffix w).trans <| (afterWord?_suffix hword).trans <|
      (skipBlank_suffix _).trans <| (takeSign_suffix r).trans (List.suffix_append ['\x7b', '%'] r)
  next => cases h

/-- What is found behind a text stands there. -/
theorem splitAt?_some {α : Type} {at? : List Char → Option α} {s text : List Char} {a : α}
    (h : splitAt? at? s = (text, some a)) : ∃ t, text ++ t = s ∧ at? t = some a := by
  induction s generalizing text with
  | nil =>
    unfold splitAt? at h
    split at h
    next found hfound => exact ⟨[], by simp_all⟩
    next => cases h
  | cons c s ih =>
    unfold splitAt? at h
    split at h
    next found hfound => exact ⟨c :: s, by simp_all⟩
    next =>
      obtain ⟨rfl, hfound⟩ := Prod.mk.inj h
      obtain ⟨t, ht, ha⟩ := ih (Prod.ext rfl hfound)
      exact ⟨t, by rw [List.cons_append, ht], ha⟩

theorem splitAt?_none {α : Type} {at? : List Char → Option α} {s text : List Char}
    (h : splitAt? at? s = (text, none)) : text = s := by
  induction s generalizing text with
  | nil =>
    unfold splitAt? at h
    split at h
    · cases h
    · exact (Prod.mk.inj h).1.symm
  | cons c s ih =>
    unfold splitAt? at h
    split at h
    · cases h
    · obtain ⟨rfl, hfound⟩ := Prod.mk.inj h
      exact congrArg (c :: ·) (ih (Prod.ext rfl hfound))

theorem trimRight_prefix (s : List Char) : trimRight s <+: s := by
  have h : s.reverse.dropWhile isBlank <:+ s.reverse := List.dropWhile_suffix _
  simpa [trimRight, trimRightBy] using List.reverse_prefix.2 h

theorem keepBefore_isPrefix (lstrip : Bool) (tag : Tag) (sign : Sign) (freshLine : Bool) (s : List Char) :
    (keepBefore lstrip tag sign freshLine s).1 <+: s := by
  unfold keepBefore
  split
  · exact trimRight_prefix s
  · exact List.prefix_rfl
  · dsimp only
    split
    · exact List.take_prefix _ s
    · exact List.prefix_rfl

/-! ## Places -/

/-- A place in a text, whose line is that of the first character that is left. -/
def Place.In (s : List Char) (p : Place) : Prop :=
  ∃ before, before ++ p.rest = s ∧ p.line = 1 + lineFeeds before

/-- All lines on which a character of a text stands are among some lines. -/
def LinesOf (s : List Char) (ok : Nat → Prop) : Prop :=
  ∀ before c rest, before ++ c :: rest = s → ok (1 + lineFeeds before)

namespace Place.In

variable {s : List Char} {p : Place} {ok : Nat → Prop}

theorem moveTo (h : p.In s) {rest : List Char} (hrest : rest <:+ p.rest) : (p.moveTo rest).In s := by
  obtain ⟨before, hs, hline⟩ := h
  obtain ⟨used, hused⟩ := hrest
  have htake : p.rest.take (p.rest.length - rest.length) = used := by
    rw [← hused, List.length_append, Nat.add_sub_cancel, List.take_left]
  refine ⟨before ++ used, ?_, ?_⟩
  · rw [← hs, ← hused, List.append_assoc]
    rfl
  · simp only [Place.moveTo, htake, hline, lineFeeds, List.count_append]
    omega

/-- The line on which what is behind some of the rest begins. -/
theorem line_behind (h : p.In s) (hok : LinesOf s ok) {text t : List Char} (ht : text ++ t = p.rest) (hne : t ≠ []) :
    ok (p.line + lineFeeds text) := by
  obtain ⟨before, hs, hline⟩ := h
  obtain ⟨c, t, rfl⟩ := List.exists_cons_of_ne_nil hne
  have := hok (before ++ text) c t (by rw [List.append_assoc, ht, hs])
  simpa only [hline, lineFeeds, List.count_append, Nat.add_assoc] using this

theorem line (h : p.In s) (hok : LinesOf s ok) (hne : p.rest ≠ []) : ok p.line := by
  simpa [lineFeeds] using h.line_behind hok (List.nil_append _) hne

end Place.In

/-! ## Tokens -/

/-- The lines of tokens, and of the fault that ends them, are among some lines. -/
structure Lexed.Within (ok : Nat → Prop) (l : Lexed) : Prop where
  tokens : ∀ t ∈ l.tokens, ok t.line
  fault : ∀ f ∈ l.fault, f.On ok

section

variable {s : List Char} {p : Place} {ok : Nat → Prop}

theorem within_nothing : Lexed.nothing.Within ok :=
  ⟨nofun, nofun⟩

theorem within_failed {f : Fault} (hf : f.On ok) : (Lexed.failed f).Within ok :=
  ⟨nofun, fun _ h => Option.some.inj h ▸ hf⟩

theorem within_cons {t : Token} {l : Lexed} (ht : ok t.line) (hl : l.Within ok) : (l.cons t).Within ok :=
  ⟨List.forall_mem_cons.2 ⟨ht, hl.tokens⟩, hl.fault⟩

theorem within_dataToken {line : Nat} {text : List Char} {l : Lexed} (hline : text ≠ [] → ok line)
    (hl : l.Within ok) : (dataToken line text l).Within ok := by
  unfold dataToken
  split
  · exact hl
  next h => exact within_cons (hline (by simpa using h)) hl

/-- What is said when the end of a tag is missing: nothing, if the text ends there. -/
theorem within_missingEnd (h : p.In s) (hok : LinesOf s ok) (message : String) :
    (if p.rest.isEmpty then Lexed.nothing else .failed (.syntaxAt p.line message)).Within ok := by
  split
  · exact within_nothing
  next hne => exact within_failed (h.line hok (by simpa using hne))

theorem skipComment_ok (h : p.In s) {config : Config} {next : Place} (hnext : skipComment config p = .ok next) :
    next.In s := by
  unfold skipComment at hnext
  split at hnext
  next before rest hsplit =>
    obtain ⟨t, ht, hend⟩ := splitAt?_some hsplit
    exact Except.ok.inj hnext ▸ h.moveTo ((commentEnd?_suffix hend).trans (ht ▸ List.suffix_append before t))
  next => cases hnext

theorem skipComment_error (h : p.In s) (hok : LinesOf s ok) {config : Config} {l : Lexed}
    (hl : skipComment config p = .error l) : l.Within ok := by
  unfold skipComment at hl
  split at hl
  next => cases hl
  next => exact Except.error.inj hl ▸ within_missingEnd h hok _

theorem readRaw_ok (h : p.In s) (hok : LinesOf s ok) {config : Config} {body : List Char} {next : Place}
    (hnext : readRaw config p = .ok (body, next)) : (body ≠ [] → ok p.line) ∧ next.In s := by
  unfold readRaw at hnext
  split at hnext
  next text sign rest hsplit =>
    obtain ⟨t, ht, hend⟩ := splitAt?_some hsplit
    obtain ⟨rfl, rfl⟩ := Prod.mk.inj (Except.ok.inj hnext)
    refine ⟨fun hne => h.line hok fun hnil => hne ?_, ?_⟩
    · obtain rfl : text = [] := (List.append_eq_nil_iff.1 (ht.trans hnil)).1
      exact List.prefix_nil.1 (keepBefore_isPrefix _ _ _ _ _)
    · exact h.moveTo ((endRawAt?_suffix hend).trans (ht ▸ List.suffix_append text t))
  next => cases hnext

theorem readRaw_error (h : p.In s) (hok : LinesOf s ok) {config : Config} {l : Lexed}
    (hl : readRaw config p = .error l) : l.Within ok := by
  unfold readRaw at hl
  split at hl
  next => cases hl
  next => exact Except.error.inj hl ▸ within_missingEnd h hok _

theorem tagEnd?_suffix {config : Config} {tag : Tag} {s rest : List Char} {kind : TokenKind}
    (h : tagEnd? config tag s = some (kind, rest)) : rest <:+ s := by
  unfold tagEnd? at h
  split at h
  all_goals
    obtain ⟨r, hr, heq⟩ := Option.map_eq_some_iff.1 h
    obtain ⟨-, rfl⟩ := Prod.mk.inj heq
  · exact printEnd?_suffix hr
  · exact statementEnd?_suffix hr

theorem pieceAt_fault {line position : Nat} {afterPoint : Bool} {f : Fault}
    (h : pieceAt line position afterPoint s = .fault f) (hline : ok line) : f.On ok := by
  unfold pieceAt at h
  grind [stringPiece, integerValue, Fault.syntaxAt, Fault.value, Fault.On, Fault.Within]

theorem balance_fault {line : Nat} {o : Operator} {stack : List Operator} {f : Fault}
    (h : balance line o stack = .error f) (hline : ok line) : f.On ok := by
  unfold balance at h
  grind [Fault.syntaxAt, Fault.On, Fault.Within]

/-- Every line that the tokens from a place on have is one on which a character stands. -/
theorem run_within (hok : LinesOf s ok) (config : Config) (fuel : Nat) (mode : Mode) {p : Place} (h : p.In s) :
    (run config fuel mode p).Within ok := by
  induction fuel generalizing mode p with
  | zero => exact within_nothing
  | succ fuel ih =>
    cases mode with
    | data =>
      unfold run
      split
      next text hsplit =>
        obtain rfl := splitAt?_none hsplit
        exact within_dataToken (h.line hok) within_nothing
      next text tag sign rest hsplit =>
        obtain ⟨t, ht, htag⟩ := splitAt?_some hsplit
        obtain ⟨hne, hrest⟩ := tagAt?_suffix htag
        have hinner : (p.moveTo rest).In s := h.moveTo (hrest.trans (ht ▸ List.suffix_append text t))
        have htagLine : ok (p.line + lineFeeds text) := h.line_behind hok ht hne
        have hline : ok p.line := h.line hok fun hnil => hne (List.append_eq_nil_iff.1 (ht.trans hnil)).2
        dsimp only
        refine within_dataToken (fun _ => hline) ?_
        cases tag with
        | statement => exact within_cons htagLine (ih _ hinner)
        | print => exact within_cons htagLine (ih _ hinner)
        | comment =>
          dsimp only
          split
          next next' hnext => exact ih _ (skipComment_ok hinner hnext)
          next l hl => exact skipComment_error hinner hok hl
        | raw =>
          dsimp only
          split
          next body next' hnext =>
            obtain ⟨hbody, hnext⟩ := readRaw_ok hinner hok hnext
            exact within_dataToken hbody (ih _ hnext)
          next l hl => exact readRaw_error hinner hok hl
    | inside tag stack =>
      unfold run
      split
      · exact within_nothing
      next hne =>
        have hline : ok p.line := h.line hok (by simpa using hne)
        split
        next kind rest hend =>
          refine within_cons hline (ih _ (h.moveTo ?_))
          split at hend
          · exact tagEnd?_suffix hend
          · cases hend
        next =>
          split
          next f hf => exact within_failed (pieceAt_fault hf hline)
          next n _ => exact ih _ (h.moveTo (List.drop_suffix n p.rest))
          next kind n _ =>
            have hnext := h.moveTo (List.drop_suffix n p.rest)
            dsimp only
            split
            · split
              next f hf => exact within_failed (balance_fault hf hline)
              next => exact within_cons hline (ih _ hnext)
            · exact within_cons hline (ih _ hnext)

end

/-- Every line on which a character of the prepared text stands is a line of the text itself. -/
theorem linesOf_prepare (config : Config) (source : String) :
    LinesOf (prepare config source.toList) (IsLine source) := by
  intro before c rest h
  have hcut : before ++ [c] <+: normalizeBreaks source.toList := by
    have hprefix : before ++ [c] <+: prepare config source.toList := ⟨rest, by rw [← h, List.append_assoc]; rfl⟩
    refine hprefix.trans ?_
    unfold prepare
    dsimp only
    split
    · exact List.dropLast_prefix _
    · exact List.prefix_rfl
  obtain ⟨t, ht⟩ := hcut
  refine ⟨Nat.le_add_right 1 _, Nat.add_le_add_left ?_ 1⟩
  have hbefore : before <+: (normalizeBreaks source.toList).dropLast := by
    rw [← ht, List.append_assoc, List.dropLast_append_of_ne_nil (by simp)]
    exact List.prefix_append _ _
  exact hbefore.sublist.count_le '\n'

/-- Every line that is found in a text is one of its lines. -/
theorem scan_within (config : Config) (source : String) : (scan config source).Within (IsLine source) :=
  run_within (linesOf_prepare config source) config _ .data ⟨[], rfl, rfl⟩

end Lexer

end TemplateTree.Template
