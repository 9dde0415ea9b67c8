import TemplateTree.Proofs.Template.Lexing
import TemplateTree.Template.Parser

/-!
# Parsing texts with holes

A name in a print tag passes all levels of the grammar unchanged: no operator follows, so that every level
gives back what the level below it has read.

* `loop_done`: a repetition that ends at once.
* `ReadsAll`, `readsAll_name`: a name before the end of a tag.
* `gather_parts`, `parse_holed`: what a text with holes is made of, and that it is read so.
-/

namespace TemplateTree.Template.Parser

variable {α β : Type} {s t : State} {e : Expr String} {r : Rules}

/-! ## Steps of the parser -/

theorem run_bind_ok {x : Parse α} {a : α} (h : x.run s = .ok (a, t)) (f : α → Parse β) :
    (x >>= f).run s = (f a).run t := by
  rw [StateT.run_bind, h]
  rfl

/-- A repetition whose first step has a result. -/
theorem loop_done {step : α → Parse (α ⊕ β)} {a : α} {b : β} (h : (step a).run s = .ok (.inr b, t)) :
    (loop step a).run s = .ok (b, t) := by
  have hstep : (loopWithin step (s.rest.length + 3) a).run s = .ok (b, t) := by
    rw [loopWithin, run_bind_ok h]
    rfl
  exact hstep

theorem run_line : line.run s = .ok (s.current.line, s) := rfl

theorem run_kind : kind.run s = .ok (s.current.kind, s) := rfl

theorem run_current : current.run s = .ok (s.current, s) := rfl

theorem run_advance {u : Token} {rest : List Token} (h : s.rest = u :: rest) :
    advance.run s = .ok (s.current, { s with current := u, rest }) := by
  simp [advance, h]
  rfl

/-- An operator that is not there is not taken. -/
theorem run_skipOp {o : Operator} (h : s.current.kind.isOp o = false) :
    (skipOp o).run s = .ok (false, s) := by
  rw [skipOp, run_bind_ok run_kind, h]
  rfl

/-- A word that is not there is not taken. -/
theorem run_skipWord {word : String} (h : s.current.kind.isName word = false) :
    (skipWord word).run s = .ok (false, s) := by
  rw [skipWord, run_bind_ok run_kind, h]
  rfl

/-! ## The levels of the grammar -/

/-- Reads an expression that the end of a print tag follows. -/
def ReadsAll (x : Parse (Expr String)) (s : State) (e : Expr String) (t : State) : Prop :=
  x.run s = .ok (e, t) ∧ t.current.kind = .variableEnd

theorem ReadsAll.postfixes {x : Parse (Expr String)} (h : ReadsAll x s e t) :
    ReadsAll (x >>= postfixes r) s e t := by
  refine ⟨?_, h.2⟩
  rw [run_bind_ok h.1]
  refine loop_done ?_
  rw [run_bind_ok run_kind, h.2]
  rfl

theorem ReadsAll.suffixes {x : Parse (Expr String)} (h : ReadsAll x s e t) :
    ReadsAll (x >>= suffixes r) s e t := by
  refine ⟨?_, h.2⟩
  rw [run_bind_ok h.1]
  refine loop_done ?_
  rw [run_bind_ok run_kind, h.2]
  rfl

theorem ReadsAll.leftGrouped {x : Parse (Expr String)} {op? : TokenKind → Option BinaryOp}
    (h : ReadsAll x s e t) (hop : op? .variableEnd = none) :
    ReadsAll (leftGrouped op? x) s e t := by
  refine ⟨?_, h.2⟩
  rw [Parser.leftGrouped, run_bind_ok run_line, run_bind_ok h.1]
  refine loop_done ?_
  rw [run_bind_ok run_kind, h.2, hop]
  rfl

theorem ReadsAll.wordGrouped {x : Parse (Expr String)} (h : ReadsAll x s e t) (word : String)
    (make : Nat → Expr String → Expr String → Expr String) :
    ReadsAll (wordGrouped word make x) s e t := by
  refine ⟨?_, h.2⟩
  rw [Parser.wordGrouped, run_bind_ok run_line, run_bind_ok h.1]
  refine loop_done ?_
  rw [run_bind_ok (run_skipWord (by rw [h.2]; rfl))]
  rfl

theorem ReadsAll.concatenation (h : ReadsAll (Parser.product r) s e t) :
    ReadsAll (concatenation r) s e t := by
  have hloop : (loop (fun items => do
      if ← skipOp .tilde then return .inl (items ++ [← product r]) else return .inr items) [e]).run t
      = .ok ([e], t) := by
    refine loop_done ?_
    rw [run_bind_ok (run_skipOp (by rw [h.2]; rfl))]
    rfl
  refine ⟨?_, h.2⟩
  rw [Parser.concatenation, run_bind_ok run_line, run_bind_ok h.1, run_bind_ok hloop]
  rfl

theorem ReadsAll.comparisons (h : ReadsAll (sum r) s e t) : ReadsAll (comparisons r) s e t := by
  have hnone : (comparison? r).run t = .ok (none, t) := by
    rw [comparison?, run_bind_ok run_kind, h.2]
    simp only [compareOp?]
    rw [run_bind_ok (run_skipWord (by rw [h.2]; rfl))]
    rfl
  refine ⟨?_, h.2⟩
  rw [Parser.comparisons, run_bind_ok run_line, run_bind_ok h.1]
  rw [run_bind_ok (loop_done (t := t) (b := ([], s.current.line)) ?_)]
  · rfl
  · rw [run_bind_ok hnone]
    rfl

/-! ## Names -/

theorem primary_name {name : String} {u : Token} {rest : List Token}
    (hname : s.current.kind = .name name) (hword : wordLiteral? name = none) (hs : s.rest = u :: rest) :
    (primary r).run s = .ok (.name s.current.line name, { s with current := u, rest }) := by
  rw [primary, run_bind_ok run_current, hname]
  simp only []
  rw [run_bind_ok (run_advance hs), hword]
  rfl

theorem ReadsAll.signed (h : ReadsAll (primary r) s e t) (hs : s.current.kind.isAnyName = true) :
    ReadsAll (Parser.signed r) s e t := by
  have hop : ∀ o, s.current.kind.isOp o = false := by
    intro o
    cases hk : s.current.kind <;> rw [hk] at hs <;> first | rfl | cases hs
  refine ⟨?_, h.2⟩
  rw [Parser.signed, run_bind_ok run_line, run_bind_ok (run_skipOp (hop .sub))]
  simp only [Bool.false_eq_true, if_false]
  rw [run_bind_ok (run_skipOp (hop .add))]
  exact (h.postfixes).1

theorem ReadsAll.product (h : ReadsAll (Parser.signed r) s e t) : ReadsAll (Parser.product r) s e t :=
  ((h.suffixes).leftGrouped rfl).leftGrouped rfl

theorem ReadsAll.disjunction (h : ReadsAll (Parser.comparisons r) s e t)
    (hs : s.current.kind.isName "not" = false) : ReadsAll (Parser.disjunction r) s e t := by
  have hnegation : ReadsAll (negation r) s e t := by
    refine ⟨?_, h.2⟩
    rw [negation, run_bind_ok run_line, run_bind_ok (run_skipWord hs)]
    exact h.1
  exact (hnegation.wordGrouped "and" .both).wordGrouped "or" .either

theorem ReadsAll.expression (h : ReadsAll (Parser.disjunction r) s e t) :
    ReadsAll (Parser.expression r) s e t := by
  refine ⟨?_, h.2⟩
  rw [Parser.expression, run_bind_ok run_line, run_bind_ok h.1]
  refine loop_done ?_
  rw [run_bind_ok (run_skipWord (by rw [h.2]; rfl))]
  rfl

/-- A single expression is no tuple. -/
theorem ReadsAll.tuple {x : Parse (Expr String)} (h : ReadsAll x s e t)
    (hs : s.current.kind.isAnyName = true) : ReadsAll (tuple x [] false) s e t := by
  have hend : (atTupleEnd []).run s = .ok (false, s) := by
    rw [atTupleEnd, run_bind_ok run_kind]
    cases hk : s.current.kind <;> rw [hk] at hs <;> first | rfl | cases hs
  refine ⟨?_, h.2⟩
  rw [Parser.tuple, tupleOf, run_bind_ok run_line]
  rw [run_bind_ok (loop_done (t := t) (b := ([e], false, s.current.line)) ?_)]
  · rfl
  · simp only [List.isEmpty_nil, Bool.not_true, Bool.false_eq_true, if_false]
    rw [run_bind_ok hend]
    simp only [Bool.false_eq_true, if_false]
    rw [run_bind_ok h.1, run_bind_ok run_kind, h.2]
    rfl

/-- A name before the end of a print tag is what is printed. -/
theorem readsAll_name {h : Hole} {u : Token} {rest : List Token}
    (hname : s.current.kind = .name h.name) (hs : s.rest = u :: rest) (hu : u.kind = .variableEnd) :
    ReadsAll (Parser.tuple (Parser.expression r) [] false) s (.name s.current.line h.name)
      { s with current := u, rest } := by
  have hword : wordLiteral? h.name = none := by cases h <;> rfl
  have hany : s.current.kind.isAnyName = true := by rw [hname]; rfl
  have hnot : s.current.kind.isName "not" = false := by rw [hname]; cases h <;> rfl
  have hprimary : ReadsAll (primary r) s (.name s.current.line h.name) { s with current := u, rest } :=
    ⟨primary_name hname hword hs, hu⟩
  have hsum : ReadsAll (sum r) s (.name s.current.line h.name) { s with current := u, rest } :=
    ((hprimary.signed hany).product.concatenation).leftGrouped rfl
  exact ((hsum.comparisons.disjunction hnot).expression).tuple hany

/-! ## Whole texts -/

/-- What the parser makes of a text or a hole, on some line. -/
def IsItem : String ⊕ Hole → Expr String → Prop
  | .inl text, e => ∃ l, e = .data l text
  | .inr h, e => ∃ l, e = .name l h.name

/-- The parser stands before certain tokens, and nothing is wrong behind them. -/
def State.Holds (s : State) (tokens : List Token) : Prop :=
  s.fault = none ∧
    match tokens with
    | [] => s.current.kind = .eof ∧ s.rest = []
    | u :: rest => s.current = u ∧ s.rest = rest

theorem State.Holds.advance {u : Token} {rest : List Token} (h : s.Holds (u :: rest)) :
    ∃ t : State, advance.run s = .ok (u, t) ∧ t.Holds rest := by
  obtain ⟨hfault, rfl, hrest⟩ := h
  cases rest with
  | nil =>
    refine ⟨{ s with current := ⟨s.current.line, .eof⟩ }, ?_, hfault, rfl, hrest⟩
    simp [Parser.advance, hrest, hfault]
    rfl
  | cons v rest => exact ⟨_, run_advance hrest, hfault, rfl, rfl⟩

/-- One text or hole is gathered. -/
theorem gather_part (n : Nat) (ends : Option (List String)) (g : Gathered) {p : String ⊕ Hole}
    {tokens rest : List Token} (hkinds : tokens.map (·.kind) = partKinds p)
    (hs : s.Holds (tokens ++ rest)) :
    ∃ e t, IsItem p e ∧ State.Holds t rest ∧
      (gather (rules (n + 1)) ends g).run s = .ok (.inl { g with items := g.items ++ [e] }, t) := by
  cases p with
  | inl text =>
    obtain ⟨u, rfl, hu⟩ : ∃ u, tokens = [u] ∧ u.kind = .data text := by
      simpa [partKinds, List.map_eq_cons_iff] using hkinds
    obtain ⟨t, hadvance, ht⟩ := hs.advance
    refine ⟨.data u.line text, t, ⟨_, rfl⟩, ht, ?_⟩
    rw [gather, run_bind_ok run_current, hs.2.1, hu]
    simp only []
    rw [run_bind_ok hadvance]
    rfl
  | inr h =>
    obtain ⟨u, v, w, rfl, hu, hv, hw⟩ : ∃ u v w, tokens = [u, v, w] ∧ u.kind = .variableBegin ∧
        v.kind = .name h.name ∧ w.kind = .variableEnd := by
      obtain ⟨u, _, rfl, hu, hvw⟩ := List.map_eq_cons_iff.1 hkinds
      obtain ⟨v, _, rfl, hv, hw⟩ := List.map_eq_cons_iff.1 hvw
      obtain ⟨w, rfl, hw⟩ := List.map_eq_singleton_iff.1 hw
      exact ⟨u, v, w, rfl, hu, hv, by simpa using hw⟩
    obtain ⟨s₁, hbegin, hs₁⟩ := hs.advance
    obtain ⟨hfault, hcurrent, hrest⟩ := hs₁
    have hname : ReadsAll (tuple (rules (n + 1)).expression [] false) s₁
        (.name s₁.current.line h.name) { s₁ with current := w, rest } :=
      readsAll_name (by rw [hcurrent, hv]) hrest hw
    obtain ⟨s₂, hend, hs₂⟩ : ∃ t, advance.run { s₁ with current := w, rest } = .ok (w, t) ∧
        State.Holds t rest := State.Holds.advance ⟨hfault, rfl, rfl⟩
    refine ⟨.name s₁.current.line h.name, s₂, ⟨_, rfl⟩, hs₂, ?_⟩
    rw [gather, run_bind_ok run_current, hs.2.1, hu]
    simp only []
    rw [run_bind_ok hbegin, run_bind_ok hname.1]
    have hexpect : expectVariableEnd.run { s₁ with current := w, rest } = .ok ((), s₂) := by
      rw [expectVariableEnd, run_bind_ok run_kind]
      simp only [hw]
      rw [TokenKind.isVariableEnd, if_pos rfl, run_bind_ok hend]
      rfl
    rw [run_bind_ok hexpect]
    rfl

/-- Texts and holes are gathered one after the other. -/
theorem gather_parts (n : Nat) (ends : Option (List String)) {parts : List (String ⊕ Hole)}
    {tokens : List Token} (hkinds : tokens.map (·.kind) = parts.flatMap partKinds) {fuel : Nat}
    (hfuel : tokens.length < fuel) (hs : s.Holds tokens) (g : Gathered) :
    ∃ items t, List.Forall₂ IsItem parts items ∧
      (loopWithin (gather (rules (n + 1)) ends) fuel g).run s
        = .ok (Gathered.flush { g with items := g.items ++ items }, t) := by
  obtain ⟨fuel, rfl⟩ : ∃ k, fuel = k + 1 := ⟨fuel - 1, by omega⟩
  induction parts generalizing fuel tokens s g with
  | nil =>
    obtain rfl := List.map_eq_nil_iff.1 hkinds
    refine ⟨[], s, .nil, ?_⟩
    have heof : (gather (rules (n + 1)) ends g).run s = .ok (.inr g.flush, s) := by
      rw [gather, run_bind_ok run_current, hs.2.1]
      rfl
    rw [loopWithin, run_bind_ok heof, List.append_nil]
    rfl
  | cons p parts ih =>
    rw [List.flatMap_cons] at hkinds
    obtain ⟨front, back, rfl, hfront, hback⟩ := List.map_eq_append_iff.1 hkinds
    obtain ⟨e, t, he, ht, hstep⟩ := gather_part n ends g hfront hs
    have hpos : 0 < front.length := by
      rw [← List.length_map (·.kind), hfront]
      cases p <;> simp [partKinds]
    rw [List.length_append] at hfuel
    obtain ⟨fuel, rfl⟩ : ∃ k, fuel = k + 1 := ⟨fuel - 1, by omega⟩
    obtain ⟨items, t', hitems, hloop⟩ :=
      ih hback ht { g with items := g.items ++ [e] } fuel (by omega)
    refine ⟨e :: items, t', .cons he hitems, ?_⟩
    rw [loopWithin, run_bind_ok hstep]
    simpa using hloop

/-- The statements of a text with holes: one that prints everything, or none. -/
def printed : List (Expr String) → List Stmt
  | [] => []
  | e :: rest => [.output e.line (e :: rest)]

theorem flush_items (items : List (Expr String)) : Gathered.flush ⟨[], items⟩ = printed items := by
  cases items <;> rfl

theorem parseTokens_parts {l : Lexer.Lexed} {parts : List (String ⊕ Hole)}
    (h : l.HasKinds (parts.flatMap partKinds)) :
    ∃ items, List.Forall₂ IsItem parts items ∧ parseTokens l = .ok (printed items) := by
  obtain ⟨hkinds, hfault⟩ := h
  obtain ⟨s, hs, hadvance⟩ : ∃ s : State, s.Holds l.tokens ∧
      advance.run ⟨⟨1, .eof⟩, l.tokens, l.fault, [], []⟩ = .ok (⟨1, .eof⟩, s) := by
    cases htokens : l.tokens with
    | nil =>
      refine ⟨⟨⟨1, .eof⟩, [], none, [], []⟩, ⟨rfl, rfl, rfl⟩, ?_⟩
      simp [advance, hfault]
      rfl
    | cons u rest => exact ⟨_, ⟨hfault, rfl, rfl⟩, run_advance rfl⟩
  have hlength : l.tokens.length < s.rest.length + 3 := by
    have hrest := hs.2
    split at hrest
    · simp [*]
    · simp only [*, List.length_cons]
      omega
  obtain ⟨items, t, hitems, hloop⟩ :=
    gather_parts (l.tokens.length + 1) none hkinds hlength hs ⟨[], []⟩
  have hstatements : (statementsUntil (rules (l.tokens.length + 2)) none).run s
      = .ok (printed items, t) := by
    rw [← flush_items]
    have hgathered : (loop (gather (rules (l.tokens.length + 2)) none) ⟨[], []⟩).run s
        = .ok (Gathered.flush ⟨[], items⟩, t) := hloop
    rw [statementsUntil, run_bind_ok (t := s) (a := ()) rfl, run_bind_ok hgathered]
    rfl
  refine ⟨items, hitems, ?_⟩
  have hwhole : (do
      let _ ← advance
      statementsUntil (rules (l.tokens.length + 2)) none : Parse (List Stmt)).run
        ⟨⟨1, .eof⟩, l.tokens, l.fault, [], []⟩ = .ok (printed items, t) := by
    rw [run_bind_ok hadvance, hstatements]
  rw [parseTokens, hwhole]
  rfl

/-- A text with holes is read as one statement that prints its parts. -/
theorem parse_holed (config : Lexer.Config) {t : Holed} (ht : t.IsLiteral)
    (hconfig : config.keepTrailingNewline = true) :
    ∃ items, List.Forall₂ IsItem t.normalized.parts items ∧
      parse config t.source = .ok (printed items) :=
  parseTokens_parts (Lexer.scan_holed ht hconfig)

end TemplateTree.Template.Parser
