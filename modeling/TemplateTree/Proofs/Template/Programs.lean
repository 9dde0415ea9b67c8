import TemplateTree.Proofs.Template.Machine
import TemplateTree.Proofs.Template.Parsing
import TemplateTree.Template.Library

/-!
# Programs of texts with holes

Every text is emitted as it is, and for every hole the variable is printed that holds what the context has
under its name.

* `Resolves`: symbols that know some names, all of them from the context.
* `IsStep`: the step for a text or a hole.
* `Prints`: a program that is made of such steps.
* `ofTemplate_printed`, `programOf_holed`: the program of a text with holes is of this kind.
-/

namespace TemplateTree.Template

variable {ev : Evaluator} {m : Machine}

/-! ## Names -/

/-- The variable of a name outside of all constructs. -/
def outermost (name : String) : Ref := ⟨0, name⟩

/-- What such a variable holds at the start, if it is not assigned to. -/
def resolved (name : String) : Ref × Load :=
  (outermost name, .resolve name)

/-- Symbols outside of all constructs; their names are known from the context. -/
structure Resolves (s : Symbols) : Prop where
  level : s.layer.level = 0
  outer : s.outer = []
  loads : s.layer.loads = s.layer.names.map resolved

theorem Resolves.find? {s : Symbols} (h : Resolves s) (name : String) :
    s.find? name = if name ∈ s.layer.names then some (outermost name) else none := by
  simp only [Symbols.find?, h.outer, Symbols.findIn, List.contains_iff_mem, h.level]
  rfl

theorem setLoad_of_not_mem {name : String} {names : List String} (h : name ∉ names) :
    Symbols.setLoad (outermost name) (.resolve name) (names.map resolved)
      = (names ++ [name]).map resolved := by
  induction names with
  | nil => rfl
  | cons n names ih =>
    simp only [List.mem_cons, not_or] at h
    have hne : ((resolved n).1 == outermost name) = false := by
      simpa [resolved, outermost] using Ne.symm h.1
    rw [List.map_cons, Symbols.setLoad, hne, ih h.2]
    rfl

theorem Resolves.load {s : Symbols} (h : Resolves s) (name : String) :
    Resolves (s.load name) ∧ ∀ n, n ∈ (s.load name).layer.names ↔ n ∈ s.layer.names ∨ n = name := by
  rw [Symbols.load, h.find?]
  by_cases hname : name ∈ s.layer.names
  · rw [if_pos hname]
    refine ⟨h, fun n => ⟨.inl, ?_⟩⟩
    rintro (hn | rfl)
    · exact hn
    · exact hname
  · have hnames : (s.define name (.resolve name)).layer.names = s.layer.names ++ [name] := by
      simp [Symbols.define, hname]
    have hloads : (s.define name (.resolve name)).layer.loads
        = (s.layer.names ++ [name]).map resolved := by
      simp only [Symbols.define, h.level, h.loads]
      exact setLoad_of_not_mem hname
    simp only [if_neg hname, Option.isSome_none, Bool.false_eq_true, if_false]
    exact ⟨⟨h.level, h.outer, by rw [hloads, hnames]⟩, fun n => by simp [hnames]⟩

/-- Names that are used become known. -/
theorem Resolves.loadAll {s : Symbols} (h : Resolves s) (names : List String) :
    Resolves (s.loadAll names) ∧
      ∀ n, n ∈ (s.loadAll names).layer.names ↔ n ∈ s.layer.names ∨ n ∈ names := by
  induction names generalizing s with
  | nil => exact ⟨h, fun n => by simp [Symbols.loadAll]⟩
  | cons name names ih =>
    obtain ⟨hload, hmem⟩ := h.load name
    obtain ⟨hall, hmemAll⟩ := ih hload
    refine ⟨hall, fun n => ?_⟩
    change n ∈ ((s.load name).loadAll names).layer.names ↔ _
    rw [hmemAll, hmem, List.mem_cons, or_assoc]

/-! ## Items -/

/-- The holes among some parts, by their names. -/
def holeNames (parts : List (String ⊕ Hole)) : List String :=
  parts.filterMap fun p => p.elim (fun _ => none) fun h => some h.name

theorem namesOfAll_items {parts : List (String ⊕ Hole)} {items : List (Expr String)}
    (h : List.Forall₂ Parser.IsItem parts items) : namesOfAll items = holeNames parts := by
  induction h with
  | nil => rfl
  | @cons p e parts items he _ ih =>
    rw [namesOfAll, ih]
    cases p with
    | inl text =>
      obtain ⟨l, rfl⟩ := he
      rfl
    | inr h =>
      obtain ⟨l, rfl⟩ := he
      rfl

/-- Names that none of the wanted ones is among leave nothing unbound. -/
theorem unboundIn_uses {wanted found names : List String} (h : ∀ n ∈ names, n ∉ wanted) :
    unboundIn wanted found (usesIn names) = found := by
  induction names with
  | nil => rfl
  | cons name names ih =>
    have hname : name ∉ wanted := h name (by simp)
    have := ih fun n hn => h n (by simp [hn])
    simpa [usesIn, unboundIn, hname] using this

/-! ## Steps -/

/-- The step for a text or a hole. -/
def IsStep : String ⊕ Hole → Code → Prop
  | .inl text, c => c = .emit text
  | .inr h, c => ∃ l, c = .print l .off (.name l (outermost h.name))

/-- Texts are told from what has to be evaluated. -/
def IsPart : String ⊕ Hole → String ⊕ Expr String → Prop
  | .inl text, p => p = .inl text
  | .inr h, p => ∃ l, p = .inr (.name l h.name)

/-- What is known about escaping: nothing is escaped. -/
def plainly : EscapeState := ⟨true, false⟩

open Eval

/-- One computation for every member of a list. -/
theorem forall₂_mapM {α β γ σ : Type} {P : α → β → Prop} {Q : α → γ → Prop} {f : β → StateT σ Eval γ}
    {I : σ → Prop} {as : List α} {bs : List β} (h : List.Forall₂ P as bs)
    (hf : ∀ a ∈ as, ∀ b p, P a b → I p → ∃ c q, Q a c ∧ I q ∧ ((f b).run p).Ends m (c, q) m)
    {p : σ} (hp : I p) :
    ∃ cs q, List.Forall₂ Q as cs ∧ I q ∧ ((bs.mapM f).run p).Ends m (cs, q) m := by
  induction h generalizing p with
  | nil => exact ⟨[], p, .nil, hp, rfl⟩
  | cons hab _ ih =>
    obtain ⟨c, q, hc, hq, hrun⟩ := hf _ (by simp) _ p hab hp
    obtain ⟨cs, q', hcs, hq', hrest⟩ := ih (fun a ha => hf a (by simp [ha])) hq
    refine ⟨c :: cs, q', .cons hc hcs, hq', ?_⟩
    rw [List.mapM_cons, StateT.run_bind]
    refine hrun.bind ?_
    rw [StateT.run_bind]
    exact hrest.bind rfl

theorem joinTexts_parts {parts : List (String ⊕ Hole)} {qs : List (String ⊕ Expr String)}
    (h : List.Forall₂ IsPart parts qs) (hchain : parts.IsChain fun a b => a.isRight ∨ b.isRight) :
    joinTexts qs = qs := by
  induction h with
  | nil => rfl
  | @cons p q parts qs hpq hrest ih =>
    have ih := ih hchain.of_cons
    cases p with
    | inr h =>
      obtain ⟨l, rfl⟩ := hpq
      rw [joinTexts, ih]
    | inl text =>
      obtain rfl := hpq
      rw [joinTexts, ih]
      cases hrest with
      | nil => rfl
      | @cons p' q' _ _ hpq' _ =>
        cases p' with
        | inl text' => simp at hchain
        | inr h =>
          obtain ⟨l, rfl⟩ := hpq'
          rfl

/-- Nothing has been extended so far, and nothing is escaped. -/
def Progress.IsPlain (p : Progress) : Prop :=
  p.escape = plainly ∧ p.isExtended = false

theorem partOf_item {p : String ⊕ Hole} {e : Expr String} (h : Parser.IsItem p e) {q : Progress} :
    ∃ c, IsPart p c ∧ ((partOf ev plainly e).run q).Ends m (c, q) m := by
  cases p with
  | inl text =>
    obtain ⟨l, rfl⟩ := h
    exact ⟨.inl text, rfl, rfl⟩
  | inr h' =>
    obtain ⟨l, rfl⟩ := h
    exact ⟨_, ⟨l, rfl⟩, rfl⟩

/-- A name is prepared by finding its variable. -/
theorem prepare_name {w : View} {name : String} {r : Ref} (h : w.symbols.find? name = some r) (l : Nat) :
    ((Expr.name l name).prepare ev plainly w).Ends m (.name l r) m := by
  have hmeaning : (w.meaning name).Ends m r m := by
    rw [View.meaning, h]
    exact ends_pure r m
  have hsimplify : ((Expr.name l name).simplify ev plainly).Ends m (.name l name) m := rfl
  have hresolve : ((Expr.name l name).resolve w).Ends m (.name l r) m := by
    rw [Expr.resolve]
    exact hmeaning.bind rfl
  exact hsimplify.bind hresolve

theorem printPart_part {s : Setting} (hsymbols : Resolves s.symbols) {p : String ⊕ Hole}
    (hp : ∀ h, p = .inr h → h.name ∈ s.symbols.layer.names) {c : String ⊕ Expr String}
    (h : IsPart p c) {q : Progress} (hq : q.IsPlain) :
    ∃ code q', IsStep p code ∧ q'.IsPlain ∧
      ((printPart ev s plainly c).run q).Ends m (code, q') m := by
  cases p with
  | inl text =>
    obtain rfl := h
    exact ⟨_, q, rfl, hq, rfl⟩
  | inr h' =>
    obtain ⟨l, rfl⟩ := h
    have hfind := hsymbols.find? h'.name
    rw [if_pos (hp h' rfl)] at hfind
    have hprepare : ((Expr.name l h'.name).prepare ev q.escape (s.view q.escape)).Ends m
        (.name l (outermost h'.name)) m := by
      rw [hq.1]
      exact prepare_name hfind l
    refine ⟨_, { q with line := l }, ⟨l, rfl⟩, hq, ?_⟩
    have hexpression : ((expression ev s (.name l h'.name)).run { q with line := l }).Ends m
        (.name l (outermost h'.name), { q with line := l }) m := by
      exact hprepare.bind rfl
    exact hexpression.bind rfl

theorem printing_items (ev : Evaluator) (m : Machine) {s : Setting} {parts : List (String ⊕ Hole)}
    {items : List (Expr String)} (hsymbols : Resolves s.symbols) (hnames : ∀ h, .inr h ∈ parts → h.name ∈ s.symbols.layer.names)
    (hchain : parts.IsChain fun a b => a.isRight ∨ b.isRight)
    (h : List.Forall₂ Parser.IsItem parts items) {p : Progress} (hp : p.IsPlain) :
    ∃ codes q, List.Forall₂ IsStep parts codes ∧ q.IsPlain ∧
      ((printing ev s items).run p).Ends m (codes, q) m := by
  have hparts : ∀ a ∈ parts, ∀ e q, Parser.IsItem a e → q.IsPlain →
      ∃ c q', IsPart a c ∧ q'.IsPlain ∧ ((partOf ev plainly e).run q).Ends m (c, q') m := by
    intro a _ e q hae hq
    obtain ⟨c, hc, hrun⟩ := partOf_item (m := m) hae
    exact ⟨c, q, hc, hq, hrun⟩
  have hcodes : ∀ a ∈ parts, ∀ c q, IsPart a c → q.IsPlain →
      ∃ code q', IsStep a code ∧ q'.IsPlain ∧ ((printPart ev s plainly c).run q).Ends m (code, q') m :=
    fun a ha c q hac hq => printPart_part hsymbols (fun h ha' => hnames h (ha' ▸ ha)) hac hq
  obtain ⟨qs, q, hqs, hq, hrun⟩ := forall₂_mapM h hparts hp
  obtain ⟨codes, q', hsteps, hq', hrun'⟩ := forall₂_mapM hqs hcodes hq
  refine ⟨codes, q', hsteps, hq', ?_⟩
  have hget : ((get : Build Progress).run p).Ends m (p, p) m := rfl
  rw [printing, StateT.run_bind]
  refine hget.bind ?_
  simp only [hp.1]
  rw [StateT.run_bind]
  refine hrun.bind ?_
  simp only [joinTexts_parts hqs hchain]
  exact hrun'

/-! ## Templates -/

/-- A program that prints texts and holes, and nothing else. Its variables are among those that the holes
    need. -/
structure Prints (parts : List (String ⊕ Hole)) (p : Program) : Prop where
  self : p.root.selfRef = none
  super : p.root.superRef = none
  loads : ∃ names : List String, p.root.loads = names.map resolved ∧
    ∀ h, .inr h ∈ parts → h.name ∈ names
  steps : List.Forall₂ IsStep parts p.root.body
  ending : p.ending = .plain

theorem mem_holeNames {parts : List (String ⊕ Hole)} {name : String} :
    name ∈ holeNames parts ↔ ∃ h : Hole, .inr h ∈ parts ∧ h.name = name := by
  simp [holeNames, List.mem_filterMap, Sum.exists]

theorem stepsOf_printed (ev : Evaluator) (m : Machine) {s : Setting} (hs : s.checksExtension = false)
    {parts : List (String ⊕ Hole)} {items : List (Expr String)}
    (hsymbols : Resolves s.symbols) (hnames : ∀ h, .inr h ∈ parts → h.name ∈ s.symbols.layer.names)
    (hchain : parts.IsChain fun a b => a.isRight ∨ b.isRight)
    (h : List.Forall₂ Parser.IsItem parts items) {p : Progress} (hp : p.IsPlain) :
    ∃ codes q, List.Forall₂ IsStep parts codes ∧ q.IsPlain ∧
      ((stepsOf ev s (Parser.printed items)).run p).Ends m (codes, q) m := by
  cases items with
  | nil =>
    cases h
    exact ⟨[], p, .nil, hp, rfl⟩
  | cons e rest =>
    obtain ⟨codes, q, hcodes, hq, hrun⟩ := printing_items ev m hsymbols hnames hchain h hp
    refine ⟨codes, q, hcodes, hq, ?_⟩
    have hget : ((get : Build Progress).run p).Ends m (p, p) m := rfl
    have houtput : ((Stmt.steps ev s (.output e.line (e :: rest))).run p).Ends m (codes, q) m := by
      simp only [Stmt.steps, hs, Bool.false_and, Bool.false_eq_true, if_false]
      rw [StateT.run_bind]
      refine hget.bind ?_
      rw [StateT.run_bind]
      exact hrun.bind rfl
    rw [Parser.printed, stepsOf, StateT.run_bind]
    refine hget.bind ?_
    rw [StateT.run_bind]
    refine houtput.bind ?_
    simp only [Stmt.isExtends, Bool.false_and, Bool.false_eq_true, if_false]
    have hnil : ((do return codes ++ (← stepsOf ev s []) : Build (List Code)).run q).Ends m
        (codes ++ [], q) m := rfl
    rwa [List.append_nil] at hnil

theorem extendsIn_printed (items : List (Expr String)) : extendsIn (Parser.printed items) = false := by
  cases items <;> rfl

theorem blocksIn_printed (items : List (Expr String)) : blocksIn (Parser.printed items) = [] := by
  cases items <;> rfl

theorem mentionsOfAll_printed (items : List (Expr String)) :
    mentionsOfAll false (Parser.printed items) = usesIn (namesOfAll items) := by
  cases items with
  | nil => rfl
  | cons e rest => simp [Parser.printed, mentionsOfAll, Stmt.mentions]

theorem visitAll_printed (s : Symbols) (items : List (Expr String)) :
    s.visitAll (Parser.printed items) = s.loadAll (namesOfAll items) := by
  cases items <;> rfl

theorem sectionOf_printed (ev : Evaluator) (m : Machine) {parts : List (String ⊕ Hole)}
    {items : List (Expr String)} (hchain : parts.IsChain fun a b => a.isRight ∨ b.isRight)
    (h : List.Forall₂ Parser.IsItem parts items) {p : Progress} (hp : p.IsPlain) :
    ∃ root q, q.IsPlain ∧ root.selfRef = none ∧ root.superRef = none ∧
      List.Forall₂ IsStep parts root.body ∧
      (∃ names : List String, root.loads = names.map resolved ∧ ∀ h, .inr h ∈ parts → h.name ∈ names) ∧
      ((sectionOf ev true false 1 ["self"] (Parser.printed items)).run p).Ends m (root, q) m := by
  have hresolves : Resolves Symbols.empty := ⟨rfl, rfl, rfl⟩
  obtain ⟨hsymbols, hmem⟩ := hresolves.loadAll (namesOfAll items)
  have hnames : ∀ h, .inr h ∈ parts → h.name ∈ (Symbols.empty.loadAll (namesOfAll items)).layer.names := by
    intro h' hh'
    rw [hmem, namesOfAll_items h]
    exact .inr (mem_holeNames.2 ⟨h', hh', rfl⟩)
  have hself : unbound ["self"] (Parser.printed items) = [] := by
    rw [unbound, mentionsOfAll_printed, namesOfAll_items h]
    refine unboundIn_uses fun n hn => ?_
    obtain ⟨h', _, rfl⟩ := mem_holeNames.1 hn
    cases h' <;> decide
  obtain ⟨codes, q, hcodes, hq, hrun⟩ := stepsOf_printed ev m
    (s := ⟨Symbols.empty.loadAll (namesOfAll items), true, true, false, false, 0⟩) rfl hsymbols hnames
    hchain h hp
  refine ⟨⟨1, _, none, none, codes⟩, q, hq, rfl, rfl, hcodes, ⟨_, hsymbols.loads, hnames⟩, ?_⟩
  have hwanted : ["self"].filter (unbound ["self"] (Parser.printed items)).contains = [] := by
    rw [hself]
    rfl
  simp only [sectionOf, hwanted, List.foldl_nil, visitAll_printed]
  rw [StateT.run_bind]
  exact hrun.bind rfl

/-- The program of a text with holes. -/
theorem ofTemplate_printed (ev : Evaluator) (m : Machine) {parts : List (String ⊕ Hole)}
    {items : List (Expr String)} (hchain : parts.IsChain fun a b => a.isRight ∨ b.isRight)
    (h : List.Forall₂ Parser.IsItem parts items) :
    ∃ program, Prints parts program ∧
      (Program.ofTemplate ev (Parser.printed items)).Ends m program m := by
  have hstart : Progress.IsPlain ⟨1, 0, false, ⟨true, false⟩⟩ := ⟨rfl, rfl⟩
  obtain ⟨root, q, hq, hself, hsuper, hsteps, hloads, hrun⟩ :=
    sectionOf_printed ev m hchain h hstart
  refine ⟨⟨root, .plain, q.line, []⟩, ⟨hself, hsuper, hloads, hsteps, rfl⟩, ?_⟩
  simp only [Program.ofTemplate, blocksIn_printed, duplicate?, extendsIn_printed]
  have hget : ((get : Build Progress).run q).Ends m (q, q) m := rfl
  have hbuild : ((do
      let root ← sectionOf ev true false 1 ["self"] (Parser.printed items)
      let p ← get
      let parts ← ([] : List BlockStmt).mapM fun b => do
        startLine b.line
        return (b.name, ← sectionOf ev false false b.line ["self", "super"] b.body)
      return ⟨root, if p.isExtended then .extended else if false then .whenExtended else .plain, p.line,
        parts⟩ : Build Program).run ⟨1, 0, false, ⟨true, false⟩⟩).Ends m
      (⟨root, .plain, q.line, []⟩, q) m := by
    rw [StateT.run_bind]
    refine hrun.bind ?_
    rw [StateT.run_bind]
    refine hget.bind ?_
    simp only [hq.2]
    rfl
  exact hbuild.bind rfl

/-- A template that is a text with holes has a program that prints its parts. -/
theorem programOf_holed {config : EngineConfig} {t : Holed} (ht : t.IsLiteral)
    (hconfig : config.keepTrailingNewline = true) :
    ∃ program, Prints t.normalized.parts program ∧ programOf config t.source = .ok program := by
  obtain ⟨items, hitems, hparse⟩ := Parser.parse_holed (Lexer.Config.ofEngine config) ht hconfig
  obtain ⟨program, hprints, hends⟩ := ofTemplate_printed (evaluator depthLimit)
    (.empty config.strictUndefined) (Holed.isChain_parts _) hitems
  refine ⟨program, hprints, ?_⟩
  rw [programOf, hparse]
  unfold Ends at hends
  simp only [bind, Except.bind, hends]
  rfl

end TemplateTree.Template
