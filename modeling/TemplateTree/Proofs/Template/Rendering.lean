import TemplateTree.Proofs.Template.Programs
import TemplateTree.Template.Engine

/-!
# Evaluating texts with holes

A program that prints texts and holes writes the texts as they are, and for every hole the value that the
context has under its name, without escaping anything.

* `Sees`: a site whose scope and context are known.
* `Sees.enterWith`: variables that hold what the context has.
* `Sees.executeAll`: the steps of such a program.
* `render_holed`: what an engine writes.
-/

namespace TemplateTree.Template

open Eval

variable {m : Machine} {site : Site} {c : Context} {s : Scope}

/-! ## Variables -/

/-- A site whose scope and context are known. The scope is the outermost one, and belongs to what is evaluated. -/
structure Sees (site : Site) (c : Context) (s : Scope) (m : Machine) : Prop where
  context : m.cells[site.context]? = some (.context c)
  scope : m.cells[site.scope]? = some (.scope s)
  own : m.own ≤ site.scope

theorem Sees.ne (h : Sees site c s m) : site.scope ≠ site.context := by
  intro heq
  have := h.scope
  rw [heq, h.context] at this
  cases this

theorem Sees.of_cells (h : Sees site c s m) {m' : Machine} (hm : m'.cells = m.cells) (hown : m'.own = m.own) :
    Sees site c s m' :=
  ⟨hm ▸ h.context, hm ▸ h.scope, hown ▸ h.own⟩

theorem find?_var_cons (e : Ref × Option Value) (vars : List (Ref × Option Value)) (r : Ref) :
    ((e :: vars).find? fun e => e.1 == r)
      = if e.1 = r then some e else vars.find? fun e => e.1 == r := by
  rw [List.find?_cons]
  split_ifs with h
  · rw [beq_iff_eq.2 h]
  · rw [beq_eq_false_iff_ne.2 h]

theorem find?_setIn (r r' : Ref) (v : Option Value) (vars : List (Ref × Option Value)) :
    ((setIn r v vars).find? fun e => e.1 == r')
      = if r = r' then some (r, v) else vars.find? fun e => e.1 == r' := by
  induction vars with
  | nil => rw [setIn, find?_var_cons]
  | cons e vars ih =>
    rw [setIn]
    by_cases he : e.1 = r
    · rw [if_pos (beq_iff_eq.2 he), find?_var_cons, find?_var_cons, he]
      split_ifs <;> rfl
    · rw [if_neg (by simpa using he), find?_var_cons, find?_var_cons, ih]
      split_ifs with h1 h2
      · exact absurd (h1.trans h2.symm) he
      · rfl
      · rfl
      · rfl

theorem Sees.setVariable (h : Sees site c s m) (r : Ref) (v : Option Value) :
    ∃ m', (setVariable site r v).Ends m () m' ∧ m'.buffers = m.buffers ∧
      Sees site c { s with vars := setIn r v s.vars } m' := by
  refine ⟨_, ends_modifyScope h.scope h.own _, rfl, ?_, ?_, h.own⟩
  · simp [h.ne, h.context]
  · have hlt : site.scope < m.cells.size := (Array.getElem?_eq_some_iff.1 h.scope).1
    simp [hlt]

/-- Variables are given what the context has under their names. -/
theorem Sees.enterWith (h : Sees site c s m) (names : List String) :
    ∃ s' m', (enterWith site (names.map resolved)).Ends m () m' ∧ m'.buffers = m.buffers ∧
      Sees site c s' m' ∧
      ∀ n, (s'.vars.find? fun e => e.1 == outermost n)
        = if n ∈ names then some (outermost n, c.find? n)
          else s.vars.find? fun e => e.1 == outermost n := by
  induction names generalizing s m with
  | nil => exact ⟨s, m, rfl, rfl, h, fun n => by simp⟩
  | cons name names ih =>
    obtain ⟨m₁, hset, hbuffers₁, h₁⟩ := h.setVariable (outermost name) (c.find? name)
    obtain ⟨s', m', henter, hbuffers, h', hvars⟩ := ih h₁
    refine ⟨s', m', ?_, hbuffers.trans hbuffers₁, h', fun n => ?_⟩
    · rw [List.map_cons, resolved, Template.enterWith]
      exact (ends_contextAt h.context).bind (hset.bind henter)
    · rw [hvars, find?_setIn]
      by_cases hn : n ∈ names
      · simp [hn]
      · by_cases heq : n = name
        · simp [heq]
        · have hne : outermost name ≠ outermost n := fun h => heq (congrArg Ref.name h).symm
          rw [if_neg hn, if_neg hne, if_neg (by simp [hn, heq])]

theorem Sees.useVariable (h : Sees site c s m) {r : Ref} {v : Value}
    (hr : (s.vars.find? fun e => e.1 == r) = some (r, some v)) :
    (useVariable site r).Ends m v m := by
  have hlook : (lookIn r site.scope).Ends m (.inr (some v)) m := by
    refine (ends_scopeAt h.scope).bind ?_
    rw [hr]
    rfl
  exact (Ends.repeatUntil hlook).bind rfl

/-! ## Steps -/

/-- What is printed for a part. -/
def written (value : Hole → String) (p : String ⊕ Hole) : Value :=
  .text (p.elim id value)

theorem ends_write {b : List Value} {rest : List (List Value)} (hb : m.buffers = b :: rest) (v : Value) :
    (write v).Ends m () { m with buffers := (v :: b) :: rest } := by
  obtain ⟨cells, buffers⟩ := m
  subst hb
  rfl

theorem ends_atLine (l : Nat) (m : Machine) :
    ∃ m', (atLine l).Ends m () m' ∧ m'.cells = m.cells ∧ m'.own = m.own ∧ m'.buffers = m.buffers := by
  refine ⟨_, rfl, ?_, ?_, ?_⟩
  all_goals
    beta_reduce
    split <;> rfl

theorem Sees.execute (ev : Evaluator) (h : Sees site c s m) {value : Hole → String} {p : String ⊕ Hole}
    {code : Code} (hcode : IsStep p code)
    (hp : ∀ h, p = .inr h →
      (s.vars.find? fun e => e.1 == outermost h.name) = some (outermost h.name, some (.text (value h))))
    {b : List Value} {rest : List (List Value)} (hb : m.buffers = b :: rest) :
    ∃ m', (execute ev site code).Ends m () m' ∧ m'.buffers = (written value p :: b) :: rest ∧
      Sees site c s m' := by
  cases p with
  | inl text =>
    obtain rfl := hcode
    exact ⟨_, ends_write hb _, rfl, h.of_cells rfl rfl⟩
  | inr h' =>
    obtain ⟨l, rfl⟩ := hcode
    obtain ⟨m₁, hline, hcells, hown, hbuffers⟩ := ends_atLine l m
    have hvalue := (h.of_cells hcells hown).useVariable (hp h' rfl)
    rw [hb] at hbuffers
    exact ⟨_, hline.bind (hvalue.bind (ends_write hbuffers _)), rfl, h.of_cells hcells hown⟩

/-- The steps for texts and holes print them one after the other. -/
theorem Sees.executeAll (ev : Evaluator) (h : Sees site c s m) {value : Hole → String}
    {parts : List (String ⊕ Hole)} {codes : List Code} (hcodes : List.Forall₂ IsStep parts codes)
    (hparts : ∀ h, .inr h ∈ parts →
      (s.vars.find? fun e => e.1 == outermost h.name) = some (outermost h.name, some (.text (value h))))
    {b : List Value} {rest : List (List Value)} (hb : m.buffers = b :: rest) :
    ∃ m', (executeAll ev site codes).Ends m () m' ∧
      m'.buffers = ((parts.map (written value)).reverse ++ b) :: rest := by
  induction hcodes generalizing m b with
  | nil => exact ⟨m, rfl, hb⟩
  | @cons p code parts codes hcode _ ih =>
    obtain ⟨m₁, hexecute, hb₁, h₁⟩ :=
      h.execute ev hcode (fun h hp => hparts h (by simp [hp])) hb
    obtain ⟨m', hrest, hb'⟩ := ih h₁ (fun h hp => hparts h (by simp [hp])) hb₁
    refine ⟨m', ?_, ?_⟩
    · rw [Template.executeAll]
      exact hexecute.bind hrest
    · rw [hb', List.map_cons, List.reverse_cons, List.append_assoc]
      rfl

/-! ## Whole templates -/

theorem ends_inFile {α : Type} {file : String} {line : Nat} {act : Eval α} {m' : Machine} {a : α}
    (h : act.Ends { m with frames := ⟨file, line⟩ :: m.frames } a m') :
    (inFile file line act).Ends m a { m' with frames := m'.frames.drop 1 } :=
  Ends.bind rfl (h.bind rfl)

/-- A program that prints texts and holes. -/
theorem ends_runTemplate (ev : Evaluator) {parts : List (String ⊕ Hole)} {l : Loaded}
    (hl : Prints parts l.program) {id : TemplateId} (hid : m.cells[id]? = some (.template l)) (context : CellId)
    (hc : m.cells[context]? = some (.context c)) (hown : m.own ≤ m.cells.size) {value : Hole → String}
    (hvalue : ∀ h : Hole, c.find? h.name = some (.text (value h))) {b : List Value}
    {rest : List (List Value)} (hb : m.buffers = b :: rest) :
    ∃ m', (runTemplate ev id context).Ends m () m' ∧
      m'.buffers = ((parts.map (written value)).reverse ++ b) :: rest := by
  obtain ⟨names, hloads, hnames⟩ := hl.loads
  set m₁ : Machine := { m with cells := m.cells.push (.scope default) } with hm₁
  set m₂ : Machine := { m₁ with frames := ⟨l.file, l.program.root.line⟩ :: m.frames } with hm₂
  set site : Site := ⟨m.cells.size, context, id, l.file, .none⟩ with hsite
  have hsees : Sees site c default m₂ := by
    have hlt := (Array.getElem?_eq_some_iff.1 hc).1
    refine ⟨?_, by simp [hm₂, hm₁, hsite], hown⟩
    simp only [hm₂, hm₁, hsite, Array.getElem?_push_lt hlt]
    exact congrArg some (Array.getElem?_eq_some_iff.1 hc).2
  obtain ⟨s, m₃, henter, hbuffers, hsees', hvars⟩ := hsees.enterWith names
  have hholes : ∀ h : Hole, .inr h ∈ parts →
      (s.vars.find? fun e => e.1 == outermost h.name)
        = some (outermost h.name, some (.text (value h))) := by
    intro h hh
    rw [hvars, if_pos (hnames h hh), hvalue]
  obtain ⟨m₄, hall, hb₄⟩ := hsees'.executeAll ev hl.steps hholes (hbuffers.trans hb)
  have hsection : (runSection ev site l.program.root (return .none)).Ends m₂ () m₄ := by
    simp only [runSection, hl.self, hl.super, hloads]
    exact henter.bind hall
  refine ⟨_, (ends_templateAt hid).bind ((ends_alloc _ m).bind (ends_inFile ?_)), hb₄⟩
  rw [hl.ending]
  exact hsection.bind rfl

/-- What a template is given: what every template can use, and the values. -/
theorem ends_givenValues (entries : List (String × Value)) (m : Machine) :
    (givenValues (entries.map fun e => (.text e.1, e.2))).Ends m (setAll globalValues entries) m := by
  rw [givenValues]
  generalize globalValues = acc
  induction entries generalizing acc with
  | nil => exact ends_pure acc m
  | cons e entries ih =>
    rw [List.map_cons, List.foldlM_cons]
    exact Ends.bind rfl (ih (setNamed e.1 e.2 acc))

/-- A template that prints texts and holes writes them with the values for the holes. -/
theorem ends_renderProgram {parts : List (String ⊕ Hole)} {program : Program}
    (hprogram : Prints parts program) (name : String) {entries : List (String × Value)}
    (hentries : (names entries).Nodup) {value : Hole → String}
    (hvalue : ∀ h : Hole, named? entries h.name = some (.text (value h))) (hown : m.own ≤ m.cells.size)
    (hb : m.buffers = [[]]) :
    ∃ m', (renderProgram name program (entries.map fun e => (.text e.1, e.2))).Ends m () m' ∧
      m'.buffers = [(parts.map (written value)).reverse] := by
  set l : Loaded := ⟨name, name, program⟩ with hl
  set m₁ : Machine := { m with cells := m.cells.push (.template l) } with hm₁
  set c : Context := ⟨name, setAll globalValues entries, [], [],
    program.blocks.map fun b => (b.1, [⟨m.cells.size, b.1⟩]), false⟩ with hc
  set m₂ : Machine := { m₁ with cells := m₁.cells.push (.context c) } with hm₂
  have hid : m₁.cells[m.cells.size]? = some (.template l) := by simp [hm₁]
  have hcontext : (newContext m.cells.size (setAll globalValues entries)).Ends m₁ m₁.cells.size m₂ :=
    (ends_templateAt hid).bind (ends_alloc (.context c) m₁)
  have hfind : ∀ h : Hole, c.find? h.name = some (.text (value h)) := by
    intro h
    have := named?_setAll globalValues hentries h.name
    rw [hvalue] at this
    exact this
  have hid₂ : m₂.cells[m.cells.size]? = some (.template l) := by
    rw [hm₂, Array.getElem?_push_lt (by simp [hm₁]), ← hid]
    exact (Array.getElem?_eq_getElem _).symm
  have hown₂ : m₂.own ≤ m₂.cells.size := by
    simp only [hm₂, hm₁, Array.size_push]
    exact hown.trans (Nat.le_add_right _ 2)
  obtain ⟨m', hrun, hb'⟩ := ends_runTemplate (evaluator depthLimit) hprogram hid₂ m₁.cells.size (by simp [hm₂])
    hown₂ hfind hb
  refine ⟨m', ?_, by simpa using hb'⟩
  refine Ends.bind (a := m.cells.size) rfl ?_
  exact (ends_givenValues entries m₁).bind (hcontext.bind hrun)

theorem firstNoText_written (value : Hole → String) (parts : List (String ⊕ Hole)) (i : Nat) :
    firstNoText i (parts.map (written value)) = none := by
  induction parts generalizing i with
  | nil => rfl
  | cons p parts ih => exact ih (i + 1)

theorem filterMap_written (value : Hole → String) (parts : List (String ⊕ Hole)) :
    (parts.map (written value)).filterMap Value.text? = parts.map (Sum.elim id value) := by
  rw [List.filterMap_map, ← List.filterMap_eq_map]
  rfl

/-- What an engine writes for a text with holes. -/
theorem render_holed (sink : Sink) (files : FileSystem) (name : String) {t : Holed} (ht : t.IsLiteral)
    {entries : List (String × Value)} (hentries : (names entries).Nodup) {value : Hole → String}
    (hvalue : ∀ h : Hole, named? entries h.name = some (.text (value h))) {state : Session}
    (hconfigured : state.isConfigured = true)
    (hconfig : state.library.config.keepTrailingNewline = true) :
    ∃ state', render sink files ⟨entries.map fun e => (.text e.1, e.2), .ok t.source, name⟩ state
      = ⟨state', t.filled value, none⟩ := by
  obtain ⟨program, hprogram, hof⟩ := programOf_holed ht hconfig
  obtain ⟨m, hrun, hbuffers⟩ := ends_renderProgram (m := state.machine.begun) hprogram name hentries hvalue
    (Nat.le_refl _) rfl
  have houtput : m.output = t.normalized.parts.map (written value) := by
    rw [Machine.output, hbuffers]
    simp
  unfold Ends at hrun
  simp only [render, hconfigured, hof, hrun, Script.play, Script.playWith, finish, houtput, firstNoText_written,
    filterMap_written, Holed.join_parts]
  exact ⟨_, rfl⟩

end TemplateTree.Template
