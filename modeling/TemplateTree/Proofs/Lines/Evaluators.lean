import TemplateTree.Proofs.Lines.Steps

/-!
# Lines under evaluation

Macros, blocks and templates are entered with a place in their own file and left with the place before. Evaluation
calls itself to a certain depth; the induction is on that depth.

* `callProcedure_keeps`: a macro runs in its own file, wherever it is called.
* `runTemplate_keeps`, `runBlock_keeps`: templates and blocks.
* `evaluator_keeps`: everything that evaluation does.
-/

namespace TemplateTree.Template

open Eval

variable {L : Lines} {ev : Evaluator}

/-! ## Calls -/

@[grind ←] theorem callerValue_keeps (named : List (String × Value)) : (callerValue named).Keeps L := by
  unfold callerValue
  grind

@[grind ←] theorem bindArguments_keeps (s : Signature) (args : Arguments) : (bindArguments s args).Keeps L := by
  unfold bindArguments
  extract_lets count positional params byName hasCaller rest takesCaller others withCaller
  have hwithCaller : ∀ caller, (withCaller caller).Keeps L := by
    intro caller
    simp -zeta only [withCaller]
    extract_lets block withNamed
    have hwithNamed : ∀ named, (withNamed named).Keeps L := by
      intro named
      simp -zeta only [withNamed]
      extract_lets withMore
      have hwithMore : ∀ more, (withMore more).Keeps L := fun _ => .pure _
      clear_value withMore
      grind
    clear_value withNamed others
    grind
  clear_value withCaller
  grind

@[grind ←] theorem refuseArguments_keeps (label : String) (args : Arguments) : (refuseArguments label args).Keeps L := by
  unfold refuseArguments
  grind

section

variable (hev : ev.Keeps L)

include hev

@[grind ←] theorem fillDefaults_keeps (site : Site) (defaults : List (Expr Ref)) (refs : List Ref) :
    (fillDefaults ev site defaults refs).Keeps L := by
  induction refs with
  | nil => exact .pure ()
  | cons r refs ih => unfold fillDefaults; grind

/-- A macro runs in its own file, wherever it is called. -/
theorem callProcedure_keeps {p : Procedure} (h : p.Within L) (escapes : Bool) (args : Arguments) :
    (callProcedure ev p escapes args).Keeps L := by
  unfold callProcedure
  refine Keeps.bind (bindArguments_keeps _ args) fun given => Gives.bind (innerSite_gives p.site) fun site hsite => ?_
  have hline : L.inFile site.file p.signature.line := hsite ▸ h.signature
  have hbody : ∀ c ∈ p.body, c.Within (L.inFile site.file) := by simpa only [hsite] using h.body
  refine Keeps.bind (.forM (fun e => setVariable_keeps site _ _) given) fun _ => inFile_keeps hline ?_
  refine (enterWith_keeps site _).keepsIn.bind fun _ => (fillDefaults_keeps hev site _ _).keepsIn.bind fun _ => ?_
  refine (captured_keepsIn (executeAll_keepsIn hev hbody)).bind fun pieces => Keeps.keepsIn ?_
  exact Keeps.bind (concat_keeps pieces) fun text => by grind

@[grind ←] theorem callBlock_keeps (id : CellId) : (callBlock ev id).Keeps L := by
  unfold callBlock
  grind

@[grind ←] theorem callLoop_keeps (id : CellId) (args : Arguments) : (callLoop ev id args).Keeps L := by
  unfold callLoop
  refine Keeps.bind (Formatting.lift_keeps (Parameters.fill_within _ _)) fun vs => .bind_loopAt fun l hl => ?_
  split
  · exact .throw trivial
  next r hr =>
    have hwithin : r.Within L := hl r hr
    refine runRecursion_keeps hev hwithin (fun s hs => ?_) (fun s hs => ?_) _ _
    · exact executeAll_keepsIn hev fun c hc => hs ▸ hwithin.body c hc
    · exact executeAll_keepsIn hev fun c hc => hs ▸ hwithin.otherwise c hc

theorem callValue_keeps (escapes : Bool) (f : Value) (args : Arguments) : (callValue ev escapes f args).Keeps L := by
  unfold callValue
  have (p : Procedure) (h : (Cell.procedure p).Within L) := callProcedure_keeps hev h escapes args
  grind

/-! ## Filters and tests by name -/

theorem applyFilter_keeps (escapes : Bool) (name : String) (v : Value) (args : Arguments) :
    (applyFilter ev escapes name v args).Keeps L := by
  unfold applyFilter
  split
  next f hf => exact named_filter_keeps hf ev hev escapes v args
  next => exact .throw trivial

theorem applyTest_keeps (name : String) (v : Value) (args : Arguments) : (applyTest ev name v args).Keeps L := by
  unfold applyTest
  split
  next t ht => exact named_test_keeps ht ev hev v args
  next => exact .throw trivial

/-! ## Sequences -/

@[grind ←] theorem nextSelected_keeps (source : CellId) (wanted : Bool) (part : Option Value) (test : ItemTest) :
    (nextSelected ev source wanted part test).Keeps L := by
  refine .repeatUntil (fun _ => ?_) _
  grind

@[grind ←] theorem nextDistinct_keeps (source : CellId) (step : ItemStep) (ignoresCase : Bool) (seen : List Value) :
    (nextDistinct ev source step ignoresCase seen).Keeps L := by
  refine .repeatUntil (fun _ => ?_) _
  grind

@[grind ←] theorem nextTested_keeps (source : CellId) {site : Site} (target : Target Ref) {line : Nat}
    (hline : L.inFile site.file line) (test : Expr Ref) : (nextTested ev source site target line test).Keeps L := by
  refine inFile_keeps hline (Keeps.keepsIn (.repeatUntil (fun _ => ?_) _))
  grind

@[grind ←] theorem nextOf_keeps (id : CellId) {i : Iter} (h : i.Within L) : (nextOf ev id i).Keeps L := by
  cases i with
  | deferred name escapes v args =>
    refine Gives.bind (Filter.begin_gives hev name escapes v args) fun i hi => ?_
    exact Keeps.bind (setCell_keeps (c := .iterator i) hi id) fun _ => hev.pull id
  | tested source site target line test => exact nextTested_keeps hev source target h test
  | items vs =>
    cases vs with
    | nil => exact .pure none
    | cons v vs => exact Keeps.bind (setCell_keeps (c := .iterator (.items vs)) trivial id) fun _ => .pure _
  | done | live | range | mapped | selected | distinct => unfold nextOf; grind

theorem pullFrom_keeps (id : CellId) : (pullFrom ev id).Keeps L := by
  unfold pullFrom
  grind

/-! ## Templates and blocks -/

omit hev in
@[grind ←] theorem olderVersions_keeps (ref : BlockRef) (versions : List BlockRef) :
    (olderVersions ref versions).Keeps L := by
  induction versions with
  | nil => exact .pure []
  | cons v versions ih => unfold olderVersions; grind

omit hev in
@[grind ←] theorem parentBlock_keeps (ref : BlockRef) (context : CellId) : (parentBlock ref context).Keeps L := by
  unfold parentBlock
  grind

theorem runSection_keepsIn {site : Site} {s : Section} (h : s.Within (L.inFile site.file)) {parent : Eval Value}
    (hparent : parent.Keeps L) : (runSection ev site s parent).KeepsIn L site.file := by
  unfold runSection
  extract_lets run bindSuper
  have hrun : ∀ u, (run u).KeepsIn L site.file := fun _ =>
    (enterWith_keeps site _).keepsIn.bind fun _ => executeAll_keepsIn hev h.body
  clear_value run
  have hbindSuper : ∀ u, (bindSuper u).KeepsIn L site.file := by
    intro _
    simp only [bindSuper]
    split
    · exact hparent.keepsIn.bind fun v => (setVariable_keeps site _ _).keepsIn.bind hrun
    · exact hrun ()
  clear_value bindSuper
  split
  · refine (alloc_keeps (c := .blocks site.context) trivial).keepsIn.bind fun id => ?_
    exact (setVariable_keeps site _ _).keepsIn.bind hbindSuper
  · exact hbindSuper ()

theorem runTemplate_keeps (id : TemplateId) (context : CellId) : (runTemplate ev id context).Keeps L := by
  unfold runTemplate
  refine Gives.bind (templateAt_gives id) fun l hl => Keeps.bind (alloc_keeps trivial) fun scope => ?_
  have hprogram : l.program.Within (L.inFile l.file) := hl
  extract_lets site
  have hroot : (runSection ev site l.program.root (pure .none)).KeepsIn L site.file :=
    runSection_keepsIn hev hprogram.root (.pure _)
  refine inFile_keeps hprogram.root.line (hroot.bind fun _ => ?_)
  split
  · refine (parentOf_keeps _).keepsIn.bind fun parent => ?_
    split
    · exact (atLine_keepsIn hprogram.endLine).bind fun _ => (hev.root _ context).keepsIn
    · exact (Keeps.pure ()).keepsIn
  · exact (Keeps.pure ()).keepsIn

theorem runBlock_keeps (ref : BlockRef) (context : CellId) : (runBlock ev ref context).Keeps L := by
  unfold runBlock
  refine Gives.bind (templateAt_gives ref.template) fun l hl => ?_
  split
  · exact Keeps.pure ()
  next s hs =>
    have hsection : s.Within (L.inFile l.file) := Program.Within.blocks hl _ (mem_of_named? hs)
    refine Keeps.bind (alloc_keeps trivial) fun scope => ?_
    extract_lets site
    have hrun : (runSection ev site s (parentBlock ref context)).KeepsIn L site.file :=
      runSection_keepsIn hev hsection (parentBlock_keeps ref context)
    exact inFile_keeps hsection.line hrun

end

/-! ## All operations -/

theorem tooDeep_keeps {α : Type} : (tooDeep : Eval α).Keeps L :=
  .throw trivial

/-- At every depth of evaluation, all lines stay what they are to be. -/
theorem evaluator_keeps (n : Nat) : (evaluator n).Keeps L := by
  induction n with
  | zero =>
    exact ⟨fun _ => tooDeep_keeps, fun _ _ _ => tooDeep_keeps, fun _ _ _ _ => tooDeep_keeps, fun _ _ _ => tooDeep_keeps,
      fun _ _ => tooDeep_keeps, fun _ _ => tooDeep_keeps⟩
  | succ n ih =>
    exact ⟨pullFrom_keeps ih, callValue_keeps ih, applyFilter_keeps ih, applyTest_keeps ih, runTemplate_keeps ih,
      runBlock_keeps ih⟩

end TemplateTree.Template
