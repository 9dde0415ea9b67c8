import TemplateTree.Proofs.Lines.Expressions
import TemplateTree.Template.Evaluator

/-!
# Lines under steps

A step stands in the file that it was written in, and goes to its own line there before anything else. By induction
on the steps, all places are then lines of the files that they are in; a loop that calls itself, and one that tests
its items later, keep the file with the code.

* `loadTemplate_keeps`: a template that is loaded has lines of its file, or a fault comes instead.
* `runLoop_keepsIn`, `runRecursion_keeps`: loops.
* `execute_keepsIn`: a step.
-/

namespace TemplateTree.Template

open Eval

variable {L : Lines} {ev : Evaluator}

/-! ## Templates that others refer to -/

theorem loadTemplate_keeps (name shownName : String) : (loadTemplate name shownName).Keeps L := by
  refine Keeps.bind .get fun m => Gives.bind (Gives.ask trivial) fun answer hanswer => ?_
  cases answer with
  | ok l => exact addTemplate_keeps hanswer
  | error f => exact .throw hanswer

@[grind ←] theorem refuseName_keeps (v : Value) : (refuseName v).Keeps L := by
  unfold refuseName
  refine .bind_attempt (checkKey_keeps _ v) (fun _ => .throw trivial) fun f hf => ?_
  grind

section

variable (hev : ev.Keeps L)

include hev

@[grind ←] theorem templateOf_keeps (v : Value) : (templateOf ev v).Keeps L := by
  unfold templateOf
  have := @loadTemplate_keeps L
  grind

@[grind ←] theorem soughtName_keeps (v : Value) : (soughtName ev v).Keeps L := by
  unfold soughtName
  grind

@[grind ←] theorem firstTemplate_keeps (names vs : List Value) : (firstTemplate ev names vs).Keeps L := by
  induction vs with
  | nil => unfold firstTemplate; grind
  | cons v vs ih => unfold firstTemplate; grind

@[grind ←] theorem chooseTemplate_keeps (v : Value) : (chooseTemplate ev v).Keeps L := by
  unfold chooseTemplate
  grind

omit hev in
@[grind ←] theorem newContext_keeps (id : TemplateId) (given : List (String × Value)) : (newContext id given).Keeps L :=
  Keeps.bind (templateAt_keeps id) fun _ => alloc_keeps trivial

omit hev in
@[grind ←] theorem visibleAt_keeps (site : Site) (vars : List (String × Ref)) : (visibleAt site vars).Keeps L := by
  unfold visibleAt
  refine Keeps.bind (contextAt_keeps _) fun _ => .foldlM (fun acc e => ?_) _ _
  grind

@[grind ←] theorem makeModule_keeps (id : TemplateId) (given : List (String × Value)) :
    (makeModule ev id given).Keeps L := by
  unfold makeModule
  refine Keeps.bind (newContext_keeps id given) fun context => ?_
  refine Keeps.bind (captured_keeps (hev.root id context)) fun output => ?_
  exact Keeps.bind (contextAt_keeps context) fun c => alloc_keeps trivial

omit hev in
/-- A fault in a module stands at the places in the module and at those that lead there. -/
theorem throwAt_keeps {α : Type} {f : Fault} (hf : f.Within L.inFault) {frames : List Frame}
    (hframes : ∀ f ∈ frames, L.inFile f.file f.line) :
    (do modify fun m : Machine => { m with frames := frames ++ m.frames }
        throw f : Eval α).Keeps L := by
  refine fun m hm _ => ⟨hf, hm.cells, fun f hf => ?_⟩
  exact (List.mem_append.1 hf).elim (hframes f) (hm.frames f)

omit hev in
@[grind ←] theorem defaultModule_keeps (id : TemplateId) : (defaultModule id).Keeps L := by
  refine Keeps.bind (templateAt_keeps id) fun l => Gives.bind Template.Gives.get fun m hm => ?_
  refine Gives.bind (Gives.ask hm.cells) fun made hmade => ?_
  refine Keeps.bind (.modify fun m hm => ⟨⟨hmade.cells, hm.frames⟩, rfl⟩) fun _ => ?_
  split
  next => exact .pure _
  next f frames hresult => exact throwAt_keeps (hmade.fault _ hresult).1 (hmade.fault _ hresult).2

@[grind ←] theorem importedModule_keeps (site : Site) (id : TemplateId) (locals : Shared) :
    (importedModule ev site id locals).Keeps L := by
  unfold importedModule
  grind

/-! ## Names of the context -/

omit hev in
@[grind ←] theorem publish_keeps (site : Site) (exporting : Bool) (vars : List (String × Ref)) :
    (publish site exporting vars).Keeps L := by
  refine .forM (fun e => ?_) vars
  grind

omit hev in
@[grind ←] theorem derivedContext_keeps (site : Site) (locals : Shared) : (derivedContext site locals).Keeps L := by
  unfold derivedContext
  have (c : Context) : (Cell.context c).Within L := trivial
  grind

omit hev in
@[grind ←] theorem inherit_keeps (context : CellId) (id : TemplateId) : (inherit context id).Keeps L :=
  Keeps.bind (templateAt_keeps id) fun _ => modifyContext_keeps _ _

omit hev in
@[grind ←] theorem bindImports_keeps (site : Site) (line : Nat) (m : Module) (names : List (String × Ref)) :
    (bindImports site line m names).Keeps L := by
  refine .forM (fun e => ?_) names
  grind

@[grind ←] theorem includedTemplate_keeps (ignoreMissing : Bool) {name : Eval Value} (h : name.Keeps L) :
    (includedTemplate ev ignoreMissing name).Keeps L := by
  unfold includedTemplate
  grind

@[grind ←] theorem printTemplate_keeps (site : Site) (id : TemplateId) (locals : Shared) (depth : Nat) :
    (printTemplate ev site id locals depth).Keeps L := by
  unfold printTemplate
  grind

omit hev in
@[grind ←] theorem requireNamespace_keeps (site : Site) (r : Ref) : (requireNamespace site r).Keeps L := by
  unfold requireNamespace
  grind

@[grind ←] theorem callWith_keeps (site : Site) (block : Value) (e : Expr Ref) :
    (callWith ev site block e).Keeps L := by
  unfold callWith
  split
  · refine Keeps.bind (evaluate_keeps hev _ _) fun _ => Keeps.bind (evaluateAll_keeps hev _ _) fun _ => ?_
    refine Keeps.bind (evaluateOption_keeps hev _ _) fun _ => Keeps.bind (evaluateNamed_keeps hev _ _) fun _ => ?_
    refine Keeps.bind (evaluateOption_keeps hev _ _) fun _ => Keeps.bind (arguments_keeps hev _ _ _ _ _) fun _ => ?_
    exact Keeps.bind (escapesAt_keeps site) fun _ => hev.call _ _ _
  · exact evaluate_keeps hev site e

omit hev in
@[grind ←] theorem asEscaping_keeps (site : Site) (escaping : Escaping) (text : String) :
    (asEscaping site escaping text).Keeps L := by
  unfold asEscaping
  grind

/-! ## Loops -/

@[grind ←] theorem nextRound_keeps (id : CellId) : (nextRound ev id).Keeps L := by
  unfold nextRound
  refine Keeps.bind (peekNext_keeps hev id) fun next => ?_
  split
  · exact .pure _
  · refine .bind_loopAt fun l hl => Keeps.bind (setCell_keeps ?_ id) fun _ => .pure _
    exact LoopState.Within.of_recursion hl rfl

omit hev in
/-- What a loop with a test goes through is tested in the file of the loop. -/
theorem loopSource_keeps {site : Site} {head : LoopHead} (h : head.Within (L.inFile site.file)) (iterable : Value) :
    (loopSource site head iterable).Keeps L := by
  unfold loopSource
  split
  · exact Keeps.bind (iterate_keeps iterable) fun _ => .pure _
  next line loads test htest =>
    have hline : L.inFile site.file line := h.test _ htest
    refine Gives.bind (innerSite_gives site) fun inside hinside => ?_
    have hact : (do enterWith inside loads; iterate iterable : Eval CellId).Keeps L :=
      Keeps.bind (enterWith_keeps inside loads) fun _ => iterate_keeps iterable
    refine Keeps.bind (inFile_keeps hline hact.keepsIn) fun source => Keeps.bind (alloc_keeps ?_) fun _ => .pure _
    change L.inFile inside.file line
    rwa [hinside]

variable {site : Site} {head : LoopHead}

theorem runLoop_keepsIn (h : head.Within (L.inFile site.file)) {recursion : Option Recursion}
    (hrecursion : ∀ r, recursion = some r → r.Within L) (iterable : Value) (depth : Nat) {body : Eval Unit}
    (hbody : body.KeepsIn L site.file) : (runLoop ev site head recursion iterable depth body).KeepsIn L site.file := by
  unfold runLoop
  refine (atLine_keepsIn h.line).bind fun _ => (loopSource_keeps h iterable).keepsIn.bind fun source => ?_
  extract_lets inside
  have hinside : ∀ u, (inside u).KeepsIn L site.file := fun _ =>
    (enterWith_keeps site _).keepsIn.bind fun _ => hbody.bind fun _ => (Keeps.pure _).keepsIn
  clear_value inside
  split
  next source counted =>
  extract_lets rounds
  have hrounds : ∀ state, (rounds state).KeepsIn L site.file := by
    intro state
    refine KeepsIn.bind (.repeatUntil (fun any => (atLine_keepsIn h.line).bind fun _ => ?_) _) fun any =>
      (Keeps.bind (leaveWith_keeps site head.leaves) fun _ => .pure any).keepsIn
    extract_lets round
    have hround : ∀ next, (round next).KeepsIn L site.file := by
      intro next
      simp only [round]
      split
      · exact (Keeps.pure _).keepsIn
      · refine (bindTarget_keeps hev site _ _).keepsIn.bind fun _ => ?_
        split
        · exact (setVariable_keeps site _ _).keepsIn.bind hinside
        · exact hinside ()
    clear_value round
    split
    · exact (nextRound_keeps hev _).keepsIn.bind hround
    · exact (hev.pull _).keepsIn.bind hround
  clear_value rounds
  split
  · exact (Keeps.pure _).keepsIn.bind hrounds
  · refine KeepsIn.bind (alloc_keeps ?_).keepsIn fun id => (Keeps.pure _).keepsIn.bind hrounds
    exact hrecursion

/-- A recursive loop runs in its own file, wherever it is called. -/
theorem runRecursion_keeps {r : Recursion} (h : r.Within L) {body otherwise : Site → Eval Unit}
    (hbody : ∀ s : Site, s.file = r.site.file → (body s).KeepsIn L s.file)
    (hotherwise : ∀ s : Site, s.file = r.site.file → (otherwise s).KeepsIn L s.file) (iterable : Value)
    (depth : Nat) : (runRecursion ev r body otherwise iterable depth).Keeps L := by
  unfold runRecursion
  refine Gives.bind (innerSite_gives r.site) fun site hsite => ?_
  have hhead : r.head.Within (L.inFile site.file) := by simpa only [hsite] using h.head
  refine inFile_keeps hhead.line (KeepsIn.bind (captured_keepsIn ?_) fun pieces => Keeps.keepsIn ?_)
  · refine (runLoop_keepsIn hev hhead (fun _ hr => Option.some.inj hr ▸ h) _ _ (hbody site hsite)).bind fun any => ?_
    split
    · exact hotherwise site hsite
    · exact (Keeps.pure _).keepsIn
  · exact Keeps.bind (concat_keeps pieces) fun _ => asEscaping_keeps site _ _

/-! ## Steps -/

omit hev in
theorem executeAll_of {cs : List Code} {site : Site}
    (h : ∀ c ∈ cs, (execute ev site c).KeepsIn L site.file) : (executeAll ev site cs).KeepsIn L site.file := by
  induction cs with
  | nil =>
    unfold executeAll
    exact (Keeps.pure ()).keepsIn
  | cons c cs ih =>
    obtain ⟨hc, hcs⟩ := List.forall_mem_cons.1 h
    unfold executeAll
    exact hc.bind fun _ => ih hcs

/-! ### Steps with steps in them -/

section

variable {line : Nat} {body yes no otherwise : List Code} {target : Target Ref} {e test : Expr Ref}

omit hev in
theorem execute_unlessExtended_keepsIn (hbody : ∀ c ∈ body, (execute ev site c).KeepsIn L site.file) :
    (execute ev site (.unlessExtended body)).KeepsIn L site.file := by
  unfold execute
  refine (parentOf_keeps site).keepsIn.bind fun parent => ?_
  split
  · exact executeAll_of hbody
  · exact (Keeps.pure ()).keepsIn

theorem execute_ifElse_keepsIn (hline : L.inFile site.file line)
    (hyes : ∀ c ∈ yes, (execute ev site c).KeepsIn L site.file)
    (hno : ∀ c ∈ no, (execute ev site c).KeepsIn L site.file) :
    (execute ev site (.ifElse line test yes no)).KeepsIn L site.file := by
  unfold execute
  refine (atLine_keepsIn hline).bind fun _ => (evaluate_keeps hev site test).keepsIn.bind fun v => ?_
  refine (truth_keeps hev v).keepsIn.bind fun b => ?_
  split
  · exact executeAll_of hyes
  · exact executeAll_of hno

theorem execute_forLoop_keepsIn (hhead : head.Within (L.inFile site.file))
    (hbody : ∀ c ∈ body, c.Within (L.inFile site.file)) (hasOtherwise : Bool)
    (hotherwise : ∀ c ∈ otherwise, c.Within (L.inFile site.file))
    (ihbody : ∀ c ∈ body, ∀ s : Site, s.file = site.file → (execute ev s c).KeepsIn L s.file)
    (ihotherwise : ∀ c ∈ otherwise, ∀ s : Site, s.file = site.file → (execute ev s c).KeepsIn L s.file) :
    (execute ev site (.forLoop head body hasOtherwise otherwise)).KeepsIn L site.file := by
  have hinside : ∀ s : Site, s.file = site.file → (executeAll ev s body).KeepsIn L s.file := fun s hs =>
    executeAll_of fun c hc => ihbody c hc s hs
  have hinstead : ∀ s : Site, s.file = site.file → (executeAll ev s otherwise).KeepsIn L s.file := fun s hs =>
    executeAll_of fun c hc => ihotherwise c hc s hs
  unfold execute
  refine (atLine_keepsIn hhead.line).bind fun _ => (evaluate_keeps hev site _).keepsIn.bind fun iterable => ?_
  split
  · refine (runRecursion_keeps hev ?_ hinside hinstead iterable 0).keepsIn.bind fun v => (write_keeps v).keepsIn
    exact ⟨hhead, hbody, hotherwise⟩
  · refine (runLoop_keepsIn hev hhead (by simp) iterable 0 (hinside site rfl)).bind fun any => ?_
    split
    · exact hinstead site rfl
    · exact (Keeps.pure ()).keepsIn

theorem execute_capture_keepsIn (hline : L.inFile site.file line) (filter : Option (Expr Ref))
    (escaping : Escaping) (hbody : ∀ c ∈ body, (execute ev site c).KeepsIn L site.file) :
    (execute ev site (.capture line target filter escaping body)).KeepsIn L site.file := by
  unfold execute
  refine (captured_keepsIn (executeAll_of hbody)).bind fun pieces => (atLine_keepsIn hline).bind fun _ =>
    Keeps.keepsIn (Keeps.bind (concat_keeps pieces) fun text => ?_)
  extract_lets assign
  have hassign : ∀ v, (assign v).Keeps L := by grind
  clear_value assign
  grind

theorem execute_filtered_keepsIn (hline : L.inFile site.file line) (filter : Expr Ref) (escaping : Escaping)
    (hbody : ∀ c ∈ body, (execute ev site c).KeepsIn L site.file) :
    (execute ev site (.filtered line filter escaping body)).KeepsIn L site.file := by
  unfold execute
  refine (captured_keepsIn (executeAll_of hbody)).bind fun pieces => (atLine_keepsIn hline).bind fun _ =>
    Keeps.keepsIn ?_
  grind

omit hev in
theorem execute_defineMacro_keepsIn (r : Ref) {signature : Signature}
    (hsignature : L.inFile site.file signature.line) (hbody : ∀ c ∈ body, c.Within (L.inFile site.file)) :
    (execute ev site (.defineMacro r signature body)).KeepsIn L site.file := by
  unfold execute
  refine (alloc_keeps ?_).keepsIn.bind fun id => (setVariable_keeps site _ _).keepsIn
  exact Procedure.Within.mk hsignature hbody

theorem execute_callMacro_keepsIn (hline : L.inFile site.file line) (call : Expr Ref) {signature : Signature}
    (hsignature : L.inFile site.file signature.line) (hbody : ∀ c ∈ body, c.Within (L.inFile site.file)) :
    (execute ev site (.callMacro line call signature body)).KeepsIn L site.file := by
  unfold execute
  refine (alloc_keeps ?_).keepsIn.bind fun id => (atLine_keepsIn hline).bind fun _ => Keeps.keepsIn ?_
  · exact Procedure.Within.mk hsignature hbody
  · exact Keeps.bind (callWith_keeps hev site _ call) write_keeps

theorem execute_escapeIf_keepsIn (hline : L.inFile site.file line)
    (hbody : ∀ c ∈ body, (execute ev site c).KeepsIn L site.file) :
    (execute ev site (.escapeIf line e body)).KeepsIn L site.file := by
  unfold execute
  refine (atLine_keepsIn hline).bind fun _ => (evaluate_keeps hev site e).keepsIn.bind fun v => ?_
  refine (truth_keeps hev v).keepsIn.bind fun escapes => (escapesAt_keeps site).keepsIn.bind fun before => ?_
  refine (modifyContext_keeps _ _).keepsIn.bind fun _ => ?_
  exact (executeAll_of hbody).bind fun _ => (modifyContext_keeps _ _).keepsIn

end

/-! ### All steps -/

/-- A step whose lines are lines of the file that it stands in leaves the lines in a machine as they are to be. -/
theorem execute_keepsIn {c : Code} {file : String} (h : c.Within (L.inFile file)) {site : Site}
    (hfile : site.file = file) : (execute ev site c).KeepsIn L site.file := by
  induction h generalizing site with
  | enter loads => unfold execute; exact (enterWith_keeps site loads).keepsIn
  | leave refs => unfold execute; exact (leaveWith_keeps site refs).keepsIn
  | emit text => rw [execute_emit]; exact (write_keeps _).keepsIn
  | failIfExtended =>
    unfold execute
    refine Keeps.keepsIn ?_
    grind
  | requireNamespaces refs =>
    unfold execute
    exact (Keeps.forM (requireNamespace_keeps site) refs).keepsIn
  | publish vars => unfold execute; exact (publish_keeps site true vars).keepsIn
  | conceal vars => unfold execute; exact (publish_keeps site false vars).keepsIn
  | print hline | extend hline | block hline | bind hline | inclusion hline | importAs hline | importNames hline =>
    unfold execute
    refine (atLine_keepsIn (hfile ▸ hline)).bind fun _ => Keeps.keepsIn ?_
    grind
  | unlessExtended _ ih => exact execute_unlessExtended_keepsIn fun c hc => ih c hc hfile
  | ifElse hline test _ _ ihyes ihno =>
    exact execute_ifElse_keepsIn hev (hfile ▸ hline) (fun c hc => ihyes c hc hfile) fun c hc => ihno c hc hfile
  | forLoop hhead hbody hasOtherwise hotherwise ihbody ihotherwise =>
    subst hfile
    exact execute_forLoop_keepsIn hev hhead hbody hasOtherwise hotherwise (fun c hc _ hs => ihbody c hc hs)
      fun c hc _ hs => ihotherwise c hc hs
  | capture hline target filter escaping _ ih =>
    exact execute_capture_keepsIn hev (hfile ▸ hline) filter escaping fun c hc => ih c hc hfile
  | filtered hline filter escaping _ ih =>
    exact execute_filtered_keepsIn hev (hfile ▸ hline) filter escaping fun c hc => ih c hc hfile
  | defineMacro target hsignature hbody =>
    subst hfile
    exact execute_defineMacro_keepsIn target hsignature hbody
  | callMacro hline call hsignature hbody =>
    subst hfile
    exact execute_callMacro_keepsIn hev hline call hsignature hbody
  | escapeIf hline e _ ih => exact execute_escapeIf_keepsIn hev (hfile ▸ hline) fun c hc => ih c hc hfile

theorem executeAll_keepsIn {cs : List Code} {site : Site} (h : ∀ c ∈ cs, c.Within (L.inFile site.file)) :
    (executeAll ev site cs).KeepsIn L site.file :=
  executeAll_of fun c hc => execute_keepsIn hev (h c hc) rfl

end

end TemplateTree.Template
