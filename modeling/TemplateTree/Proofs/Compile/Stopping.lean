import TemplateTree.Proofs.Compile.History

/-!
# Stopping at the first failure

A run renders its input files one after the other. Whether it goes on after a failure makes no difference
up to the first one: both kinds of runs go through the same stages until then, and the one that does not go
on ends there.

* `Stage`, `stages`: what happens to the input files, one after the other.
* `renderAll_stages`: a run does what its stages say, and ends as the last one of them.
* `stages_stopping`: the stages of a run that stops.
* `compile_stopping`: whole runs that go on and that stop.
-/

namespace TemplateTree

open FileSystem Output

variable {α σ : Type}

/-- The same job, with a run that goes on after failures or stops at the first one. -/
def Job.goingOn (job : Job α) (goesOn : Bool) : Job α :=
  { job with options := { job.options with continueOnError := goesOn } }

/-! ## Stages -/

/-- What happens to one input file: the runs before and after it, and why it failed. -/
structure Stage (σ : Type) where
  file : InputFile
  before : Run σ
  after : Run σ
  failure : Option Failure

namespace Stage

/-- The failure with which a run ends at a stage, unless it goes on. -/
def ending (goesOn : Bool) (s : Stage σ) : Option Failure :=
  match s.failure with
  | none => none
  | some failure =>
    if !failure.concernsOneFile then some failure
    else if goesOn then none else some (.processing s.file.relativeName failure)

/-- The run that the next stage begins with. -/
def next (s : Stage σ) : Run σ :=
  match s.failure with
  | none => s.after
  | some failure => s.after.logged [.error (Failure.processing s.file.relativeName failure).message]

/-- The report's entry for a file that was rendered. -/
def rendered? (root : Path) (s : Stage σ) : Option Path :=
  match s.failure with
  | none => some (root.descend s.file.segments)
  | some _ => none

/-- The report's entry for a file that failed. -/
def failed? (s : Stage σ) : Option RenderFailure :=
  s.failure.map fun failure => ⟨s.file.relativeName, failure.message⟩

end Stage

section

variable (engine : Engine α σ) (job : Job α) (root : Path)

/-- The stage of one file. -/
def stageOf (file : InputFile) (run : Run σ) : Stage σ :=
  ⟨file, run, (renderFile engine job root file run).1, (renderFile engine job root file run).2⟩

/-- The stages of some files that are rendered in order, up to the end of the run. -/
def stages : List InputFile → Run σ → List (Stage σ)
  | [], _ => []
  | file :: rest, run =>
    let s := stageOf engine job root file run
    s :: match s.ending job.options.continueOnError with
      | some _ => []
      | none => stages rest s.next

/-- A stage that is none of the last ones takes the rendering one file further. -/
theorem renderAll_cons {file : InputFile} {rest : List InputFile} {report : Report} {run : Run σ}
    (hnone : (stageOf engine job root file run).ending job.options.continueOnError = none) :
    let s := stageOf engine job root file run
    renderAll engine job root (file :: rest) report run = renderAll engine job root rest
      { report with
        rendered := report.rendered ++ (s.rendered? root).toList
        failures := report.failures ++ s.failed?.toList } s.next := by
  simp only [stageOf, Stage.ending] at hnone ⊢
  rw [renderAll]
  cases hfile : renderFile engine job root file run with
  | mk next failure =>
    cases failure with
    | none => simp [Stage.rendered?, Stage.failed?, Stage.next]
    | some failure =>
      simp only [hfile] at hnone
      split_ifs at hnone with hone hgo
      simp [hone, hgo, Stage.rendered?, Stage.failed?, Stage.next]

/-- A run ends at a stage that it cannot go on from. -/
theorem renderAll_ending {file : InputFile} {rest : List InputFile} {report : Report} {run : Run σ}
    {failure : Failure}
    (hsome : (stageOf engine job root file run).ending job.options.continueOnError = some failure) :
    renderAll engine job root (file :: rest) report run
      = ((stageOf engine job root file run).after, .error failure) := by
  simp only [stageOf, Stage.ending] at hsome ⊢
  rw [renderAll]
  cases hfile : renderFile engine job root file run with
  | mk next failure =>
    cases failure with
    | none => simp [hfile] at hsome
    | some failure =>
      simp only [hfile] at hsome
      split_ifs at hsome with hone hgo
      · cases hsome
        simp [hone]
      · cases hsome
        simp [hone, hgo]

/-- The run after some stages, which began with another one. -/
def lastRun (run : Run σ) (done : List (Stage σ)) : Run σ :=
  (done.getLast?.map Stage.next).getD run

/-- How the rendering of some files goes: through all of them, with a report of what has happened at
    each, or to a stage that it cannot go on from. -/
inductive Goes (files : List InputFile) (report : Report) (run : Run σ) :
    List (Stage σ) → Run σ × Except Failure Report → Prop
  | through {done : List (Stage σ)} (all : done.map (·.file) = files)
      (goesOn : ∀ s ∈ done, s.ending job.options.continueOnError = none) :
      Goes files report run done (lastRun run done, .ok
        { report with
          rendered := report.rendered ++ done.filterMap (Stage.rendered? root)
          failures := report.failures ++ done.filterMap Stage.failed? })
  | upTo {before : List (Stage σ)} {s : Stage σ} {failure : Failure}
      (begun : (before ++ [s]).map (·.file) <+: files)
      (goesOn : ∀ s ∈ before, s.ending job.options.continueOnError = none)
      (ending : s.ending job.options.continueOnError = some failure) :
      Goes files report run (before ++ [s]) (s.after, .error failure)

theorem lastRun_cons (run : Run σ) (s : Stage σ) (done : List (Stage σ)) :
    lastRun run (s :: done) = lastRun s.next done := by
  cases done with
  | nil => rfl
  | cons t done => simp only [lastRun, List.getLast?_cons, Option.map_some, Option.getD_some]

/-- Rendering goes through its stages. -/
theorem renderAll_stages (files : List InputFile) (report : Report) (run : Run σ) :
    Goes job root files report run (stages engine job root files run)
      (renderAll engine job root files report run) := by
  induction files generalizing report run with
  | nil =>
    have hnil : Goes job root [] report run ([] : List (Stage σ)) _ := .through rfl nofun
    simpa [lastRun, stages, renderAll] using hnil
  | cons file rest ih =>
    cases hend : (stageOf engine job root file run).ending job.options.continueOnError with
    | some failure =>
      rw [renderAll_ending engine job root hend, stages]
      simp only [hend]
      change Goes job root _ report run ([] ++ [stageOf engine job root file run]) _
      exact .upTo (List.prefix_iff_eq_take.2 rfl) nofun hend
    | none =>
      rw [renderAll_cons engine job root hend, stages]
      simp only [hend]
      have hgoes := ih
        { report with
          rendered := report.rendered ++ ((stageOf engine job root file run).rendered? root).toList
          failures := report.failures ++ (stageOf engine job root file run).failed?.toList }
        (stageOf engine job root file run).next
      generalize stages engine job root rest _ = done at hgoes ⊢
      generalize renderAll engine job root rest _ _ = result at hgoes ⊢
      cases hgoes with
      | through all goesOn =>
        have hrest : Goes job root (file :: rest) report run (stageOf engine job root file run :: done) _ :=
          .through (by rw [List.map_cons, all]; rfl) (List.forall_mem_cons.2 ⟨hend, goesOn⟩)
        rw [lastRun_cons] at hrest
        convert hrest using 4
        · rw [List.append_assoc, List.filterMap_cons]
          cases (stageOf engine job root file run).rendered? root <;> rfl
        · rw [List.append_assoc, List.filterMap_cons]
          cases (stageOf engine job root file run).failed? <;> rfl
      | @upTo before s failure begun goesOn ending =>
        change Goes job root _ report run ((stageOf engine job root file run :: before) ++ [s]) _
        refine .upTo ?_ (List.forall_mem_cons.2 ⟨hend, goesOn⟩) ending
        exact List.cons_prefix_cons.2 ⟨rfl, begun⟩

/-! ## Going on and stopping -/

/-- A run that stops goes through the stages of a run that goes on, up to the first one that fails. -/
theorem stages_stopping {files : List InputFile} {run : Run σ} {before later : List (Stage σ)}
    {s : Stage σ} (hgoing : stages engine (job.goingOn true) root files run = before ++ s :: later)
    (hfine : ∀ s ∈ before, s.failure = none) (hfailed : s.failure.isSome) :
    stages engine (job.goingOn false) root files run = before ++ [s] := by
  induction files generalizing run before with
  | nil => simp [stages] at hgoing
  | cons file rest ih =>
    have hsame : stageOf engine (job.goingOn false) root file run
        = stageOf engine (job.goingOn true) root file run := rfl
    rw [stages] at hgoing ⊢
    rw [hsame]
    generalize stageOf engine (job.goingOn true) root file run = first at hgoing ⊢
    cases before with
    | nil =>
      obtain ⟨rfl, -⟩ := List.cons.inj hgoing
      obtain ⟨failure, hfailure⟩ := Option.isSome_iff_exists.1 hfailed
      have hends : (first.ending false).isSome := by
        simp only [Stage.ending, hfailure, Bool.false_eq_true, if_false]
        split_ifs <;> rfl
      obtain ⟨ending, hending⟩ := Option.isSome_iff_exists.1 hends
      simp only [Job.goingOn, hending, List.nil_append]
    | cons b before =>
      obtain ⟨rfl, hrest⟩ := List.cons.inj hgoing
      obtain ⟨hfirst, hfine⟩ := List.forall_mem_cons.1 hfine
      have hgoes : ∀ goesOn, first.ending goesOn = none := fun _ => by simp only [Stage.ending, hfirst]
      simp only [hgoes, List.cons_append] at hrest ⊢
      rw [ih hrest hfine]

/-- Without failures both go through the same stages. -/
theorem stages_fine {files : List InputFile} {run : Run σ}
    (hfine : ∀ s ∈ stages engine (job.goingOn true) root files run, s.failure = none) :
    stages engine (job.goingOn false) root files run
      = stages engine (job.goingOn true) root files run := by
  induction files generalizing run with
  | nil => rfl
  | cons file rest ih =>
    have hsame : stageOf engine (job.goingOn false) root file run
        = stageOf engine (job.goingOn true) root file run := rfl
    rw [stages] at hfine ⊢
    rw [stages, hsame]
    generalize stageOf engine (job.goingOn true) root file run = first at hfine ⊢
    obtain ⟨hfirst, hfine⟩ := List.forall_mem_cons.1 hfine
    have hgoes : ∀ goesOn, first.ending goesOn = none := fun _ => by simp only [Stage.ending, hfirst]
    simp only [hgoes] at hfine ⊢
    rw [ih hfine]

/-! ## Whole runs -/

/-- A run up to its first file: the output root and the search path, or why it ended before. -/
def setOut (fs : FileSystem) (state : σ) : Run σ × Except Failure (Path × String) :=
  match fs.absolute job.output with
  | .error e => (⟨fs, state, [], []⟩, .error (.raw e))
  | .ok root =>
    match (job.inputs.collect fs).failure with
    | some failure => (job.begun fs state, .error failure)
    | none =>
      match prepare engine job root (job.found fs) (job.begun fs state) with
      | (run, .error failure) => (run, .error failure)
      | (run, .ok searchPath) => (run, .ok (root, searchPath))

/-- The stages of a whole run. -/
def stagesOf (fs : FileSystem) (state : σ) : List (Stage σ) :=
  match setOut engine job fs state with
  | (_, .error _) => []
  | (run, .ok (root, _)) => stages engine job root (job.found fs) run

/-- The end of a run whose files have been rendered. -/
def concluded : Run σ × Except Failure Report → Run σ × Except Failure Report
  | (run, .error failure) => (run, .error failure)
  | (run, .ok report) =>
    (run.logged [.info ("Rendered " ++ toString report.rendered.length ++ " file(s), "
      ++ toString report.failures.length ++ " failure(s)")], .ok report)

theorem compile_eq (fs : FileSystem) (state : σ) :
    compile engine job fs state =
      match setOut engine job fs state with
      | (run, .error failure) => (run, .error failure)
      | (run, .ok (root, searchPath)) =>
        concluded (renderAll engine job root (job.found fs) ⟨root, searchPath, [], []⟩ run) := by
  have hbegun : (Run.mk fs state [] []).logged (job.inputs.collect fs).log = job.begun fs state := by
    simp [Run.logged, Job.begun]
  unfold compile setOut
  cases fs.absolute job.output with
  | error e => rfl
  | ok root =>
    dsimp only
    rw [hbegun]
    cases (job.inputs.collect fs).failure with
    | some failure => rfl
    | none =>
      dsimp only [compileFiles, Job.found]
      cases prepare engine job root (job.inputs.collect fs).files (job.begun fs state) with
      | mk run result =>
        cases result with
        | error failure => rfl
        | ok searchPath =>
          dsimp only
          generalize renderAll engine job root _ _ run = rendered
          obtain ⟨run, report⟩ := rendered
          cases report <;> rfl

/-- The first of some stages at which a file fails, but the run need not end. -/
structure FirstFailure (all before : List (Stage σ)) (s : Stage σ) (failure : Failure) : Prop where
  split : ∃ later, all = before ++ s :: later
  fine : ∀ t ∈ before, t.failure = none
  failed : s.failure = some failure
  concernsOneFile : failure.concernsOneFile = true

variable {engine job root}

namespace Goes

variable {files : List InputFile} {report : Report} {run : Run σ} {done : List (Stage σ)}
variable {r : Run σ × Except Failure Report}

/-- Without failures, the end of a rendering does not depend on whether it goes on. -/
theorem eq_of_fine (h : Goes job root files report run done r) (hfine : ∀ s ∈ done, s.failure = none) :
    r = (lastRun run done, .ok
      { report with
        rendered := report.rendered ++ done.filterMap (Stage.rendered? root)
        failures := report.failures ++ done.filterMap Stage.failed? }) := by
  cases h with
  | through all goesOn => rfl
  | @upTo before s failure begun goesOn ending =>
    have hnone : s.failure = none := hfine s (by simp)
    simp [Stage.ending, hnone] at ending

/-- A rendering ends with the failure of its last stage. -/
theorem eq_of_ending {before : List (Stage σ)} {s : Stage σ} {failure : Failure}
    (h : Goes job root files report run (before ++ [s]) r)
    (hending : s.ending job.options.continueOnError = some failure) : r = (s.after, .error failure) := by
  generalize hdone : before ++ [s] = done at h
  cases h with
  | through all goesOn =>
    have hnone := goesOn s (by simp [← hdone])
    rw [hending] at hnone
    cases hnone
  | upTo begun goesOn ending =>
    obtain ⟨-, hs⟩ := List.append_inj' hdone rfl
    obtain ⟨rfl, -⟩ := List.cons.inj hs
    rw [hending] at ending
    obtain rfl := Option.some.inj ending
    rfl

/-- The stages are those of the first files. -/
theorem file_eq {before later : List (Stage σ)} {s : Stage σ}
    (h : Goes job root files report run (before ++ s :: later) r) :
    files[before.length]? = some s.file := by
  have hbegun : ((before ++ s :: later).map (·.file)) <+: files := by
    generalize before ++ s :: later = done at h
    cases h with
    | through all goesOn => exact all ▸ List.prefix_rfl
    | upTo begun goesOn ending => exact begun
  obtain ⟨rest, rfl⟩ := hbegun
  simp

end Goes

/-- A run that has reported nothing but successes had no failures. -/
theorem fine_of_failures_eq_nil {done : List (Stage σ)} (h : done.filterMap Stage.failed? = []) :
    ∀ s ∈ done, s.failure = none := by
  intro s hs
  have := List.filterMap_eq_nil_iff.1 h s hs
  simpa [Stage.failed?] using this

theorem FirstFailure.failures {all before : List (Stage σ)} {s : Stage σ} {failure : Failure}
    (h : FirstFailure all before s failure) :
    (all.filterMap Stage.failed?).head? = some ⟨s.file.relativeName, failure.message⟩ := by
  obtain ⟨⟨later, rfl⟩, hfine, hfailed, -⟩ := h
  have hnone : before.filterMap Stage.failed? = [] :=
    List.filterMap_eq_nil_iff.2 fun t ht => by simp [Stage.failed?, hfine t ht]
  simp [List.filterMap_append, hnone, Stage.failed?, hfailed]

/-- Where a rendering has noted a failure, there was a first one. -/
theorem exists_firstFailure {done : List (Stage σ)}
    (hgoes : ∀ s ∈ done, s.ending true = none) (h : done.filterMap Stage.failed? ≠ []) :
    ∃ before s failure, FirstFailure done before s failure := by
  induction done with
  | nil => exact absurd rfl h
  | cons s done ih =>
    obtain ⟨hs, hgoes⟩ := List.forall_mem_cons.1 hgoes
    cases hfailure : s.failure with
    | some failure =>
      refine ⟨[], s, failure, ⟨done, rfl⟩, nofun, hfailure, ?_⟩
      simpa [Stage.ending, hfailure] using hs
    | none =>
      rw [List.filterMap_cons_none (by simp [Stage.failed?, hfailure])] at h
      obtain ⟨before, t, failure, ⟨later, rfl⟩, hfine, hfailed, hone⟩ := ih hgoes h
      exact ⟨s :: before, t, failure, ⟨later, rfl⟩, List.forall_mem_cons.2 ⟨hfailure, hfine⟩, hfailed, hone⟩

variable {fs : FileSystem} {state : σ}

/-- A run that ended before its first file. -/
theorem compile_of_setOut (job : Job α) {run : Run σ} {failure : Failure}
    (h : setOut engine job fs state = (run, .error failure)) :
    compile engine job fs state = (run, .error failure) := by
  rw [compile_eq, h]

/-- A run that has come to its first file goes through its stages. -/
theorem compile_goes (job : Job α) {run : Run σ} {searchPath : String}
    (h : setOut engine job fs state = (run, .ok (root, searchPath))) :
    ∃ r, compile engine job fs state = concluded r ∧
      Goes job root (job.found fs) ⟨root, searchPath, [], []⟩ run (stagesOf engine job fs state) r := by
  refine ⟨renderAll engine job root (job.found fs) ⟨root, searchPath, [], []⟩ run, ?_, ?_⟩
  · rw [compile_eq, h]
  · rw [stagesOf, h]
    exact renderAll_stages engine job root (job.found fs) _ run

theorem concluded_ok {r : Run σ × Except Failure Report} {report : Report}
    (h : (concluded r).2 = .ok report) : r.2 = .ok report := by
  obtain ⟨run, result⟩ := r
  cases result with
  | error failure => cases h
  | ok report' => exact h

theorem concluded_error {r : Run σ × Except Failure Report} {failure : Failure}
    (h : (concluded r).2 = .error failure) : concluded r = r ∧ r.2 = .error failure := by
  obtain ⟨run, result⟩ := r
  cases result with
  | error failure' => exact ⟨rfl, h⟩
  | ok report => cases h

/-! ### A run that goes on, and one that stops -/

/-- If nothing fails, both runs are the same. -/
theorem compile_going_fine {report : Report}
    (hreport : (compile engine (job.goingOn true) fs state).2 = .ok report) (hnone : report.failures = []) :
    compile engine (job.goingOn false) fs state = compile engine (job.goingOn true) fs state ∧
      stagesOf engine (job.goingOn false) fs state = stagesOf engine (job.goingOn true) fs state := by
  cases hset : setOut engine job fs state with
  | mk run result =>
    -- Up to the first file it makes no difference whether a run is to go on.
    have hsetOut : ∀ goesOn, setOut engine (job.goingOn goesOn) fs state = (run, result) := fun _ => hset
    cases result with
    | error failure =>
      rw [compile_of_setOut (job.goingOn true) hset] at hreport
      cases hreport
    | ok start =>
      obtain ⟨root, searchPath⟩ := start
      obtain ⟨r, hr, hgoes⟩ := compile_goes (job.goingOn true) hset
      obtain ⟨r', hr', hgoes'⟩ := compile_goes (job.goingOn false) hset
      rw [hr] at hreport
      have hfine : ∀ s ∈ stagesOf engine (job.goingOn true) fs state, s.failure = none := by
        have hok := concluded_ok hreport
        generalize stagesOf engine (job.goingOn true) fs state = done at hgoes ⊢
        cases hgoes with
        | through all goesOn =>
          cases hok
          exact fine_of_failures_eq_nil (by simpa using hnone)
        | upTo begun goesOn ending => cases hok
      have hsame : stagesOf engine (job.goingOn false) fs state
          = stagesOf engine (job.goingOn true) fs state := by
        simp only [stagesOf, hsetOut] at hfine ⊢
        exact stages_fine engine job root hfine
      refine ⟨?_, hsame⟩
      rw [hr, hr', hgoes.eq_of_fine hfine, hgoes'.eq_of_fine (hsame ▸ hfine), hsame]

/-- At the first failure the run that stops has ended. -/
theorem compile_going_failed {before : List (Stage σ)} {s : Stage σ} {failure : Failure}
    (h : FirstFailure (stagesOf engine (job.goingOn true) fs state) before s failure) :
    compile engine (job.goingOn false) fs state
        = (s.after, .error (.processing s.file.relativeName failure)) ∧
      stagesOf engine (job.goingOn false) fs state = before ++ [s] ∧
      (job.found fs)[before.length]? = some s.file ∧
      ∀ report, (compile engine (job.goingOn true) fs state).2 = .ok report →
        report.failures.head? = some ⟨s.file.relativeName, failure.message⟩ := by
  obtain ⟨later, hsplit⟩ := h.split
  cases hset : setOut engine job fs state with
  | mk run result =>
    -- Up to the first file it makes no difference whether a run is to go on.
    have hsetOut : ∀ goesOn, setOut engine (job.goingOn goesOn) fs state = (run, result) := fun _ => hset
    cases result with
    | error failure =>
      have hnone : stagesOf engine (job.goingOn true) fs state = [] := by rw [stagesOf, hsetOut]
      simp [hnone] at hsplit
    | ok start =>
      obtain ⟨root, searchPath⟩ := start
      obtain ⟨r, hr, hgoes⟩ := compile_goes (job.goingOn true) hset
      obtain ⟨r', hr', hgoes'⟩ := compile_goes (job.goingOn false) hset
      have hstops : stagesOf engine (job.goingOn false) fs state = before ++ [s] := by
        simp only [stagesOf, hsetOut] at hsplit ⊢
        exact stages_stopping engine job root hsplit h.fine (by simp [h.failed])
      have hending : s.ending false = some (.processing s.file.relativeName failure) := by
        simp [Stage.ending, h.failed, h.concernsOneFile]
      refine ⟨?_, hstops, ?_, fun report hreport => ?_⟩
      · rw [hstops] at hgoes'
        rw [hr', hgoes'.eq_of_ending hending]
        rfl
      · rw [hsplit] at hgoes
        exact hgoes.file_eq
      · rw [hr] at hreport
        have hok := concluded_ok hreport
        have hhead := h.failures
        generalize stagesOf engine (job.goingOn true) fs state = done at hgoes hhead
        cases hgoes with
        | through all goesOn =>
          cases hok
          simpa using hhead
        | upTo begun goesOn ending => cases hok

/-- A run that goes on and reports failures had a first one. -/
theorem compile_going_exists {report : Report}
    (hreport : (compile engine (job.goingOn true) fs state).2 = .ok report) (hsome : report.failures ≠ []) :
    ∃ before s failure, FirstFailure (stagesOf engine (job.goingOn true) fs state) before s failure := by
  cases hset : setOut engine job fs state with
  | mk run result =>
    -- Up to the first file it makes no difference whether a run is to go on.
    have hsetOut : ∀ goesOn, setOut engine (job.goingOn goesOn) fs state = (run, result) := fun _ => hset
    cases result with
    | error failure =>
      rw [compile_of_setOut (job.goingOn true) hset] at hreport
      cases hreport
    | ok start =>
      obtain ⟨root, searchPath⟩ := start
      obtain ⟨r, hr, hgoes⟩ := compile_goes (job.goingOn true) hset
      rw [hr] at hreport
      have hok := concluded_ok hreport
      generalize stagesOf engine (job.goingOn true) fs state = done at hgoes ⊢
      cases hgoes with
      | through all goesOn =>
        cases hok
        exact exists_firstFailure goesOn (by simpa using hsome)
      | upTo begun goesOn ending => cases hok

/-- If a run ends in a failure that none came before, both runs are the same. -/
theorem compile_going_ended {failure : Failure}
    (herror : (compile engine (job.goingOn true) fs state).2 = .error failure)
    (hnone : ∀ before s failure, ¬ FirstFailure (stagesOf engine (job.goingOn true) fs state) before s failure) :
    compile engine (job.goingOn false) fs state = compile engine (job.goingOn true) fs state := by
  cases hset : setOut engine job fs state with
  | mk run result =>
    -- Up to the first file it makes no difference whether a run is to go on.
    have hsetOut : ∀ goesOn, setOut engine (job.goingOn goesOn) fs state = (run, result) := fun _ => hset
    cases result with
    | error failure =>
      rw [compile_of_setOut (job.goingOn true) hset, compile_of_setOut (job.goingOn false) hset]
    | ok start =>
      obtain ⟨root, searchPath⟩ := start
      obtain ⟨r, hr, hgoes⟩ := compile_goes (job.goingOn true) hset
      obtain ⟨r', hr', hgoes'⟩ := compile_goes (job.goingOn false) hset
      rw [hr] at herror
      obtain ⟨-, herror⟩ := concluded_error herror
      generalize hdone : stagesOf engine (job.goingOn true) fs state = done at hgoes hnone
      cases hgoes with
      | through all goesOn => cases herror
      | @upTo before s failure begun goesOn ending =>
        have hfine : ∀ t ∈ before, t.failure = none := by
          by_contra hsome
          obtain ⟨b, t, f, ⟨later, rfl⟩, hb, ht, hone⟩ :=
            exists_firstFailure goesOn (fun h => hsome (fine_of_failures_eq_nil h))
          exact hnone b t f ⟨⟨later ++ [s], by simp⟩, hb, ht, hone⟩
        -- The failure concerns more than one file, so that no run goes on after it.
        have hfails : ∀ goesOn, s.ending goesOn = some failure := by
          intro goesOn
          simp only [Stage.ending, Job.goingOn] at ending ⊢
          cases hs : s.failure with
          | none => simp [hs] at ending
          | some f =>
            simp only [hs] at ending ⊢
            split_ifs at ending ⊢ with h
            exact ending
        have hsame : stagesOf engine (job.goingOn false) fs state = before ++ [s] := by
          simp only [stagesOf, hsetOut] at hdone ⊢
          refine stages_stopping engine job root hdone hfine ?_
          have := hfails true
          cases hs : s.failure with
          | none => simp [Stage.ending, hs] at this
          | some f => rfl
        rw [hsame] at hgoes'
        rw [hr, hr', hgoes'.eq_of_ending (hfails false)]

/-- Going on and stopping agree up to the first failure, for every engine. Without failures both runs are
    the same. If there is a first failure, the run that stops ends with it, in the state in which the other
    one is right after that file; no later file is looked at. A failure that ends both, with none before
    it, ends them in the same way. -/
theorem compile_stopping (engine : Engine α σ) (job : Job α) (fs : FileSystem) (state : σ) :
    let going := compile engine (job.goingOn true) fs state
    let stopping := compile engine (job.goingOn false) fs state
    let stages := stagesOf engine (job.goingOn true) fs state
    (∀ report, going.2 = .ok report → report.failures = [] → stopping = going) ∧
    (∀ report, going.2 = .ok report → report.failures ≠ [] →
      ∃ before s failure, FirstFailure stages before s failure) ∧
    (∀ before s failure, FirstFailure stages before s failure →
      stopping = (s.after, .error (.processing s.file.relativeName failure)) ∧
        stagesOf engine (job.goingOn false) fs state = before ++ [s] ∧
        (job.found fs)[before.length]? = some s.file ∧
        ∀ report, going.2 = .ok report →
          report.failures.head? = some ⟨s.file.relativeName, failure.message⟩) ∧
    (∀ failure, going.2 = .error failure →
      (∀ before s failure, ¬ FirstFailure stages before s failure) → stopping = going) :=
  ⟨fun _ hreport hnone => (compile_going_fine hreport hnone).1,
    fun _ hreport hsome => compile_going_exists hreport hsome,
    fun _ _ _ h => compile_going_failed h,
    fun _ herror hnone => compile_going_ended herror hnone⟩

end

/-! ### Three files, of which the second one fails -/

/-- A file system with a text, and with two that make the recorder fail. -/
def failing : FileSystem :=
  (((FileSystem.empty []).put ["a"] (.file "1".toUTF8 defaultMode 0)).put ["b"]
    (.file "FAIL".toUTF8 defaultMode 0)).put ["c"] (.file "CRASH".toUTF8 defaultMode 0)

/-- A job that renders some files into a new directory. -/
def rendering (files : List InputFile) : Job Datum where
  inputs := .files files
  includeDirs := []
  base := none
  output := ⟨.single, ["out"]⟩
  project := .text ""
  options := {}

/-- The text. -/
def fineFile : InputFile := ⟨["a"], ⟨.single, ["a"]⟩, Eq.refl true⟩

/-- The text that makes the recorder fail. -/
def failingFile : InputFile := ⟨["b"], ⟨.single, ["b"]⟩, by decide⟩

/-- The text that makes the recorder crash. -/
def crashingFile : InputFile := ⟨["c"], ⟨.single, ["c"]⟩, by decide⟩

theorem compile_stopping_second :
    let stages := stagesOf recorder ((rendering [fineFile, failingFile, fineFile]).goingOn true) failing []
    let crashing := rendering [fineFile, crashingFile, failingFile]
    compile recorder ((rendering [fineFile]).goingOn false) failing []
        = compile recorder ((rendering [fineFile]).goingOn true) failing [] ∧
      (∃ before s, FirstFailure stages before s (.template "b" "double failed" (some 7)) ∧
        before.length = 1 ∧
        compile recorder ((rendering [fineFile, failingFile, fineFile]).goingOn false) failing []
          = (s.after, .error (.processing s.file.relativeName (.template "b" "double failed" (some 7))))) ∧
      compile recorder (crashing.goingOn false) failing []
        = compile recorder (crashing.goingOn true) failing [] := by
  intro stages crashing
  refine ⟨?_, ?_, ?_⟩
  · obtain ⟨hfine, -⟩ := compile_stopping recorder (rendering [fineFile]) failing []
    have hreport : (compile recorder ((rendering [fineFile]).goingOn true) failing []).2
        = .ok ⟨⟨.single, ["out"]⟩, "/a", [⟨.single, ["out", "a"]⟩], []⟩ := by decide +kernel
    exact hfine _ hreport rfl
  · obtain ⟨-, -, hfailed, -⟩ :=
      compile_stopping recorder (rendering [fineFile, failingFile, fineFile]) failing []
    have hlength : stages.length = 3 := by decide +kernel
    obtain ⟨a, b, c, hstages⟩ := List.length_eq_three.1 hlength
    have ha : (stages[0]?.map (·.failure)) = some none := by decide +kernel
    have hb : (stages[1]?.map (·.failure)) = some (some (.template "b" "double failed" (some 7))) := by
      decide +kernel
    have hfirst : FirstFailure stages [a] b (.template "b" "double failed" (some 7)) := by
      rw [hstages] at ha hb ⊢
      exact ⟨⟨[c], rfl⟩, by simpa using ha, by simpa using hb, rfl⟩
    exact ⟨[a], b, hfirst, rfl, (hfailed [a] b _ hfirst).1⟩
  · obtain ⟨-, -, -, hended⟩ := compile_stopping recorder crashing failing []
    have herror : (compile recorder (crashing.goingOn true) failing []).2
        = .error (.crash "RuntimeError" "double crashed") := by decide +kernel
    refine hended _ herror ?_
    -- The first of the stages is fine, and the crash at the second one is the last.
    have hfailures : (stagesOf recorder (crashing.goingOn true) failing []).map (·.failure)
        = [none, some (.crash "RuntimeError" "double crashed")] := by decide +kernel
    rintro before s failure ⟨⟨later, hsplit⟩, -, hfailed, hone⟩
    have hmem : some failure ∈ (stagesOf recorder (crashing.goingOn true) failing []).map (·.failure) := by
      rw [hsplit, ← hfailed]
      simp
    rw [hfailures] at hmem
    obtain rfl : failure = .crash "RuntimeError" "double crashed" := by simpa using hmem
    cases hone

end TemplateTree
