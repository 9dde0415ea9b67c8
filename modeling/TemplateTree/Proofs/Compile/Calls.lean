import TemplateTree.Proofs.Compile.Continuing
import TemplateTree.Proofs.Compile.Stopping
import TemplateTree.Proofs.Output.Atomicity
import TemplateTree.Proofs.SearchPath.Resolving

/-!
# What is asked of an engine

A run asks its engine for little: to be configured once, when the output directory has been rebuilt, and then to
evaluate the input files in order. A file is left out if its source cannot be read or its output cannot be
begun. To see this the engine is given a list in which it notes its calls. That changes nothing, since an
engine of which less is known runs in the same way.

* `Projects`: an engine that is another one with less in its states.
* `Engine.recorded`: an engine with a list of its calls.
* `Consults`: what a stage of a run asks of the engine.
* `renderAll_calls`: the calls while the files are rendered.
* `compile_calls`: the calls of a whole run.
-/

namespace TemplateTree

open FileSystem Output

variable {α σ τ : Type}

/-! ## Engines of which less is known -/

/-- The same writing, with something else left behind. -/
def Output.Written.map (f : σ → τ) (w : Written σ) : Written τ :=
  ⟨f w.state, w.text, w.failure⟩

/-- The same run, with another engine. -/
def Run.map (f : σ → τ) (run : Run σ) : Run τ :=
  ⟨run.files, f run.engine, run.log, run.warnings⟩

/-- The same stage, with another engine. -/
def Stage.map (f : σ → τ) (s : Stage σ) : Stage τ :=
  ⟨s.file, s.before.map f, s.after.map f, s.failure⟩

/-- The engine `F` is `E` when only `f` is known of a state. -/
structure Projects (E : Engine α σ) (F : Engine α τ) (f : σ → τ) : Prop where
  ofText : F.ofText = E.ofText
  configure : ∀ config s, F.configure config (f s) = (E.configure config s).map f id
  evaluate : ∀ fs request s, F.evaluate fs request (f s) = (E.evaluate fs request s).map f

theorem writeAtomically_map {f : σ → τ} {body : FileSystem → σ → Written σ} {body' : FileSystem → τ → Written τ}
    (h : ∀ fs s, body' fs (f s) = (body fs s).map f) (fs : FileSystem) (p : Path) (mode : Nat) (s : σ) :
    writeAtomically fs p mode (f s) body' = (writeAtomically fs p mode s body).map id (Prod.map f id) := by
  unfold writeAtomically
  cases stage fs p with
  | mk S result =>
    cases result with
    | error failure => rfl
    | ok temp =>
      dsimp only
      rw [h]
      rfl

namespace Projects

variable {E : Engine α σ} {F : Engine α τ} {f : σ → τ} (h : Projects E F f)

include h

theorem renderUnit (context : Entries α) (source : Path) (name : String) (target : Path) (fs : FileSystem)
    (s : σ) : TemplateTree.renderUnit F context source name target fs (f s)
      = (TemplateTree.renderUnit E context source name target fs s).map id (Prod.map f id) := by
  unfold TemplateTree.renderUnit
  cases fs.read source with
  | error e => rfl
  | ok bytes =>
    dsimp only
    rw [writeAtomically_map (h.evaluate · _)]
    rfl

theorem renderFile (job : Job α) (root : Path) (file : InputFile) (run : Run σ) :
    TemplateTree.renderFile F job root file (run.map f)
      = (TemplateTree.renderFile E job root file run).map (Run.map f) id := by
  unfold TemplateTree.renderFile
  rw [h.ofText]
  dsimp only
  split
  · rfl
  · dsimp only [Run.logged, Run.warned, Run.map]
    rw [h.renderUnit]
    rfl

theorem stages (job : Job α) (root : Path) (files : List InputFile) (run : Run σ) :
    TemplateTree.stages F job root files (run.map f)
      = (TemplateTree.stages E job root files run).map (Stage.map f) := by
  induction files generalizing run with
  | nil => rfl
  | cons file rest ih =>
    have hstage : stageOf F job root file (run.map f) = (stageOf E job root file run).map f := by
      simp only [stageOf, h.renderFile]
      rfl
    have hnext : ((stageOf E job root file run).map f).next = (stageOf E job root file run).next.map f := by
      simp only [Stage.next, Stage.map]
      split <;> rfl
    simp only [TemplateTree.stages, hstage, hnext, List.map_cons, List.cons.injEq, true_and]
    rw [show ((stageOf E job root file run).map f).ending job.options.continueOnError
      = (stageOf E job root file run).ending job.options.continueOnError from rfl]
    split
    · rfl
    · exact ih _

theorem renderAll (job : Job α) (root : Path) (files : List InputFile) (report : Report) (run : Run σ) :
    TemplateTree.renderAll F job root files report (run.map f)
      = (TemplateTree.renderAll E job root files report run).map (Run.map f) id := by
  induction files generalizing report run with
  | nil => rfl
  | cons file rest ih =>
    simp only [TemplateTree.renderAll, h.renderFile]
    obtain ⟨next, failure⟩ := TemplateTree.renderFile E job root file run
    cases failure with
    | none => exact ih _ next
    | some failure =>
      dsimp only [Prod.map_apply, id]
      split_ifs
      · rfl
      · exact ih _ (next.logged _)
      · rfl

theorem prepare (job : Job α) (root : Path) (files : List InputFile) (run : Run σ) :
    TemplateTree.prepare F job root files (run.map f)
      = (TemplateTree.prepare E job root files run).map (Run.map f) id := by
  simp only [TemplateTree.prepare, Run.map, Run.logged, h.configure]
  rcases SearchPath.resolve run.files files job.includeDirs job.options.includePathMode with
    ⟨records, e | searchPath⟩
  · rfl
  · rcases rebuild run.files root with ⟨B, records, _ | failure⟩ <;> rfl

theorem setOut (job : Job α) (fs : FileSystem) (s : σ) :
    TemplateTree.setOut F job fs (f s) = (TemplateTree.setOut E job fs s).map (Run.map f) id := by
  unfold TemplateTree.setOut
  cases fs.absolute job.output with
  | error e => rfl
  | ok root =>
    cases (job.inputs.collect fs).failure with
    | some failure => rfl
    | none =>
      dsimp only
      rw [show job.begun fs (f s) = (job.begun fs s).map f from rfl, h.prepare]
      rcases TemplateTree.prepare E job root (job.found fs) (job.begun fs s) with ⟨run, failure | searchPath⟩ <;>
        rfl

/-- An engine of which less is known runs in the same way. -/
theorem compile (job : Job α) (fs : FileSystem) (s : σ) :
    TemplateTree.compile F job fs (f s) = (TemplateTree.compile E job fs s).map (Run.map f) id := by
  rw [compile_eq, compile_eq, h.setOut]
  rcases TemplateTree.setOut E job fs s with ⟨run, failure | ⟨root, searchPath⟩⟩
  · rfl
  · dsimp only [Prod.map_apply, id]
    rw [h.renderAll]
    rcases TemplateTree.renderAll E job root (job.found fs) _ run with ⟨last, failure | report⟩
    · rfl
    · rfl

end Projects

/-! ## The search path of a run -/

section

variable {α σ : Type} {engine : Engine α σ} {job : Job α} {fs : FileSystem} {state : σ} {searchPath : String}

theorem prepare_searchPath {root : Path} {files : List InputFile} {run start : Run σ}
    (h : prepare engine job root files run = (start, .ok searchPath)) :
    (SearchPath.resolve run.files files job.includeDirs job.options.includePathMode).2 = .ok searchPath := by
  unfold prepare at h
  split at h
  · cases h
  · rename_i hresolve
    dsimp only [Run.logged] at h
    split at h
    · cases h
    · cases h
      rw [hresolve]

/-- The search path of a report is the one that the run has resolved. -/
theorem compile_searchPath {report : Report} (h : (compile engine job fs state).2 = .ok report) :
    (SearchPath.resolve fs (job.found fs) job.includeDirs job.options.includePathMode).2
      = .ok report.searchPath := by
  obtain ⟨root, start, final, outcomes, -, hprepare, -⟩ := compile_ok (Prod.ext rfl h)
  exact prepare_searchPath hprepare

end

/-! ## Calls -/

/-- A call of an engine. A template is evaluated in the file system in which there is a file for its output. -/
inductive EngineCall (α : Type)
  | configure (config : EngineConfig)
  | evaluate (files : FileSystem) (request : Request α)

/-- The name of the template that is to be evaluated. -/
def EngineCall.name? : EngineCall α → Option String
  | .configure _ => none
  | .evaluate _ request => some request.name

/-- The engine with a list in which it notes its calls. -/
def Engine.recorded (engine : Engine α σ) : Engine α (σ × List (EngineCall α)) where
  ofText := engine.ofText
  configure config s := (engine.configure config s.1).map (·, s.2 ++ [.configure config]) id
  evaluate files request s :=
    (engine.evaluate files request s.1).map (·, s.2 ++ [.evaluate files request])

theorem Engine.recorded_projects (engine : Engine α σ) : Projects engine.recorded engine Prod.fst :=
  ⟨rfl, fun _ _ => rfl, fun _ _ _ => rfl⟩

theorem concluded_engine (r : Run σ × Except Failure Report) : (concluded r).1.engine = r.1.engine := by
  obtain ⟨run, failure | report⟩ := r <;> rfl

section

variable (engine : Engine α σ) (job : Job α) (root : Path)

/-- What the engine is asked for a file: nothing, unless its source can be read, and the directories above its
    target and a temporary file can be made. -/
def call? (file : InputFile) (fs : FileSystem) : Option (EngineCall α) :=
  match fs.read file.path, stage fs (root.descend file.segments) with
  | .ok bytes, (S, .ok _) => some (.evaluate S (requestFor engine job file bytes))
  | _, _ => none

/-- How a stage of a run consults the engine. It is asked for the source of the file, with the context and the
    name that belong to it, when there is a new and empty file for what it writes; or it is not asked, because
    that cannot be had. -/
inductive Consults (s : Stage σ) : Option (EngineCall α) → Prop
  | evaluated {bytes : ByteArray} {S : FileSystem} {temp : Path} {D : Location} {name : String}
      (source : s.before.files.read s.file.path = .ok bytes)
      (staged : stage s.before.files (root.descend s.file.segments) = (S, .ok temp))
      (sink : IsTemp (s.before.files.makeDirs (root.descend s.file.segments).parent).1 S
        (root.descend s.file.segments) temp D name)
      (next : s.after.engine = (engine.evaluate S (requestFor engine job s.file bytes) s.before.engine).state) :
      Consults s (some (.evaluate S
        ⟨buildContext engine.ofText job.base s.file job.project job.options.sourceExtension,
          Text.decodeFile bytes, s.file.relativeName⟩))
  | passed (unable : (∃ e, s.before.files.read s.file.path = .error e) ∨
        ∃ failure, (stage s.before.files (root.descend s.file.segments)).2 = .error failure)
      (failed : s.failure.isSome) (same : s.after.engine = s.before.engine) : Consults s none

variable {job}

/-! ## One file -/

theorem renderFile_named (hnamed : IsNamed (job.base.getD [])) (file : InputFile) (run : Run σ) :
    let result := renderUnit engine
      (buildContext engine.ofText job.base file job.project job.options.sourceExtension) file.path
      file.relativeName (root.descend file.segments) run.files run.engine
    (renderFile engine job root file run).1.engine = result.2.1 ∧
      (renderFile engine job root file run).2 = result.2.2 := by
  have hcontext : contextViolations (buildContext engine.ofText job.base file job.project
      job.options.sourceExtension) = [] :=
    (isNamed_buildContext hnamed file job.project job.options.sourceExtension).contextViolations_eq_nil
  unfold renderFile
  dsimp only [Run.logged, Run.warned]
  rw [hcontext]
  exact ⟨rfl, rfl⟩

/-- How rendering a file consults the engine. -/
theorem consults_stageOf (hnamed : IsNamed (job.base.getD [])) (file : InputFile) (run : Run σ) :
    Consults engine job root (stageOf engine job root file run) (call? engine job root file run.files) := by
  obtain ⟨hengine, hfailure⟩ := renderFile_named engine root hnamed file run
  cases hread : run.files.read file.path with
  | error e =>
    simp only [renderUnit, hread] at hengine hfailure
    simp only [call?, hread]
    exact .passed (.inl ⟨e, hread⟩) (by simp [stageOf, hfailure]) hengine
  | ok bytes =>
    obtain ⟨failure, hstage, -⟩ | ⟨S, temp, D, name, hstage, -, htemp⟩ :=
      stage_anywhere run.files (root.descend file.segments)
    all_goals
      simp only [renderUnit, hread, writeAtomically, hstage] at hengine hfailure
      simp only [call?, hread, hstage]
    · exact .passed (.inr ⟨failure, congrArg Prod.snd hstage⟩) (by simp [stageOf, hfailure]) hengine
    · exact .evaluated hread hstage htemp hengine

/-- An engine that notes its calls notes the one for the file. -/
theorem renderFile_calls (hnamed : IsNamed (job.base.getD [])) (file : InputFile)
    (run : Run (σ × List (EngineCall α))) :
    (renderFile engine.recorded job root file run).1.engine.2
      = run.engine.2 ++ (call? engine job root file run.files).toList := by
  have hconsults : Consults engine.recorded job root (stageOf engine.recorded job root file run)
      (call? engine job root file run.files) := consults_stageOf engine.recorded root hnamed file run
  generalize call? engine job root file run.files = call at hconsults ⊢
  cases hconsults with
  | evaluated source staged sink next => exact congrArg Prod.snd next
  | passed unable failed same => exact (congrArg Prod.snd same).trans (List.append_nil _).symm

/-! ## All files -/

/-- Every stage consults the engine. -/
theorem consults_stages (hnamed : IsNamed (job.base.getD [])) (files : List InputFile) (run : Run σ) :
    ∀ s ∈ stages engine job root files run,
      Consults engine job root s (call? engine job root s.file s.before.files) := by
  induction files generalizing run with
  | nil => simp [stages]
  | cons file rest ih =>
    rw [stages, List.forall_mem_cons]
    refine ⟨consults_stageOf engine root hnamed file run, ?_⟩
    split
    · exact fun s hs => absurd hs List.not_mem_nil
    · exact ih _

/-- What the engine is asked while the files are rendered: for each stage its call, in the same order. -/
theorem renderAll_calls (hnamed : IsNamed (job.base.getD [])) (files : List InputFile) (report : Report)
    (run : Run (σ × List (EngineCall α))) :
    (renderAll engine.recorded job root files report run).1.engine.2
      = run.engine.2 ++ (stages engine.recorded job root files run).filterMap fun s =>
        call? engine job root s.file s.before.files := by
  induction files generalizing report run with
  | nil => simp [renderAll, stages]
  | cons file rest ih =>
    have hcalls := renderFile_calls engine root hnamed file run
    have hnext : (stageOf engine.recorded job root file run).next.engine
        = (renderFile engine.recorded job root file run).1.engine := by
      unfold Stage.next
      split <;> rfl
    rw [stages]
    cases hend : (stageOf engine.recorded job root file run).ending job.options.continueOnError with
    | some failure =>
      rw [renderAll_ending engine.recorded job root hend]
      simpa [stageOf, List.filterMap_eq_flatMap_toList] using hcalls
    | none =>
      rw [renderAll_cons engine.recorded job root hend, ih, hnext, hcalls]
      simp [stageOf, List.filterMap_eq_flatMap_toList]

/-! ## Whole runs -/

/-- The configuration that the engine of a run gets. -/
def Job.config (job : Job α) (searchPath : String) : EngineConfig :=
  { searchPath
    cacheEnabled := job.options.cacheEnabled
    strictUndefined := job.options.strictUndefined }

/-- A run can rebuild its output directory: it knows where that is, what its input files are, and what the search
    path is, and the directory there can be rebuilt. -/
structure Job.Rebuilds (job : Job α) (fs : FileSystem) (root : Path) (searchPath : String) : Prop where
  located : fs.absolute job.output = .ok root
  found : (job.inputs.collect fs).failure = none
  resolved : (SearchPath.resolve fs (job.found fs) job.includeDirs job.options.includePathMode).2 = .ok searchPath
  rebuilt : (rebuild fs root).2.2 = none

variable {fs : FileSystem} {searchPath : String}

/-- If there is a current directory, then the search path is always known. -/
theorem Job.exists_rebuilds (hthere : fs.workDirLost = false) (hroot : fs.absolute job.output = .ok root)
    (hfound : (job.inputs.collect fs).failure = none) (hrebuilt : (rebuild fs root).2.2 = none) :
    ∃ searchPath, job.Rebuilds fs root searchPath := by
  have hresolve := resolve_isOk hthere (job.found fs) job.includeDirs job.options.includePathMode
  cases hpath : (SearchPath.resolve fs (job.found fs) job.includeDirs job.options.includePathMode).2 with
  | error e =>
    rw [hpath] at hresolve
    cases hresolve
  | ok searchPath => exact ⟨searchPath, hroot, hfound, hpath, hrebuilt⟩

/-- When a run has rebuilt its output directory, it configures the engine. -/
theorem setOut_rebuilds (state : σ) (h : job.Rebuilds fs root searchPath) :
    ∃ start, setOut engine job fs state = (start, .ok (root, searchPath)) ∧
      start.files = (rebuild fs root).1 ∧
      start.engine = (engine.configure (job.config searchPath) state).1 := by
  obtain ⟨hroot, hfound, hresolved, hrebuilt⟩ := h
  unfold setOut prepare Job.begun
  simp only [hroot, hfound]
  rcases hresolve : SearchPath.resolve fs (job.found fs) job.includeDirs job.options.includePathMode with
    ⟨records, result⟩
  rw [hresolve] at hresolved
  obtain rfl : result = .ok searchPath := hresolved
  rcases hrebuild : rebuild fs root with ⟨B, records', failure⟩
  rw [hrebuild] at hrebuilt
  obtain rfl : failure = none := hrebuilt
  simp only [Run.logged, hrebuild]
  exact ⟨_, rfl, rfl, rfl⟩

/-- Before that it leaves the engine alone. -/
theorem setOut_untouched (state : σ) (h : ∀ root searchPath, ¬job.Rebuilds fs root searchPath) :
    ∃ run failure, setOut engine job fs state = (run, .error failure) ∧ run.engine = state := by
  unfold setOut prepare Job.begun
  cases hroot : fs.absolute job.output with
  | error e => exact ⟨_, _, rfl, rfl⟩
  | ok root =>
    dsimp only
    cases hfound : (job.inputs.collect fs).failure with
    | some failure => exact ⟨_, _, rfl, rfl⟩
    | none =>
      dsimp only [Run.logged]
      rcases hresolve : SearchPath.resolve fs (job.found fs) job.includeDirs job.options.includePathMode with
        ⟨records, e | searchPath⟩
      · exact ⟨_, _, rfl, rfl⟩
      · rcases hrebuild : rebuild fs root with ⟨B, records', _ | failure⟩
        · exact absurd ⟨hroot, hfound, by rw [hresolve], by rw [hrebuild]⟩ (h root searchPath)
        · exact ⟨_, _, rfl, rfl⟩

/-- What a run that rebuilds its output directory does with its engine, with the stages that its files go
    through and the calls that it makes. `r` is how the rendering ends. -/
structure Protocol (engine : Engine α σ) (job : Job α) (fs : FileSystem) (state : σ) (root : Path)
    (searchPath : String) (start : Run σ) (done : List (Stage σ)) (r : Run σ × Except Failure Report)
    (calls : List (EngineCall α)) : Prop where
  rebuilt : start.files = (rebuild fs root).1
  configured : start.engine = (engine.configure (job.config searchPath) state).1
  stages : done = stages engine job root (job.found fs) start
  goes : Goes job root (job.found fs) ⟨root, searchPath, [], []⟩ start done r
  concludes : compile engine job fs state = concluded r
  consults : ∀ s ∈ done, Consults engine job root s (call? engine job root s.file s.before.files)
  calls : calls = .configure (job.config searchPath) ::
    done.filterMap fun s => call? engine job root s.file s.before.files
  reported : ∀ report, (compile engine job fs state).2 = .ok report → report.searchPath = searchPath

theorem compile_protocol (state : σ) (hnamed : IsNamed (job.base.getD []))
    (h : job.Rebuilds fs root searchPath) :
    ∃ start done r, Protocol engine job fs state root searchPath start done r
      (compile engine.recorded job fs (state, [])).1.engine.2 := by
  have hproj := engine.recorded_projects
  obtain ⟨start, hset, hfiles, hengine⟩ := setOut_rebuilds engine.recorded root (state, []) h
  have hset' : setOut engine job fs state = (start.map Prod.fst, .ok (root, searchPath)) := by
    rw [show state = Prod.fst (state, ([] : List (EngineCall α))) from rfl, hproj.setOut, hset]
    rfl
  obtain ⟨r, hcompile, hgoes⟩ := compile_goes job hset'
  have hstages : stagesOf engine job fs state = stages engine job root (job.found fs) (start.map Prod.fst) := by
    rw [stagesOf, hset']
  have hcalls := renderAll_calls engine root hnamed (job.found fs) ⟨root, searchPath, [], []⟩ start
  refine ⟨start.map Prod.fst, _, r, hfiles, congrArg Prod.fst hengine, hstages, hgoes, hcompile, ?_, ?_, ?_⟩
  · rw [hstages]
    exact consults_stages engine root hnamed (job.found fs) _
  · rw [compile_eq, hset]
    dsimp only
    rw [concluded_engine, hcalls, hstages, hproj.stages, List.filterMap_map, hengine]
    rfl
  · exact fun report hreport => Except.ok.inj ((compile_searchPath hreport).symm.trans h.resolved)

/-- A call for a file is never one to configure the engine. -/
theorem call?_ne_configure (file : InputFile) (fs : FileSystem) (config : EngineConfig) :
    call? engine job root file fs ≠ some (.configure config) := by
  unfold call?
  split
  · simp
  · simp

/-- An engine is configured with the search path that the run has resolved. -/
theorem configured_searchPath (state : σ) (hnamed : IsNamed (job.base.getD [])) {config : EngineConfig}
    (h : EngineCall.configure config ∈ (compile engine.recorded job fs (state, [])).1.engine.2) :
    (SearchPath.resolve fs (job.found fs) job.includeDirs job.options.includePathMode).2
      = .ok config.searchPath := by
  by_cases hrebuilds : ∃ root searchPath, job.Rebuilds fs root searchPath
  · obtain ⟨root, searchPath, hrebuilds⟩ := hrebuilds
    obtain ⟨start, done, r, hprotocol⟩ := compile_protocol engine root state hnamed hrebuilds
    rw [hprotocol.calls] at h
    obtain heq | h := List.mem_cons.1 h
    · cases heq
      exact hrebuilds.resolved
    · obtain ⟨s, -, hcall⟩ := List.mem_filterMap.1 h
      exact absurd hcall (call?_ne_configure engine root s.file s.before.files config)
  · obtain ⟨run, failure, hset, hengine⟩ := setOut_untouched engine.recorded (state, [])
      fun root searchPath h => hrebuilds ⟨root, searchPath, h⟩
    rw [compile_of_setOut job hset, hengine] at h
    cases h

/-- The calls that a run makes of its engine, for every engine and every job whose values have texts as keys. A run
    that rebuilds its output directory has configured the engine then, with the search path that it reports, and
    goes on to the files in order. For each of them it makes the call that the file allows, with what belongs to
    that file, or none. A run that does not get to that makes no calls. What is known of the calls is learned
    from the same run with an engine that notes them. -/
theorem compile_calls (engine : Engine α σ) (job : Job α) (fs : FileSystem) (state : σ)
    (hnamed : ∀ e ∈ job.base.getD [], ∃ name, e.1 = .text name) :
    let recorded := compile engine.recorded job fs (state, [])
    compile engine job fs state = (recorded.1.map Prod.fst, recorded.2) ∧
      (∀ root searchPath, job.Rebuilds fs root searchPath → ∃ start done r,
        Protocol engine job fs state root searchPath start done r recorded.1.engine.2) ∧
      ((∀ root searchPath, ¬job.Rebuilds fs root searchPath) → recorded.1.engine.2 = []) ∧
      ∀ root, fs.workDirLost = false → fs.absolute job.output = .ok root →
        (job.inputs.collect fs).failure = none → (rebuild fs root).2.2 = none →
        ∃ searchPath, job.Rebuilds fs root searchPath := by
  refine ⟨engine.recorded_projects.compile job fs (state, []), fun root searchPath h =>
    compile_protocol engine root state hnamed h, fun h => ?_, fun root hthere hroot hfound hrebuilt =>
    Job.exists_rebuilds root hthere hroot hfound hrebuilt⟩
  obtain ⟨run, failure, hset, hengine⟩ := setOut_untouched engine.recorded (state, []) h
  rw [compile_of_setOut job hset, hengine]

end

/-! ### Files that are left out -/

/-- A file that is not there. -/
def goneFile : InputFile := ⟨["gone"], ⟨.single, ["gone"]⟩, Eq.refl true⟩

/-- A job that goes on after failures, with a file that is not there among the others, and one after a crash. -/
def skipping : Job Datum :=
  (rendering [fineFile, goneFile, failingFile, crashingFile, fineFile]).goingOn true

/-- The engine is not asked for the file that is not there, nor for the one after the crash. -/
theorem compile_calls_skipping : ∃ calls,
    (compile recorder.recorded skipping failing ([], [])).1.engine.2
        = .configure (skipping.config "/a, /gone, /b, /c, /a") :: calls ∧
      calls.map EngineCall.name? = [some "a", some "b", some "c"] := by
  obtain ⟨-, hcalls, -⟩ := compile_calls recorder skipping failing [] nofun
  have hrebuilds : skipping.Rebuilds failing ⟨.single, ["out"]⟩ "/a, /gone, /b, /c, /a" :=
    ⟨rfl, rfl, by decide +kernel, by decide +kernel⟩
  obtain ⟨start, done, r, hprotocol⟩ := hcalls _ _ hrebuilds
  have hnames : (compile recorder.recorded skipping failing ([], [])).1.engine.2.map EngineCall.name?
      = [none, some "a", some "b", some "c"] := by decide +kernel
  rw [hprotocol.calls] at hnames
  exact ⟨_, hprotocol.calls, (List.cons.inj hnames).2⟩

end TemplateTree
