import TemplateTree.Proofs.Compile.Forgetting

/-!
# Repeated runs

A run that finds the same input files as a run before it does the same once more. What the first run has made
is all in its output directory, and gives way to a new one; where the first run could not make an output
directory, the second cannot either. For this the output path has to be one that does not need its own
entry.

* `compileFiles_keeps`: what rendering keeps, a run keeps.
* `Repeatable`: what is asked of a run and a second one after it.
* `compile_again`: the second run.
-/

namespace TemplateTree

open FileSystem Output

variable {α σ : Type} {fs A B : FileSystem} {root : Path} {X : Location}

/-! ## What a run keeps -/

theorem renderFile_later (engine : Engine α σ) (job : Job α) (hp : root.isAbsolute = true) (file : InputFile)
    (run : Run σ) : Later run.files (renderFile engine job root file run).1.files := by
  unfold renderFile
  dsimp only [Run.logged, Run.warned]
  split
  · exact .refl _
  · unfold renderUnit
    cases run.files.read file.path with
    | error e => exact .refl _
    | ok bytes => exact writeAtomically_later (p := root.descend file.segments) hp _ _ _

theorem rebuild_workDir (A : FileSystem) (root : Path) : (rebuild A root).1.workDir = A.workDir := by
  refine (rebuild_ends (P := fun B => B.workDir = A.workDir) ?_ ?_ (fun {B} hB => ?_) rfl).1
  · intro B C p hB hC
    obtain ⟨-, -, -, -, rfl⟩ := unlink_ok (removeFile_eq_ok.1 hC)
    exact hB
  · intro B C p hB hC
    obtain ⟨s, -, rfl⟩ := removeDir_ok (removeDirectory_eq_ok.1 hC)
    rw [workDir_dropDirectory, hB]
  · exact (makeRoot_later B root).workDir.trans hB

/-- What rendering keeps of a rebuilt output directory, a run keeps. -/
theorem compileFiles_keeps {engine : Engine α σ} {job : Job α} {files : List InputFile} {run : Run σ}
    {P : FileSystem → Prop}
    (hstep : ∀ file (run : Run σ), P run.files → P (renderFile engine job root file run).1.files)
    (hresolve : (SearchPath.resolve run.files files job.includeDirs job.options.includePathMode).2.isOk)
    {records : List LogRecord} (hrebuild : rebuild run.files root = (B, records, none)) (hB : P B) :
    P (compileFiles engine job root files run).1.files := by
  unfold compileFiles prepare
  generalize SearchPath.resolve run.files files _ _ = resolved at hresolve ⊢
  obtain ⟨log, searchPath⟩ := resolved
  cases searchPath with
  | error e => cases hresolve
  | ok searchPath =>
    dsimp only [Run.logged] at hrebuild ⊢
    rw [hrebuild]
    dsimp only
    generalize hstart : Run.mk B (engine.configure _ run.engine).1 _ run.warnings = start
    have hrendered := renderAll_keeps hstep files ⟨root, searchPath, [], []⟩
      (show P start.files by rw [← hstart]; exact hB)
    generalize renderAll engine job root files _ start = result at hrendered ⊢
    obtain ⟨final, _ | _⟩ := result
    · exact hrendered
    · exact hrendered

/-- A run whose output directory cannot be rebuilt. -/
theorem compileFiles_stopped (engine : Engine α σ) (job : Job α) (files : List InputFile) (run : Run σ)
    (hresolve : (SearchPath.resolve run.files files job.includeDirs job.options.includePathMode).2.isOk)
    {records : List LogRecord} {failure : Failure}
    (hrebuild : rebuild run.files root = (B, records, some failure)) :
    (compileFiles engine job root files run).1.files = B ∧
      (compileFiles engine job root files run).2 = .error failure := by
  unfold compileFiles prepare
  generalize SearchPath.resolve run.files files _ _ = resolved at hresolve ⊢
  obtain ⟨log, searchPath⟩ := resolved
  cases searchPath with
  | error e => cases hresolve
  | ok searchPath =>
    dsimp only [Run.logged] at hrebuild ⊢
    rw [hrebuild]
    exact ⟨rfl, rfl⟩

theorem compileFiles_workDir (engine : Engine α σ) (job : Job α) (files : List InputFile) (run : Run σ)
    (hp : root.isAbsolute = true)
    (hresolve : (SearchPath.resolve run.files files job.includeDirs job.options.includePathMode).2.isOk) :
    (compileFiles engine job root files run).1.files.workDir = run.files.workDir := by
  have hwork := rebuild_workDir run.files root
  cases hrebuild : rebuild run.files root with
  | mk B rest =>
    obtain ⟨records, failure⟩ := rest
    rw [hrebuild] at hwork
    cases failure with
    | none =>
      exact compileFiles_keeps (P := fun fs => fs.workDir = run.files.workDir)
        (fun file _ h => (renderFile_later engine job hp file _).workDir.trans h) hresolve hrebuild hwork
    | some failure => rw [(compileFiles_stopped engine job files run hresolve hrebuild).1, hwork]

/-- A run that finds its input files. -/
theorem compile_collected (engine : Engine α σ) (job : Job α) (state : σ)
    (hroot : fs.absolute job.output = .ok root) (hfailure : (job.inputs.collect fs).failure = none) :
    compile engine job fs state = compileFiles engine job root (job.inputs.collect fs).files
      ⟨fs, state, (job.inputs.collect fs).log, []⟩ := by
  unfold compile
  rw [hroot]
  dsimp only
  rw [hfailure]
  rfl

/-- A run that does not find its input files. -/
theorem compile_uncollected (engine : Engine α σ) (job : Job α) (state : σ)
    (hroot : fs.absolute job.output = .ok root) {failure : Failure}
    (hfailure : (job.inputs.collect fs).failure = some failure) :
    (compile engine job fs state).1.files = fs := by
  unfold compile
  rw [hroot]
  dsimp only
  rw [hfailure]
  rfl

/-! ## Two runs -/

/-- What is asked of a run between two file systems, and of a second one after it: the current directory is
    still there, the same input files are found again, and the output path leads to its entry without double
    dots and without the entry itself. -/
structure Repeatable (job : Job α) (before after : FileSystem) : Prop where
  stillHere : after.workDirLost = false
  files : (job.inputs.collect after).files = (job.inputs.collect before).files
  failure : (job.inputs.collect after).failure = (job.inputs.collect before).failure
  noDots : ".." ∉ job.output.parts
  alone : ∀ root, before.absolute job.output = .ok root → before.StandsAlone root

/-- A second result that is as good as the first: the same one, or a failure of the system after a failure of
    the system. -/
def AsBefore (first second : Except Failure Report) : Prop :=
  second = first ∨ ∃ failure failure', first = .error failure ∧ second = .error failure' ∧
    IsSystem failure ∧ IsSystem failure'

theorem rebuild_failed {records : List LogRecord} {failure : Failure}
    (h : rebuild A root = (B, records, some failure)) : IsSystem failure :=
  (rebuild_ends (P := fun _ => True) (fun _ _ => trivial) (fun _ _ => trivial) (fun _ => trivial) trivial).2
    failure (by rw [h])

/-- Runs in file systems whose output directory is rebuilt, and then filled and rebuilt once more. -/
theorem compileFiles_again (sink : Template.Sink) (job : Job Template.Value) (state : Template.Session)
    (files : List InputFile) (log log' : List LogRecord) (hp : root.isAbsolute = true)
    (hdots : ".." ∉ root.parts) (hthere : A.workDirLost = false) (hnul : hasNul root = false)
    {records : List LogRecord} (hrebuild : rebuild A root = (B, records, none)) (hfresh : Fresh root X B)
    {first : Run Template.Session × Except Failure Report}
    (hfirst : compileFiles (Template.engine sink) job root files ⟨A, state, log, []⟩ = first)
    (hstill : first.1.files.workDirLost = false) :
    SameOutcome first (compileFiles (Template.engine sink) job root files ⟨first.1.files, state, log', []⟩) := by
  have hresolve := resolve_isOk hthere files job.includeDirs job.options.includePathMode
  have hworkB : B.workDir = A.workDir := by simpa only [hrebuild] using rebuild_workDir A root
  have htree : IsTree root X B := hfresh.isTree hp hdots
  obtain ⟨htree', hlater, hframe⟩ : IsTree root X first.1.files ∧ Later B first.1.files ∧
      ∀ x, ¬X <+: x → first.1.files.node? x = B.node? x := by
    rw [← hfirst]
    refine compileFiles_keeps (P := fun fs => IsTree root X fs ∧ Later B fs ∧
      ∀ x, ¬X <+: x → fs.node? x = B.node? x) (fun file run h => ?_) hresolve hrebuild
      ⟨htree, .refl B, fun _ _ => rfl⟩
    obtain ⟨hrun, hlater, hframe⟩ := h
    obtain ⟨hnext, -, hframe'⟩ := after_frame hp hdots hrun rfl
    exact ⟨hnext, hlater.trans (renderFile_later _ job hp file run),
      fun x hx => (hframe' x hx).trans (hframe x hx)⟩
  obtain ⟨D, records', hrebuild', hD, hnodes⟩ :=
    hfresh.again hp hdots hnul htree'.wellFormed hframe hlater.workDir hlater.workDirLost
  have hsame : B.workDirLost = false := hlater.workDirLost.symm.trans hstill
  have habsolute := absolute_congr (hlater.workDir.trans hworkB) (hstill.trans hthere.symm)
  have halike : RebuiltAlike root (rebuild A root) (rebuild first.1.files root) := by
    rw [hrebuild, hrebuild']
    exact .done _ _ hfresh hD hnodes.node hnodes.workDir ((hnodes.workDirLost hsame).trans hsame.symm)
  rw [← hfirst] at habsolute halike ⊢
  exact compileFiles_twins (engine_unstamped sink) job hp hdots files rfl rfl habsolute hresolve halike

/-- Runs whose output directory cannot be rebuilt. -/
theorem compileFiles_stalled (engine : Engine α σ) (job : Job α) (state : σ) (files : List InputFile)
    (log log' : List LogRecord) (hthere : A.workDirLost = false) (hstalls : Stalls A root)
    {first : Run σ × Except Failure Report} (hfirst : compileFiles engine job root files ⟨A, state, log, []⟩ = first)
    (hstill : first.1.files.workDirLost = false) :
    let second := compileFiles engine job root files ⟨first.1.files, state, log', []⟩
    AsBefore first.2 second.2 ∧ SameEntries first.1.files second.1.files := by
  obtain ⟨B, records, failure, C, records', failure', hrebuild, hrebuild', hnodes⟩ := hstalls
  obtain ⟨hfiles, hresult⟩ := compileFiles_stopped engine job files ⟨A, state, log, []⟩
    (resolve_isOk hthere _ _ _) hrebuild
  rw [hfirst] at hfiles hresult
  rw [hfiles] at hstill ⊢
  obtain ⟨hfiles', hresult'⟩ := compileFiles_stopped engine job files ⟨B, state, log', []⟩
    (resolve_isOk hstill _ _ _) hrebuild'
  intro second
  refine ⟨.inr ⟨failure, failure', hresult, hresult', rebuild_failed hrebuild, rebuild_failed hrebuild'⟩, ?_⟩
  rw [show second.1.files = C from hfiles']
  exact sameEntries_of_nodes hnodes.node hnodes.workDir ((hnodes.workDirLost hstill).trans hstill.symm)

/-- A run does not change which directory is the current one, whether that is still there or not. -/
theorem compile_workDir (engine : Engine α σ) (job : Job α) (state : σ) (hthere : fs.workDirLost = false) :
    (compile engine job fs state).1.files.workDir = fs.workDir := by
  obtain ⟨root, hroot⟩ := exists_absolute hthere job.output
  cases hfailure : (job.inputs.collect fs).failure with
  | some failure => rw [compile_uncollected engine job state hroot hfailure]
  | none =>
    rw [compile_collected engine job state hroot hfailure]
    exact compileFiles_workDir engine job _ _ (isAbsolute_of_absolute hroot) (resolve_isOk hthere _ _ _)

/-- A run after a run has a result that is as good, and leaves the same entries. -/
theorem compile_again (sink : Template.Sink) (job : Job Template.Value) (state : Template.Session)
    (hfs : fs.WellFormed) (hthere : fs.workDirLost = false)
    (hrepeat : Repeatable job fs (compile (Template.engine sink) job fs state).1.files) :
    let first := compile (Template.engine sink) job fs state
    let second := compile (Template.engine sink) job first.1.files state
    AsBefore first.2 second.2 ∧ SameEntries first.1.files second.1.files := by
  dsimp only
  obtain ⟨root, hroot⟩ := exists_absolute hthere job.output
  obtain ⟨hp, hdots⟩ := absolute_eq_ok hfs hrepeat.noDots hroot
  have hwork := compile_workDir (Template.engine sink) job state hthere
  cases hfailure : (job.inputs.collect fs).failure with
  | some failure =>
    -- Nothing has been changed, so that the second run is the first one.
    have hfiles := compile_uncollected (Template.engine sink) job state hroot hfailure
    rw [hfiles, hfiles]
    exact ⟨.inl rfl, .refl _⟩
  | none =>
    have hfirst := compile_collected (Template.engine sink) job state hroot hfailure
    generalize compile (Template.engine sink) job fs state = first at hrepeat hfirst hwork ⊢
    have habsolute := absolute_congr hwork (hrepeat.stillHere.trans hthere.symm) job.output
    rw [compile_collected _ job state (habsolute ▸ hroot) (hrepeat.failure.trans hfailure), hrepeat.files]
    obtain ⟨X, B, records, hrebuild, hnul, hfresh⟩ | hstalls := rebuild_ways hfs hp hdots (hrepeat.alone root hroot)
    · have houtcome := compileFiles_again sink job state _ _ (job.inputs.collect first.1.files).log hp hdots
        hthere hnul hrebuild hfresh hfirst.symm hrepeat.stillHere
      exact ⟨.inl houtcome.result.symm, houtcome.files⟩
    · exact compileFiles_stalled _ job state _ _ _ hthere hstalls hfirst.symm hrepeat.stillHere

end TemplateTree
