import TemplateTree.Compile
import TemplateTree.Proofs.Output.Tree

/-!
# What becomes of the input files

The history of the rendering half of a run: for each input file, in order, the text that was written or
why it failed. Each file changes the output directory below its own target only.

* `Outcome`, `History`: histories.
* `renderFile_step`: one file.
* `renderAll_history`: a run that returns a report has a history, and the report says the same.
-/

namespace TemplateTree

open FileSystem Output

/-- What comes of one input file: the text that was written, or why it failed. -/
inductive Outcome
  | wrote (text : String)
  | failed (failure : Failure)

namespace Outcome

/-- The report's entry for a file that was rendered. -/
def rendered? (root : Path) : InputFile × Outcome → Option Path
  | (file, .wrote _) => some (root.descend file.segments)
  | (_, .failed _) => none

/-- The report's entry for a file that failed. -/
def failed? : InputFile × Outcome → Option RenderFailure
  | (_, .wrote _) => none
  | (file, .failed failure) => some ⟨file.relativeName, failure.message⟩

end Outcome

theorem InputFile.not_mem_segments (f : InputFile) : ".." ∉ f.segments := by
  intro h
  have := List.all_eq_true.1 f.segments_ok _ h
  revert this
  decide

section

variable {α σ : Type} (engine : Engine α σ) (job : Job α) (root : Path)

/-- What the engine is asked for a file whose source has been read. -/
def requestFor (file : InputFile) (bytes : ByteArray) : Request α :=
  ⟨buildContext engine.ofText job.base file job.project job.options.sourceExtension,
    Text.decodeFile bytes, file.relativeName⟩

/-- An outcome of rendering a file. What has been written is what the engine wrote, without failing. -/
inductive Renders (file : InputFile) (run : Run σ) : Outcome → Prop
  | wrote {bytes : ByteArray} {written : Written σ}
      (ok : (renderFile engine job root file run).2 = none)
      (source : run.files.read file.path = .ok bytes)
      (body : written? run.files (root.descend file.segments) run.engine
        (fun fs => engine.evaluate fs (requestFor engine job file bytes)) = some written)
      (complete : written.failure = none) : Renders file run (.wrote written.text)
  | failed {failure : Failure} (failed : (renderFile engine job root file run).2 = some failure) :
      Renders file run (.failed failure)

/-- The run after a file. -/
def after (file : InputFile) (run : Run σ) : Run σ :=
  match renderFile engine job root file run with
  | (run, none) => run
  | (run, some failure) =>
    run.logged [.error (Failure.processing file.relativeName failure).message]

/-- The outcomes of some files that are rendered one after the other. -/
inductive History : List InputFile → Run σ → List Outcome → Run σ → Prop
  | nil (run : Run σ) : History [] run [] run
  | cons {file : InputFile} {files : List InputFile} {run final : Run σ} {outcome : Outcome}
      {outcomes : List Outcome} (head : Renders engine job root file run outcome)
      (tail : History files (after engine job root file run) outcomes final) :
      History (file :: files) run (outcome :: outcomes) final

variable {engine job root}

theorem History.length {files : List InputFile} {run final : Run σ} {outcomes : List Outcome}
    (h : History engine job root files run outcomes final) : outcomes.length = files.length := by
  induction h with
  | nil => rfl
  | cons _ _ ih => simp [ih]

/-! ## One file -/

variable {file : InputFile} {run : Run σ} {L : Location}

/-- A file fails before anything is written, or its target is written with what the engine makes of its
    source. -/
theorem renderFile_cases (engine : Engine α σ) (job : Job α) (root : Path) (file : InputFile)
    (run : Run σ) :
    ((renderFile engine job root file run).2.isSome ∧
      (renderFile engine job root file run).1.files = run.files ∧
      (renderFile engine job root file run).1.engine = run.engine) ∨
    ∃ bytes, run.files.read file.path = .ok bytes ∧
      ∃ fs state failure,
        writeAtomically run.files (root.descend file.segments) defaultMode run.engine
          (fun fs => engine.evaluate fs (requestFor engine job file bytes)) = (fs, state, failure) ∧
        (renderFile engine job root file run).1.files = fs ∧
        (renderFile engine job root file run).1.engine = state ∧
        (renderFile engine job root file run).2 = failure.map (namingSource file.path) := by
  unfold renderFile
  dsimp only
  split
  · exact .inl ⟨rfl, rfl, rfl⟩
  · unfold renderUnit
    dsimp only [Run.logged, Run.warned]
    cases run.files.read file.path with
    | error e => exact .inl ⟨rfl, rfl, rfl⟩
    | ok bytes => exact .inr ⟨bytes, rfl, _, _, _, rfl, rfl, rfl, rfl⟩

/-- Rendering a file changes what a write to its target changes. -/
theorem renderFile_step (hp : root.isAbsolute = true) (hdots : ".." ∉ root.parts)
    (h : IsTree root L run.files) {run' : Run σ} {failure : Option Failure}
    (hresult : renderFile engine job root file run = (run', failure)) :
    IsTree root L run'.files ∧ Extends run.files run'.files ∧
      ∃ text, Wrote L file.segments defaultMode text run.files run'.files failure ∧
        (failure = none → Renders engine job root file run (.wrote text)) := by
  obtain ⟨hsome, hfiles, -⟩ | ⟨bytes, hread, fs, state, failure', hwrite, hfiles, -, hfail⟩ :=
    renderFile_cases engine job root file run
  all_goals rw [hresult] at hfiles
  · rw [hresult] at hsome
    rw [hfiles]
    refine ⟨h, .refl _, "", ⟨le_rfl, fun _ => .inl rfl, ?_⟩, ?_⟩
    all_goals
      rintro rfl
      cases hsome
  · obtain ⟨htree, hext, text, hwrote, htext⟩ :=
      h.write hp hdots file.not_mem_segments defaultMode run.engine _ hwrite
    rw [hfiles]
    have hnone : failure = none → failure' = none := by
      rintro rfl
      rw [hresult] at hfail
      exact Option.map_eq_none_iff.1 hfail.symm
    refine ⟨htree, hext, text, ⟨hwrote.clock, fun x => ?_, fun h => hwrote.target (hnone h)⟩, ?_⟩
    · refine (hwrote.node x).imp id (Or.imp id ?_)
      rintro ⟨rfl, hx⟩
      rw [hresult] at hfail
      exact ⟨hfail, hx⟩
    · intro h
      obtain ⟨written, hwritten, hcomplete, rfl⟩ := htext (hnone h)
      exact .wrote (by rw [hresult]; exact h) hread hwritten hcomplete

theorem Renders.unique {text text' : String} (h : Renders engine job root file run (.wrote text))
    (h' : Renders engine job root file run (.wrote text')) : text = text' := by
  obtain ⟨-, hread, hbody, -⟩ := h
  obtain ⟨-, hread', hbody', -⟩ := h'
  rw [hread] at hread'
  cases hread'
  rw [hbody] at hbody'
  cases hbody'
  rfl

/-- Every file has an outcome. -/
theorem exists_renders (engine : Engine α σ) (job : Job α) (root : Path) (file : InputFile)
    (run : Run σ) :
    (∃ text, (renderFile engine job root file run).2 = none ∧
      Renders engine job root file run (.wrote text)) ∨
    ∃ failure, (renderFile engine job root file run).2 = some failure ∧
      Renders engine job root file run (.failed failure) := by
  cases hok : (renderFile engine job root file run).2 with
  | some failure => exact .inr ⟨failure, rfl, .failed hok⟩
  | none =>
    obtain ⟨hsome, -, -⟩ | ⟨bytes, hread, fs, state, failure, hwrite, -, -, hfail⟩ :=
      renderFile_cases engine job root file run
    · simp [hok] at hsome
    · rw [hok] at hfail
      rw [Option.map_eq_none_iff.1 hfail.symm] at hwrite
      obtain ⟨written, hwritten, hcomplete⟩ := written?_of_ok hwrite
      exact .inl ⟨_, rfl, .wrote hok hread hwritten hcomplete⟩

/-! ## All files -/

/-- What is reported agrees with the history. -/
theorem renderAll_history {files : List InputFile} {report final : Report} {run run' : Run σ}
    (h : renderAll engine job root files report run = (run', .ok final)) :
    ∃ outcomes, History engine job root files run outcomes run' ∧
      final.searchPath = report.searchPath ∧
      final.rendered = report.rendered ++ (files.zip outcomes).filterMap (Outcome.rendered? root) ∧
      final.failures = report.failures ++ (files.zip outcomes).filterMap Outcome.failed? := by
  induction files generalizing report run with
  | nil =>
    cases h
    exact ⟨[], .nil _, rfl, by simp, by simp⟩
  | cons file files ih =>
    rw [renderAll] at h
    cases hfile : renderFile engine job root file run with
    | mk next failure =>
      obtain ⟨text, hok, hrenders⟩ | ⟨f, hfailed, hrenders⟩ :=
        exists_renders engine job root file run
      · obtain rfl : failure = none := by rw [← hok, hfile]
        rw [hfile] at h
        obtain ⟨outcomes, hhist, hpath, hrendered, hfailures⟩ := ih h
        refine ⟨.wrote text :: outcomes, .cons hrenders (by simpa only [after, hfile] using hhist),
          hpath, ?_, ?_⟩
        · simp [hrendered, Outcome.rendered?]
        · rw [hfailures, List.zip_cons_cons, List.filterMap_cons_none rfl]
      · obtain rfl : failure = some f := by rw [← hfailed, hfile]
        rw [hfile] at h
        dsimp only at h
        split_ifs at h
        · cases h
        · obtain ⟨outcomes, hhist, hpath, hrendered, hfailures⟩ := ih h
          refine ⟨.failed f :: outcomes, .cons hrenders (by simpa only [after, hfile] using hhist),
            hpath, ?_, ?_⟩
          · rw [hrendered, List.zip_cons_cons, List.filterMap_cons_none rfl]
          · simp [hfailures, Outcome.failed?]
        · cases h

/-! ## Both halves of a run -/

/-- Until the output directory is rebuilt, nothing changes. -/
theorem prepare_files (engine : Engine α σ) (job : Job α) (root : Path) (files : List InputFile)
    (run : Run σ) :
    (prepare engine job root files run).1.files = run.files ∨
      (prepare engine job root files run).1.files = (rebuild run.files root).1 := by
  unfold prepare
  split
  · exact .inl rfl
  · dsimp only [Run.logged]
    split
    all_goals
      rename_i hrebuild
      rw [hrebuild]
      exact .inr rfl

/-- A run is ready to render when the output directory has been rebuilt. -/
theorem prepare_ok {files : List InputFile} {run start : Run σ} {searchPath : String}
    (h : prepare engine job root files run = (start, .ok searchPath)) :
    ∃ records, rebuild run.files root = (start.files, records, none) := by
  unfold prepare at h
  split at h
  · cases h
  · dsimp only [Run.logged] at h
    split at h
    · cases h
    · rename_i fs records hrebuild
      cases h
      exact ⟨records, hrebuild⟩

/-- The root directory that a run resolves its output path to. -/
theorem absolute_eq_ok {fs : FileSystem} {p : Path} (hfs : fs.WellFormed) (hdots : ".." ∉ p.parts)
    (h : fs.absolute p = .ok root) : root.isAbsolute = true ∧ ".." ∉ root.parts := by
  unfold FileSystem.absolute at h
  split_ifs at h with habs hlost
  · cases h
    exact ⟨habs, hdots⟩
  · cases h
    have hwork := hfs.workDir_names (by simpa using hlost)
    simp only [Path.absolute, Path.join, habs, Bool.false_eq_true, if_false]
    exact ⟨rfl, by simp [workPath, hwork, hdots]⟩

/-- The input files of a job. -/
def Job.found (job : Job α) (fs : FileSystem) : List InputFile :=
  (job.inputs.collect fs).files

/-- A run that knows its input files and has done nothing else. -/
def Job.begun (job : Job α) (fs : FileSystem) (state : σ) : Run σ :=
  ⟨fs, state, (job.inputs.collect fs).log, []⟩

/-- A run that returns a report goes through both halves. -/
theorem compile_ok {fs : FileSystem} {state : σ} {run : Run σ} {report : Report}
    (h : compile engine job fs state = (run, .ok report)) :
    ∃ root start final outcomes, fs.absolute job.output = .ok root ∧
      prepare engine job root (job.found fs) (job.begun fs state) = (start, .ok report.searchPath) ∧
      History engine job root (job.found fs) start outcomes final ∧ run.files = final.files ∧
      report.rendered = ((job.found fs).zip outcomes).filterMap (Outcome.rendered? root) ∧
      report.failures = ((job.found fs).zip outcomes).filterMap Outcome.failed? := by
  unfold compile at h
  cases hroot : fs.absolute job.output with
  | error e =>
    rw [hroot] at h
    cases h
  | ok root =>
    simp only [hroot] at h
    split at h
    · cases h
    · unfold compileFiles at h
      have hbegun : (Run.mk fs state [] []).logged (job.inputs.collect fs).log
          = job.begun fs state := by
        simp [Run.logged, Job.begun]
      rw [hbegun] at h
      split at h
      · cases h
      · rename_i start searchPath hprepare
        split at h
        · cases h
        · rename_i final report' hrender
          cases h
          obtain ⟨outcomes, hist, hpath, hrendered, hfailures⟩ := renderAll_history hrender
          obtain rfl : report.searchPath = searchPath := hpath
          exact ⟨root, start, final, outcomes, rfl, hprepare, hist, rfl, by simpa [Job.found] using hrendered,
            by simpa [Job.found] using hfailures⟩

end

end TemplateTree
