import TemplateTree.Proofs.Compile.Filling
import TemplateTree.Proofs.Compile.Sharing
import TemplateTree.Proofs.Output.Failing

/-!
# Going on after failures

A run that goes on after failures reports on all of its files once the output directory has been rebuilt,
whatever the templates are: each file is rendered or is listed as failed. There is one exception. Where a file
has a NUL character in its path, or in its relative path, the run ends with an error over that.

* `render_failed`: why an engine fails.
* `renderFile_failed`: why a file fails.
* `Report.AccountsFor`: a report on all files.
* `compile_continues`: whole runs.
-/

namespace TemplateTree

open FileSystem Output Template

/-! ## The engine -/

namespace Template

theorem concernsOneFile_failureOf (name : String) (frames : List Frame) (f : Fault) :
    (failureOf name frames f).concernsOneFile = true := by
  cases f <;> rfl

/-- An engine that has been configured stays so, and fails over one file only, or because it was given no
    text. -/
def FailsOverOneFile (s : Session) (w : Written Session) : Prop :=
  w.state.isConfigured = s.isConfigured ∧
    ∀ failure, w.failure = some failure →
      failure.concernsOneFile = true ∨ ∃ fault, failure = .undecodable fault

theorem finish_failed (sink : Sink) (name : String) (m : Machine) (fault : Option Fault) (s : Session) :
    FailsOverOneFile s (finish sink name m fault s) := by
  unfold finish
  dsimp only
  split
  · refine ⟨rfl, fun failure h => ?_⟩
    cases h
    exact .inl (concernsOneFile_failureOf _ _ _)
  · refine ⟨rfl, fun failure h => ?_⟩
    obtain ⟨f, -, rfl⟩ := Option.map_eq_some_iff.1 h
    exact .inl (concernsOneFile_failureOf _ _ _)

/-- Whatever the template is, an engine that is ready fails in one of these ways. -/
theorem render_failed (sink : Sink) (files : FileSystem) (request : Request Value) {s : Session}
    (hs : s.isConfigured = true) : FailsOverOneFile s (render sink files request s) := by
  unfold render
  split
  · rename_i hnot
    simp [hs] at hnot
  · split
    · exact ⟨rfl, fun failure h => .inr ⟨_, (Option.some.inj h).symm⟩⟩
    · dsimp only
      split
      · exact finish_failed sink request.name _ _ s
      · split
        all_goals exact finish_failed sink request.name _ _ { s with library := _ }

end Template

/-! ## The context -/

/-- Whether all keys of a context are texts. -/
def IsNamed {α : Type} (entries : Entries α) : Prop :=
  ∀ e ∈ entries, ∃ name, e.1 = .text name

theorem IsNamed.insert {α : Type} {entries : Entries α} (h : IsNamed entries) (name : String) (v : α) :
    IsNamed (entries.insert (.text name) v) := by
  induction entries with
  | nil => simp [IsNamed, Entries.insert]
  | cons e rest ih =>
    obtain ⟨he, hrest⟩ := List.forall_mem_cons.1 h
    rw [Entries.insert]
    split_ifs
    · exact List.forall_mem_cons.2 ⟨he, hrest⟩
    · exact List.forall_mem_cons.2 ⟨he, ih hrest⟩

theorem isNamed_buildContext {α : Type} {ofText : String → α} {base : Option (Entries α)}
    (h : IsNamed (base.getD [])) (file : InputFile) (project : α) (extension : Option String) :
    IsNamed (buildContext ofText base file project extension) :=
  ((h.insert _ _).insert _ _).insert _ _

theorem IsNamed.contextViolations_eq_nil {α : Type} {context : Entries α} (h : IsNamed context) :
    contextViolations context = [] := by
  refine List.filterMap_eq_nil_iff.2 fun e he => ?_
  obtain ⟨name, hname⟩ := h e he
  simp only [hname]

/-! ## One file -/

section

variable {sink : Sink} {job : Job Value} {root : Path} {file : InputFile} {run : Run Session}

theorem concernsOneFile_namingSource {source : Path} {failure : Failure}
    (h : failure.concernsOneFile = true ∨ ∃ fault, failure = .undecodable fault) :
    (namingSource source failure).concernsOneFile = true := by
  obtain h | ⟨fault, rfl⟩ := h
  · cases failure <;> first | exact h | cases h
  · rfl

/-- How a file can fail: the failure concerns it alone, unless there is a NUL character in one of its
    paths. -/
structure FailsAlone (file : InputFile) (failure : Option Failure) : Prop where
  cases : ∀ f, failure = some f → f.concernsOneFile = true ∨ (f = .overNul ∧ file.hasNul = true)
  overPath : FileSystem.hasNul file.path = true → failure = some .overNul

theorem renderUnit_failed (hroot : root.isAbsolute = true) (hnul : FileSystem.hasNul root = false)
    (context : Entries Value) {fs : FileSystem} {s : Session} (hs : s.isConfigured = true) :
    FailsAlone file (renderUnit (engine sink) context file.path file.relativeName
      (root.descend file.segments) fs s).2.2 := by
  unfold renderUnit
  cases hread : fs.read file.path with
  | error e =>
    refine ⟨fun f h => ?_, fun hpath => ?_⟩
    · cases h
      refine (Failure.raw_cases e).imp id fun he => ⟨he.2, ?_⟩
      exact InputFile.hasNul_of_path (hasNul_of_read (he.1 ▸ hread))
    · rw [read_of_hasNul hpath] at hread
      cases hread
      rfl
  | ok bytes =>
    refine ⟨fun f h => ?_, fun hpath => ?_⟩
    · obtain ⟨failure, hfailure, rfl⟩ := Option.map_eq_some_iff.1 h
      obtain (hone | ⟨rfl, htarget⟩) | ⟨S, hbody⟩ := writeAtomically_failed (by simpa using hroot) hfailure
      · exact .inl (concernsOneFile_namingSource (.inl hone))
      · exact .inr ⟨rfl, InputFile.hasNul_of_descend hnul htarget⟩
      · exact .inl (concernsOneFile_namingSource ((render_failed sink S _ hs).2 _ hbody))
    · rw [read_of_hasNul hpath] at hread
      cases hread

/-- One file. The engine is ready for the next one, however the file ends. -/
theorem renderFile_failed (sink : Sink) (file : InputFile) (hnamed : IsNamed (job.base.getD []))
    (hroot : root.isAbsolute = true) (hnul : FileSystem.hasNul root = false)
    (hs : run.engine.isConfigured = true) :
    (renderFile (engine sink) job root file run).1.engine.isConfigured = true ∧
      FailsAlone file (renderFile (engine sink) job root file run).2 := by
  have hcontext : contextViolations (buildContext (engine sink).ofText job.base file job.project
      job.options.sourceExtension) = [] :=
    (isNamed_buildContext hnamed file job.project job.options.sourceExtension).contextViolations_eq_nil
  constructor
  · obtain ⟨-, -, hengine⟩ | ⟨bytes, -, fs, state, failure, hwrite, -, hengine, -⟩ :=
      renderFile_cases (engine sink) job root file run
    · rw [hengine, hs]
    · rw [hengine]
      have hstate := writeAtomically_state run.files (root.descend file.segments) defaultMode run.engine
        fun fs => (engine sink).evaluate fs (requestFor (engine sink) job file bytes)
      rw [hwrite] at hstate
      obtain rfl | ⟨S, rfl⟩ := hstate
      · exact hs
      · exact (render_failed sink S _ hs).1.trans hs
  · unfold renderFile
    simp only [hcontext]
    exact renderUnit_failed hroot hnul _ hs

/-! ## All files -/

/-- Every stage begins with an engine that is ready, and its file fails alone. -/
theorem stages_failed (sink : Sink) (hnamed : IsNamed (job.base.getD [])) (hroot : root.isAbsolute = true)
    (hnul : FileSystem.hasNul root = false) (files : List InputFile) (hs : run.engine.isConfigured = true) :
    ∀ s ∈ stages (engine sink) job root files run, FailsAlone s.file s.failure := by
  induction files generalizing run with
  | nil => simp [stages]
  | cons file rest ih =>
    obtain ⟨hready, hfails⟩ := renderFile_failed sink file hnamed hroot hnul hs
    have hnext : (stageOf (engine sink) job root file run).next.engine.isConfigured = true := by
      unfold Stage.next
      split
      · exact hready
      · exact hready
    intro s hs
    rw [stages] at hs
    obtain rfl | hs := List.mem_cons.1 hs
    · exact hfails
    · split at hs
      · cases hs
      · exact ih hnext s hs

end

/-! ## Whole runs -/

/-- A report on all files of a run: each of them has a stage, and is rendered or listed as failed. -/
structure Report.AccountsFor {σ : Type} (report : Report) (root : Path) (files : List InputFile)
    (stages : List (Stage σ)) : Prop where
  files : stages.map (·.file) = files
  rendered : report.rendered = stages.filterMap (Stage.rendered? root)
  failures : report.failures = stages.filterMap Stage.failed?

theorem setOut_eq_ok {α σ : Type} {engine : Engine α σ} {job : Job α} {fs : FileSystem} {state : σ}
    {start : Run σ} {root : Path} {searchPath : String}
    (h : setOut engine job fs state = (start, .ok (root, searchPath))) :
    fs.absolute job.output = .ok root ∧
      prepare engine job root (job.found fs) (job.begun fs state) = (start, .ok searchPath) := by
  unfold setOut at h
  split at h
  · cases h
  · split at h
    · cases h
    · split at h
      · cases h
      · cases h
        exact ⟨‹_›, ‹_›⟩

/-- In a run that has come to its first file, every file fails alone. -/
theorem stagesOf_failed (sink : Sink) {job : Job Value} {fs : FileSystem} {state : Session} {start : Run Session}
    {root : Path} {searchPath : String} (hnamed : IsNamed (job.base.getD []))
    (hready : setOut (engine sink) job fs state = (start, .ok (root, searchPath))) :
    ∀ s ∈ stagesOf (engine sink) job fs state, FailsAlone s.file s.failure := by
  obtain ⟨hroot, hprepare⟩ := setOut_eq_ok hready
  obtain ⟨records, hrebuild⟩ := prepare_ok hprepare
  rw [stagesOf, hready]
  exact stages_failed sink hnamed (isAbsolute_of_absolute hroot) (hasNul_of_rebuild hrebuild) (job.found fs)
    (prepare_engine hprepare).1

/-- A file system with a good template, one that is no template, and one that is no text. -/
def mixed : FileSystem :=
  (((FileSystem.empty []).put ["good"] (.file "1".toUTF8 defaultMode 0)).put ["open"]
    (.file "\x7b\x7b".toUTF8 defaultMode 0)).put ["bytes"] (.file ⟨#[0xff]⟩ defaultMode 0)

/-- A job that goes on after failures, with a good file after bad ones. -/
def mixedJob (files : List InputFile) : Job Value where
  inputs := .files files
  includeDirs := []
  base := some [(.text "year", .int 2024)]
  output := ⟨.single, ["out"]⟩
  project := .text ""
  options := { continueOnError := true }

/-- An input file under a name, with a source under another. -/
def fileNamed (segments : List String) (source : String) (h : segments.all isSegment = true) : InputFile :=
  ⟨segments, ⟨.single, [source]⟩, h⟩

/-- Three bad files, a good one, and one that the good one is in the way of. -/
def mixedFiles : List InputFile :=
  [fileNamed ["open"] "open" (by decide), fileNamed ["bytes"] "bytes" (by decide),
    fileNamed ["gone"] "gone" (by decide), fileNamed ["good"] "good" (by decide),
    fileNamed ["good", "more"] "good" (by decide)]

-- A NUL character in a name ends the run, although it is to go on.
example : (compile (engine .file)
    (mixedJob [fileNamed ["a\x00b"] "good" (by decide), fileNamed ["good"] "good" (by decide)]) mixed .fresh).2
      = .error .overNul := by
  decide +kernel

end TemplateTree
