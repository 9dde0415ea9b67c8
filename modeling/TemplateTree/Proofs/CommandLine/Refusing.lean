import TemplateTree.Proofs.CommandLine.Repeating

/-!
# Refused runs

A run knows all of its input files before it touches the output directory. So a failure of the settings, of the
values or of the search for input files leaves the file system as it is, with whatever the run before has put
into the output directory.

* `compileFrom`: a run whose input files may come from anywhere.
* `compileFrom_refused`: such a run when the search for them fails.
* `each_failure`, `collect_failure`: one source directory that cannot be walked makes the search fail.
* `render_refused`: runs, and renders from the command line.
-/

namespace TemplateTree

/-! ## Input files from anywhere -/

section

variable {α σ : Type} (engine : Engine α σ) (job : Job α) (iterate : FileSystem → Collected)

/-- A run that gets its input files from `iterate`, which finds some files and may then fail. -/
def compileFrom (fs : FileSystem) (state : σ) : Run σ × Except Failure Report :=
  let run : Run σ := ⟨fs, state, [], []⟩
  match fs.absolute job.output with
  | .error e => (run, .error (.raw e))
  | .ok root =>
    let collected := iterate fs
    let run := run.logged collected.log
    match collected.failure with
    | some failure => (run, .error failure)
    | none => compileFiles engine job root collected.files run

theorem compile_eq_compileFrom (fs : FileSystem) (state : σ) :
    compile engine job fs state = compileFrom engine job job.inputs.collect fs state := rfl

/-- However many files have been found before the failure, it is that of the run, and nothing has changed. -/
theorem compileFrom_refused {fs : FileSystem} (state : σ) {failure : Failure}
    (h : (iterate fs).failure = some failure) :
    (compileFrom engine job iterate fs state).1.files = fs ∧
      ∀ root, fs.absolute job.output = .ok root →
        (compileFrom engine job iterate fs state).2 = .error failure := by
  unfold compileFrom
  cases fs.absolute job.output with
  | error e => exact ⟨rfl, nofun⟩
  | ok root =>
    dsimp only
    rw [h]
    exact ⟨rfl, fun _ _ => rfl⟩

end

/-! ## Searching source directories -/

/-- One walk that fails makes all of them fail, wherever it stands among them. -/
theorem Collected.each_failure {α : Type} {f : α → Collected} {xs : List α} {x : α} (hx : x ∈ xs)
    (h : (f x).failure.isSome) : (each f xs).failure.isSome := by
  induction xs with
  | nil => cases hx
  | cons y xs ih =>
    rw [each, andThen]
    cases hy : (f y).failure with
    | some failure => simp [hy]
    | none =>
      obtain rfl | hx := List.mem_cons.1 hx
      · simp [hy] at h
      · exact ih hx

/-- A source that is no directory cannot be walked. -/
theorem SourceSet.collect_failure {s : SourceSet} {fs : FileSystem} {root : Path} (hroot : root ∈ s.roots)
    (h : fs.isDir root ≠ .ok true) : (s.collect fs).failure.isSome := by
  refine Collected.each_failure hroot ?_
  unfold walkRoot
  split
  · rfl
  · rfl
  · exact absurd ‹_› h

namespace CommandLine

/-! ## Requests -/

/-- How a request to render ends that is refused: its settings, its values or its project cannot be had, or
    its sources cannot be searched to the end. -/
def RenderRequest.refusal (r : RenderRequest) (env : Environment) (fs : FileSystem) : Option Ending :=
  match r.job env fs with
  | .error failure => some (.ofFailure failure)
  | .ok job => (job.inputs.collect fs).failure.map fun failure => (conclude (.error failure)).2

/-- A source that is no directory makes a request be refused. -/
theorem refusal_of_source {r : RenderRequest} {env : Environment} {fs : FileSystem} {source : Path}
    (hsource : source ∈ r.sources) (h : fs.isDir source ≠ .ok true) : (r.refusal env fs).isSome := by
  unfold RenderRequest.refusal
  cases hjob : r.job env fs with
  | error failure => rfl
  | ok job =>
    have hfailure : (job.inputs.collect fs).failure.isSome := by
      rw [(job_eq_ok hjob).2.1]
      exact SourceSet.collect_failure hsource h
    simpa using hfailure

/-- A render whose input files cannot be had fails with that, and changes nothing. -/
theorem compileTemplates_refused {r : RenderRequest} {env : Environment} {fs : FileSystem} {job : Job Object}
    (h : r.job env fs = .ok job) {failure : Failure}
    (hfailure : (job.inputs.collect fs).failure = some failure) :
    (compileTemplates job fs).1.files = fs ∧ (compileTemplates job fs).2 = .error failure := by
  obtain ⟨root, hroot⟩ := exists_absolute (job_eq_ok h).1 job.output
  obtain ⟨hfiles, hresult⟩ := compileFrom_refused (Template.engine .file) (giveJob job .fresh).1
    (giveJob job .fresh).1.inputs.collect (giveJob job .fresh).2 hfailure
  exact ⟨hfiles, hresult root hroot⟩

theorem invocation_refused {r : RenderRequest} {env : Environment} {fs : FileSystem} {ending : Ending}
    (h : r.refusal env fs = some ending) :
    (r.invocation env fs).files = fs ∧ (r.invocation env fs).ending = ending := by
  unfold RenderRequest.refusal at h
  cases hjob : r.job env fs with
  | error failure =>
    rw [hjob] at h
    obtain rfl := Option.some.inj h
    unfold RenderRequest.invocation
    rw [hjob]
    exact ⟨rfl, rfl⟩
  | ok job =>
    rw [hjob] at h
    obtain ⟨failure, hfailure, rfl⟩ := Option.map_eq_some_iff.1 h
    obtain ⟨hfiles, hending⟩ := render_invocation hjob
    obtain ⟨hsame, hresult⟩ := compileTemplates_refused hjob hfailure
    rw [hfiles, hending, hresult]
    exact ⟨hsame, rfl⟩

/-- What fails before the output directory is rebuilt leaves everything as it is. A run whose input files
    cannot all be had, wherever they come from, ends with that failure. So does a render from the command
    line, which also ends for its settings and values; one source that is no directory is enough, wherever it
    stands. -/
theorem render_refused :
    (∀ {α σ : Type} (engine : Engine α σ) (job : Job α) (iterate : FileSystem → Collected) (fs : FileSystem)
      (state : σ) (failure : Failure), (iterate fs).failure = some failure →
        (compileFrom engine job iterate fs state).1.files = fs ∧
        ∀ root, fs.absolute job.output = .ok root →
          (compileFrom engine job iterate fs state).2 = .error failure) ∧
    (∀ {α σ : Type} (engine : Engine α σ) (job : Job α) (fs : FileSystem) (state : σ),
      compile engine job fs state = compileFrom engine job job.inputs.collect fs state) ∧
    ∀ (args : List String) (env : Environment) (fs : FileSystem) (r : RenderRequest),
      Command.ofArguments args = .ok (.render r) →
        (∀ ending, r.refusal env fs = some ending →
          (invoke args env fs).files = fs ∧ (invoke args env fs).ending = ending) ∧
        ∀ source ∈ r.sources, fs.isDir source ≠ .ok true → (r.refusal env fs).isSome := by
  refine ⟨fun engine job iterate fs state failure h => compileFrom_refused engine job iterate state h,
    compile_eq_compileFrom, ?_⟩
  intro args env fs r hargs
  refine ⟨fun ending h => ?_, fun source hsource h => refusal_of_source hsource h⟩
  have hinvoke : invoke args env fs = r.invocation env fs := by
    simp only [invoke, hargs, Command.perform]
  rw [hinvoke]
  exact invocation_refused h

/-! ### A mistyped source -/

/-- A source directory with one template, and an output directory with what was rendered before. -/
def renderedBefore : FileSystem :=
  oneSource [(["out"], .directory), (["out", "old"], .file "1".toUTF8 FileSystem.defaultMode 0)]

/-- The request to render two sources, of which the second one is mistyped. -/
def mistyped : RenderRequest :=
  { besideRequest with sources := [⟨.relative, ["src"]⟩, ⟨.relative, ["scr"]⟩] }

theorem render_refused_mistyped :
    let done := invoke ["render", "src", "scr", "--output", "out"] [] renderedBefore
    done.files = renderedBefore ∧ done.ending = .exit 1 := by
  obtain ⟨-, -, hrender⟩ := render_refused
  have hargs : Command.ofArguments ["render", "src", "scr", "--output", "out"] = .ok (.render mistyped) := by
    decide +kernel
  have hrefused : mistyped.refusal [] renderedBefore = some (.exit 1) := by decide +kernel
  exact (hrender _ _ _ _ hargs).1 _ hrefused

end CommandLine

end TemplateTree
