import TemplateTree.Proofs.CommandLine.Endings
import TemplateTree.Proofs.Compile.Calls

/-!
# Asking for the search path

There are two ways to a search path: it can be asked for, or a render resolves one for its engine. They take the
mode from different places and the input files at different times, but come to the same path, and where the
input files cannot be had they end in the same way.

* `toOptions_includePathMode`, `job_asks`: the mode and the directories on both ways.
* `UsesPath`: the search path that a render works with.
* `FailAlike`: two invocations that end with the same message.
* `searchPath_agrees`: the two ways agree.
-/

namespace TemplateTree

open FileSystem

/-! ## Searches that fail -/

/-- The first of some walks that fails makes them all fail in the same way. -/
theorem Collected.failure_first {α : Type} {f : α → Collected} {before after : List α} {x : α} {failure : Failure}
    (hbefore : ∀ y ∈ before, (f y).failure = none) (h : (f x).failure = some failure) :
    (each f (before ++ x :: after)).failure = some failure := by
  induction before with
  | nil => simp only [List.nil_append, each, andThen, h]
  | cons y before ih =>
    obtain ⟨hy, hbefore⟩ := List.forall_mem_cons.1 hbefore
    simp only [List.cons_append, each, andThen, hy]
    exact ih hbefore

theorem ofInputs_of_found {fs : FileSystem} {inputs : Inputs} {includeDirs : List Path} {mode : IncludePathMode}
    {searchPath : String} (h : (inputs.collect fs).failure = none)
    (hpath : (SearchPath.resolve fs (inputs.collect fs).files includeDirs mode).2 = .ok searchPath) :
    ∃ log, SearchPath.ofInputs fs inputs includeDirs mode = (log, .ok searchPath) := by
  unfold SearchPath.ofInputs
  dsimp only
  rw [h]
  exact ⟨_, by dsimp only; rw [hpath]; rfl⟩

theorem ofInputs_of_failure {fs : FileSystem} {inputs : Inputs} {failure : Failure} (includeDirs : List Path)
    (mode : IncludePathMode) (h : (inputs.collect fs).failure = some failure) :
    ∃ log, SearchPath.ofInputs fs inputs includeDirs mode = (log, .error failure) := by
  unfold SearchPath.ofInputs
  dsimp only
  rw [h]
  exact ⟨_, rfl⟩

theorem Failure.message_io (operation : String) (path : Path) {reason : String} (h : reason ≠ "") :
    (Failure.io operation path reason).message
      = "Failed to " ++ operation ++ " " ++ path.text ++ ": " ++ reason :=
  if_neg (by simpa using h)

namespace CommandLine

variable {env : Environment} {fs : FileSystem} {r : RenderRequest} {job : Job Object}

/-! ## The same question -/

/-- The question for the search path that a render uses. -/
def RenderRequest.question (r : RenderRequest) : SearchPathRequest :=
  ⟨r.sources, r.includeDirs, r.includePathMode⟩

theorem both_eq_ok {α β : Type} {a : Checked α} {b : Checked β} {x : α} {y : β}
    (h : Checked.both a b = .ok (x, y)) : a = .ok x ∧ b = .ok y := by
  unfold Checked.both at h
  split at h
  · cases h
    exact ⟨rfl, rfl⟩
  · cases h
  · cases h
  · cases h

theorem get?_includePathMode (r : RenderRequest) :
    Fields.get? (r.overrides.filter fun f => !f.2.isNone) "include_path_mode"
      = r.includePathMode.map fun mode => .text mode.word := by
  unfold RenderRequest.overrides Fields.get?
  cases r.sourceExtension <;> cases r.includePathMode <;> cases r.continueOnError <;> cases r.noCache <;> rfl

/-- The mode of a run is the one that the request asks for, or else that of the settings. -/
theorem toOptions_includePathMode {settings options : CompileOptions}
    (h : Settings.toOptions settings r.overrides = .ok options) :
    options.includePathMode = r.includePathMode.getD settings.includePathMode := by
  obtain ⟨⟨extension, cache, strict, mode, goOn⟩, hfields, h⟩ := bind_eq_ok.1 h
  cases h
  obtain ⟨-, hfields⟩ := both_eq_ok hfields
  obtain ⟨-, hfields⟩ := both_eq_ok hfields
  obtain ⟨-, hfields⟩ := both_eq_ok hfields
  obtain ⟨hmode, -⟩ := both_eq_ok hfields
  unfold Fields.optional at hmode
  rw [get?_includePathMode] at hmode
  cases hasked : r.includePathMode with
  | none =>
    rw [hasked] at hmode
    exact (Except.ok.inj hmode).symm
  | some asked =>
    rw [hasked] at hmode
    cases asked <;> exact (Except.ok.inj hmode).symm

/-- The question takes the same mode and the same directories as the job. -/
theorem job_asks (h : r.job env fs = .ok job) :
    r.question.mode env = .ok job.options.includePathMode ∧ job.includeDirs = r.includeDirs := by
  obtain ⟨settings, hsettings, h⟩ := bind_eq_ok.1 h
  obtain ⟨options, hoptions, h⟩ := bind_eq_ok.1 h
  obtain ⟨values, -, h⟩ := bind_eq_ok.1 h
  obtain ⟨project, -, h⟩ := bind_eq_ok.1 h
  cases h
  have hmode := toOptions_includePathMode (mapError_eq_ok.1 hoptions)
  refine ⟨?_, rfl⟩
  dsimp only
  rw [hmode, SearchPathRequest.mode, mapError_eq_ok.1 hsettings]
  cases hasked : r.includePathMode <;> simp only [RenderRequest.question, hasked] <;> rfl

/-! ## The same path -/

/-- The calls that a job makes of the template engine. -/
def callsOf (job : Job Object) (fs : FileSystem) : List (EngineCall Template.Value) :=
  let (job, s) := giveJob job .fresh
  (compile (Template.engine .file).recorded job fs (s, [])).1.engine.2

/-- A search path is the one that a job resolves, and so the one that its engine is configured with and that it
    reports. -/
structure UsesPath (job : Job Object) (fs : FileSystem) (searchPath : String) : Prop where
  resolved : (SearchPath.resolve fs (job.found fs) job.includeDirs job.options.includePathMode).2 = .ok searchPath
  configured : ∀ config, .configure config ∈ callsOf job fs → config.searchPath = searchPath
  reported : ∀ report, (compileTemplates job fs).2 = .ok report → report.searchPath = searchPath

theorem usesPath_of_resolved (hnamed : IsNamed (job.base.getD [])) {searchPath : String}
    (h : (SearchPath.resolve fs (job.found fs) job.includeDirs job.options.includePathMode).2 = .ok searchPath) :
    UsesPath job fs searchPath := by
  refine ⟨h, fun config hconfig => ?_, fun report hreport => ?_⟩
  · have hconfigured := configured_searchPath (Template.engine .file) _ (giveJob_named hnamed .fresh) hconfig
    exact Except.ok.inj (hconfigured.symm.trans h)
  · exact Except.ok.inj ((compile_searchPath hreport).symm.trans h)

/-- How the question ends, once the mode is known. -/
theorem question_invocation (hpatterns : r.patterns = []) (hexcludes : r.excludes = []) (h : r.job env fs = .ok job) :
    r.question.invocation env fs =
      match SearchPath.ofInputs fs job.inputs job.includeDirs job.options.includePathMode with
      | (log, .ok path) => ⟨fs, .exit 0, path ++ "\n", "", log⟩
      | (log, .error failure) =>
        if isReported failure then ⟨fs, .exit 1, "", failure.message ++ "\n", log⟩
        else ⟨fs, .ofFailure failure, "", "", log⟩ := by
  obtain ⟨hmode, hdirs⟩ := job_asks h
  obtain ⟨-, hinputs, -⟩ := job_eq_ok h
  unfold SearchPathRequest.invocation
  rw [hmode, hinputs, hdirs, hpatterns, hexcludes]
  rfl

/-! ## The same failures -/

/-- An invocation of each kind, both of which exit with the code 1 after the same message. -/
structure FailAlike (asked rendered : Invocation) (message : String) : Prop where
  askedCode : asked.ending = .exit 1
  askedErrors : asked.errors = message ++ "\n"
  renderedCode : rendered.ending = .exit 1
  renderedErrors : Says rendered message

/-- The failure over a source that is no directory. -/
def noDirectory (source : Path) : Failure :=
  .io "read source directory" source "not a directory"

theorem noDirectory_message (source : Path) :
    (noDirectory source).message = "Failed to read source directory " ++ source.text ++ ": not a directory" := by
  have hhead : "Failed to " ++ "read source directory" ++ " " = "Failed to read source directory " := by decide
  have htail : ": " ++ "not a directory" = ": not a directory" := by decide
  rw [noDirectory, Failure.message_io _ _ (by decide), hhead, String.append_assoc, htail]

theorem walkRoot_noDirectory {s : SourceSet} {source : Path} (h : fs.isDir source = .ok false) :
    (s.walkRoot fs source).failure = some (noDirectory source) := by
  unfold SourceSet.walkRoot
  rw [h]
  rfl

/-- A failure of the search for input files is reported, or is one that no command expects. -/
theorem isRaw_of_collect (hfs : fs.WellFormed) (h : r.job env fs = .ok job) {failure : Failure}
    (hfailure : (job.inputs.collect fs).failure = some failure) (hnot : isReported failure = false) :
    IsRaw failure := by
  obtain ⟨hthere, hinputs, -⟩ := job_eq_ok h
  rw [hinputs] at hfailure
  obtain hio | hdefect | ⟨-, rfl⟩ := SourceSet.collect_failed hfs hfailure
  · rw [isReported_of_isIo hio] at hnot
    cases hnot
  · exact isRaw_sourceDefect hdefect
  · exact isRaw_raw _

/-- Where the input files can be had, the answer to the question is the search path that the render uses. -/
theorem question_answered (hpatterns : r.patterns = []) (hexcludes : r.excludes = []) (h : r.job env fs = .ok job)
    (hcollect : (job.inputs.collect fs).failure = none) :
    ∃ searchPath, (r.question.invocation env fs).ending = .exit 0 ∧
      (r.question.invocation env fs).output = searchPath ++ "\n" ∧ UsesPath job fs searchPath := by
  have hresolves := resolve_isOk (job_eq_ok h).1 (job.found fs) job.includeDirs job.options.includePathMode
  cases hresolve : (SearchPath.resolve fs (job.found fs) job.includeDirs job.options.includePathMode).2 with
  | error e =>
    rw [hresolve] at hresolves
    cases hresolves
  | ok searchPath =>
    obtain ⟨log, hpath⟩ := ofInputs_of_found hcollect hresolve
    rw [question_invocation hpatterns hexcludes h, hpath]
    exact ⟨searchPath, rfl, rfl, usesPath_of_resolved (job_named h) hresolve⟩

/-- Where the input files cannot be had, the question and the render end alike. -/
theorem question_refused (hfs : fs.WellFormed) (hpatterns : r.patterns = []) (hexcludes : r.excludes = [])
    (h : r.job env fs = .ok job) {failure : Failure} (hcollect : (job.inputs.collect fs).failure = some failure) :
    (r.invocation env fs).files = fs ∧
      ((isReported failure = true ∧
          FailAlike (r.question.invocation env fs) (r.invocation env fs) failure.message) ∨
        (isReported failure = false ∧ (r.question.invocation env fs).ending = .failed failure ∧
          (r.invocation env fs).ending = .failed failure)) := by
  obtain ⟨hfiles, hresult⟩ := compileTemplates_refused h hcollect
  obtain ⟨hsame, hending⟩ := render_invocation h
  obtain ⟨log, hpath⟩ := ofInputs_of_failure job.includeDirs job.options.includePathMode hcollect
  rw [question_invocation hpatterns hexcludes h, hpath]
  refine ⟨hsame.trans hfiles, ?_⟩
  cases hreported : isReported failure with
  | true =>
    obtain ⟨hexit, hsays⟩ := render_reported h hresult hreported
    exact .inl ⟨rfl, by simp [hreported], by simp [hreported], hexit, hsays⟩
  | false =>
    have hraw := (isRaw_of_collect hfs h hcollect hreported).ofFailure
    simp only [hresult, conclude, hreported, Bool.false_eq_true, if_false, hraw] at hending
    exact .inr ⟨rfl, by simp [hreported, hraw], hending⟩

/-- A question for the search path agrees with a render of the same sources, with the same include directories and
    the same mode, when no patterns choose among the files and the render gets as far as its job. It is answered
    exactly if the input files can be had, with the search path that the render uses. If they cannot be had, both
    end with that failure, and nothing has changed. A source that is no directory is named by both, if those
    before it could be searched. -/
theorem searchPath_agrees (args args' : List String) (env : Environment) {fs : FileSystem} (hfs : fs.WellFormed)
    {r : RenderRequest} {job : Job Object} (hquestion : Command.ofArguments args = .ok (.searchPath r.question))
    (hrender : Command.ofArguments args' = .ok (.render r)) (hpatterns : r.patterns = [])
    (hexcludes : r.excludes = []) (hjob : r.job env fs = .ok job) :
    let asked := invoke args env fs
    let rendered := invoke args' env fs
    let run := compileTemplates job fs
    let failure := (job.inputs.collect fs).failure
    (rendered.files = run.1.files ∧ rendered.ending = (conclude run.2).2) ∧
      (asked.ending = .exit 0 ↔ failure = none) ∧
      (failure = none → ∃ searchPath, asked.output = searchPath ++ "\n" ∧ UsesPath job fs searchPath) ∧
      (∀ f, failure = some f → rendered.files = fs ∧
        ((isReported f = true ∧ FailAlike asked rendered f.message) ∨
          (isReported f = false ∧ asked.ending = .failed f ∧ rendered.ending = .failed f))) ∧
      (∀ source ∈ r.sources, fs.isDir source ≠ .ok true → failure.isSome) ∧
      ∀ before source after, r.sources = before ++ source :: after → fs.isDir source = .ok false →
        (∀ earlier ∈ before,
          ((⟨r.sources, r.patterns, r.excludes⟩ : SourceSet).walkRoot fs earlier).failure = none) →
        FailAlike asked rendered ("Failed to read source directory " ++ source.text ++ ": not a directory") := by
  intro asked rendered run failure
  have hasked : asked = r.question.invocation env fs := by
    simp only [asked, invoke, hquestion, Command.perform]
  have hrendered : rendered = r.invocation env fs := by
    simp only [rendered, invoke, hrender, Command.perform]
  rw [hasked, hrendered]
  have hinputs := (job_eq_ok hjob).2.1
  have hrefused : ∀ f, failure = some f → _ := fun f hf => question_refused hfs hpatterns hexcludes hjob hf
  refine ⟨render_invocation hjob, ⟨fun hexit => ?_, fun hnone => ?_⟩, fun hnone => ?_, hrefused,
    fun source hsource hdir => ?_, fun before source after hsources hdir hbefore => ?_⟩
  · cases hfailure : failure with
    | none => rfl
    | some f =>
      obtain ⟨-, ⟨-, halike⟩ | ⟨-, hfailed, -⟩⟩ := hrefused f hfailure
      · rw [halike.askedCode] at hexit
        cases hexit
      · rw [hfailed] at hexit
        cases hexit
  · obtain ⟨searchPath, hexit, -⟩ := question_answered hpatterns hexcludes hjob hnone
    exact hexit
  · obtain ⟨searchPath, -, houtput, huses⟩ := question_answered hpatterns hexcludes hjob hnone
    exact ⟨searchPath, houtput, huses⟩
  · simp only [failure, hinputs]
    exact SourceSet.collect_failure hsource hdir
  · have hfailure : failure = some (noDirectory source) := by
      simp only [failure, hinputs, Inputs.collect, SourceSet.collect]
      rw [hsources] at hbefore ⊢
      exact Collected.failure_first hbefore (walkRoot_noDirectory hdir)
    obtain ⟨-, ⟨-, halike⟩ | ⟨hnot, -⟩⟩ := hrefused _ hfailure
    · rwa [noDirectory_message] at halike
    · cases hnot

/-! ### A source directory, and a mistyped one -/

theorem exists_job {env : Environment} {fs : FileSystem} {r : RenderRequest} (h : (r.job env fs).isOk = true) :
    ∃ job, r.job env fs = .ok job := by
  cases hjob : r.job env fs with
  | error failure =>
    rw [hjob] at h
    cases h
  | ok job => exact ⟨job, rfl⟩

/-- The path of the one template is printed and used; and both commands name the source that is not there. -/
theorem searchPath_agrees_beside :
    (∃ job searchPath, besideRequest.job [] (oneSource []) = .ok job ∧
      (invoke ["search-path", "src"] [] (oneSource [])).output = searchPath ++ "\n" ∧
      UsesPath job (oneSource []) searchPath) ∧
    FailAlike (invoke ["search-path", "src", "scr"] [] (oneSource []))
      (invoke ["render", "src", "scr", "--output", "out"] [] (oneSource []))
      "Failed to read source directory scr: not a directory" := by
  constructor
  · have hdescribed : (besideRequest.job [] (oneSource [])).isOk = true := by decide +kernel
    obtain ⟨job, hjob⟩ := exists_job hdescribed
    obtain ⟨-, -, hanswer, -⟩ := searchPath_agrees ["search-path", "src"] ["render", "src", "--output", "out"] []
      oneSource_wellFormed (by decide +kernel) (by decide +kernel) rfl rfl hjob
    have hcollect : (job.inputs.collect (oneSource [])).failure = none := by
      rw [(job_eq_ok hjob).2.1]
      decide +kernel
    obtain ⟨searchPath, houtput, huses⟩ := hanswer hcollect
    exact ⟨job, searchPath, hjob, houtput, huses⟩
  · have hdescribed : (mistyped.job [] (oneSource [])).isOk = true := by decide +kernel
    obtain ⟨job, hjob⟩ := exists_job hdescribed
    obtain ⟨-, -, -, -, -, hnamed⟩ := searchPath_agrees ["search-path", "src", "scr"]
      ["render", "src", "scr", "--output", "out"] [] oneSource_wellFormed (by decide +kernel) (by decide +kernel)
      rfl rfl hjob
    refine hnamed [⟨.relative, ["src"]⟩] ⟨.relative, ["scr"]⟩ [] rfl (by decide +kernel) fun earlier hearlier => ?_
    obtain rfl := List.mem_singleton.1 hearlier
    decide +kernel

end CommandLine

end TemplateTree
