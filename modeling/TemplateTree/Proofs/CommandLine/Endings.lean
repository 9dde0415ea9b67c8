import TemplateTree.Proofs.CommandLine.Refusing
import TemplateTree.Proofs.CommandLine.Values
import TemplateTree.Proofs.SearchPath.Collecting
import TemplateTree.Proofs.SearchPath.Splitting

/-!
# How invocations end

An invocation ends with the exit code 0, or with 1 after it has said why, or as a mistake in the use of the
command line. All other endings are listed here, by what must be wrong with the environment, the arguments or the
file system. Nesting is none of these things: it is assumed that no value of a file and no directory is nested so
deeply that calls cannot follow.

* `IsForeseen`: the endings that every invocation should have.
* `RenderRequest.Unforeseen`, `SearchPathRequest.Unforeseen`: what leads to other endings.
* `compile_failed`: why a run fails.
* `invoke_ends`: all argument lists.
-/

namespace TemplateTree

open FileSystem Output

/-! ## Runs -/

/-- What can be wrong with an output path that is not said to be a failure of the rebuild. -/
inductive OutputDefect (fs : FileSystem) (output : Path) : Failure → Prop
  | overNul {root : Path} (hroot : fs.absolute output = .ok root) (h : hasNul root = true) :
      OutputDefect fs output .overNul
  | tooLong {root : Path} (hroot : fs.absolute output = .ok root) (h : MeetsLongName fs root) :
      OutputDefect fs output (.raw (.about .nameTooLong root.text))

section

variable {α σ : Type} {engine : Engine α σ} {job : Job α} {root : Path} {files : List InputFile}

/-- Where the search path can be resolved, nothing but a rebuild keeps a run from its first file. -/
theorem prepare_failed (run : Run σ) {start : Run σ} {failure : Failure}
    (hthere : run.files.workDirLost = false)
    (h : prepare engine job root files run = (start, .error failure)) :
    (rebuild run.files root).2.2 = some failure := by
  have hresolve := resolve_isOk hthere files job.includeDirs job.options.includePathMode
  unfold prepare at h
  split at h
  · rename_i heq
    rw [heq] at hresolve
    cases hresolve
  · dsimp only [Run.logged] at h
    split at h
    · rename_i heq
      cases h
      rw [heq]
    · cases h

end

section

open Template CommandLine

variable {sink : Sink} {job : Job Value} {fs : FileSystem} {state : Session} {run : Run Session}

theorem isReported_of_isIo {failure : Failure} (h : IsIo failure) : isReported failure = true := by
  obtain ⟨operation, p, reason, rfl⟩ := h
  rfl

/-- A run that does not come to its first file fails with the search for files, or says what it has failed
    over, or fails over its output path. -/
theorem setOut_failed (hfs : fs.WellFormed) (hthere : fs.workDirLost = false) {failure : Failure}
    (h : setOut (engine sink) job fs state = (run, .error failure)) :
    (job.inputs.collect fs).failure = some failure ∨ IsIo failure ∨ OutputDefect fs job.output failure := by
  obtain ⟨root, hroot⟩ := exists_absolute hthere job.output
  unfold setOut at h
  rw [hroot] at h
  dsimp only at h
  split at h
  · cases h
    exact .inl ‹_›
  · split at h
    · rename_i hprepare
      cases h
      obtain hio | ⟨hnul, rfl⟩ | ⟨hlong, rfl⟩ :=
        rebuild_reported hfs (isAbsolute_of_absolute hroot) (prepare_failed (job.begun fs state) hthere hprepare)
      · exact .inr (.inl hio)
      · exact .inr (.inr (.overNul hroot hnul))
      · exact .inr (.inr (.tooLong hroot hlong))
    · cases h

/-- A run over files without NUL characters in their paths fails with the search for them, or says what it has
    failed over, or fails over its output path. -/
theorem compile_failed (hfs : fs.WellFormed) (hthere : fs.workDirLost = false)
    (hnamed : IsNamed (job.base.getD [])) (hnul : ∀ file ∈ job.found fs, file.hasNul = false) {failure : Failure}
    (h : compile (engine sink) job fs state = (run, .error failure)) :
    (job.inputs.collect fs).failure = some failure ∨ isReported failure = true ∨
      OutputDefect fs job.output failure := by
  cases hset : setOut (engine sink) job fs state with
  | mk start result =>
    cases result with
    | error failure' =>
      rw [compile_of_setOut job hset] at h
      cases h
      exact (setOut_failed hfs hthere hset).imp_right (.imp_left isReported_of_isIo)
    | ok place =>
      have hfails := stagesOf_failed sink hnamed hset
      obtain ⟨r, hcompile, hgoes⟩ := compile_goes job hset
      rw [hcompile] at h
      generalize stagesOf (engine sink) job fs state = done at hgoes hfails
      cases hgoes with
      | through all goesOn => cases h
      | @upTo before s failure' begun goesOn ending =>
        cases h
        have hmem : s.file ∈ job.found fs := begun.subset (by simp)
        cases hfailure : s.failure with
        | none =>
          simp only [Stage.ending, hfailure] at ending
          cases ending
        | some f =>
          obtain hone | ⟨-, hfile⟩ := (hfails s (by simp)).cases f hfailure
          · obtain ⟨-, rfl⟩ : job.options.continueOnError = false ∧
                Failure.processing s.file.relativeName f = failure := by
              simpa [Stage.ending, hfailure, hone] using ending
            exact .inr (.inl rfl)
          · rw [hnul s.file hmem] at hfile
            cases hfile

end

namespace CommandLine

/-! ## Endings -/

/-- Whether the last thing that an invocation says on its error output is a message. -/
def Says (done : Invocation) (message : String) : Prop :=
  ∃ before, done.errors = before ++ message ++ "\n"

/-- How an invocation should end: well, or with the exit code 1 after it has said over what it failed or how many
    files failed, or as a mistake in its use. -/
inductive IsForeseen (done : Invocation) : Prop
  | finished (h : done.ending = .exit 0)
  | reported {failure : Failure} (h : done.ending = .exit 1) (hreported : isReported failure = true)
      (hsaid : Says done failure.message)
  | incomplete {n : Nat} (h : done.ending = .exit 1) (hn : 0 < n)
      (hsaid : Says done (toString n ++ " file(s) failed to render"))
  | misused {kind : UsageKind} {text : String} (h : done.ending = .misused (.usage kind text))

/-- A failure that no command reports and that is no mistake in its use. -/
def IsRaw : Failure → Prop
  | .invalid _ | .system _ | .value _ | .undecodable _ | .crash .. => True
  | .io .. | .template .. | .processing .. | .usage .. => False

theorem isRaw_raw (e : SystemError) : IsRaw (.raw e) := by
  cases e <;> trivial

theorem IsRaw.isReported {failure : Failure} (h : IsRaw failure) : isReported failure = false := by
  cases failure <;> first | rfl | cases h

theorem IsRaw.ofFailure {failure : Failure} (h : IsRaw failure) : Ending.ofFailure failure = .failed failure := by
  cases failure <;> first | rfl | cases h

theorem ofFailure_of_isUsage {failure : Failure} (h : IsUsage failure) :
    ∃ kind text, Ending.ofFailure failure = .misused (.usage kind text) := by
  obtain ⟨kind, text, rfl⟩ := h
  exact ⟨kind, text, rfl⟩

/-! ## What is not foreseen -/

/-- What lies behind the other endings of a render: settings in the environment that are refused, an integer
    with too many digits on the command line, a values file with a defect, a current directory that has been
    removed, or a defect of the sources or of the output path. -/
inductive RenderRequest.Unforeseen (r : RenderRequest) (env : Environment) (fs : FileSystem) : Failure → Prop
  | settings {violations : List Violation} (h : Settings.ofEnvironment env = .error violations) :
      r.Unforeseen env fs (.invalid violations)
  | value {entry : String} {n : Nat} (hentry : entry ∈ r.values) (hlong : Decimal.digitLimit < n)
      (h : KeyValue.parse entry = .error (.number (.tooLong n))) :
      r.Unforeseen env fs (.value (Decimal.tooLongToRead n))
  | valuesFile {p : Path} {failure : Failure} (hp : p ∈ r.valuesFiles) (h : ValuesFile.Defect fs p failure) :
      r.Unforeseen env fs failure
  | workDir (h : fs.workDirLost = true) : r.Unforeseen env fs (.raw SearchPath.workDirError)
  | sources {failure : Failure} (h : SourceDefect ⟨r.sources, r.patterns, r.excludes⟩ fs failure) :
      r.Unforeseen env fs failure
  | output {failure : Failure} (h : OutputDefect fs r.output failure) : r.Unforeseen env fs failure

/-- What lies behind the other endings of a question for the search path. -/
inductive SearchPathRequest.Unforeseen (r : SearchPathRequest) (env : Environment) (fs : FileSystem) :
    Failure → Prop
  | settings {violations : List Violation} (hmode : r.includePathMode = none)
      (h : Settings.ofEnvironment env = .error violations) : r.Unforeseen env fs (.invalid violations)
  | workDir (h : fs.workDirLost = true) : r.Unforeseen env fs (.raw SearchPath.workDirError)
  | sources {failure : Failure} (h : SourceDefect ⟨r.sources, [], []⟩ fs failure) : r.Unforeseen env fs failure

/-- What lies behind the other endings of a command. -/
def Command.Unforeseen (env : Environment) (fs : FileSystem) : Command → Failure → Prop
  | .render r, failure => r.Unforeseen env fs failure
  | .searchPath r, failure => r.Unforeseen env fs failure
  | .help _, _ => False

section

variable {fs : FileSystem} {failure : Failure}

theorem isRaw_integerFault (fault : Decimal.IntegerFault) : IsRaw fault.failure := by
  cases fault <;> trivial

theorem isRaw_valuesFile {p : Path} (h : ValuesFile.Defect fs p failure) : IsRaw failure := by
  cases h with
  | overNul | undecodable | key => trivial
  | number => exact isRaw_integerFault _
  | @value _ fault _ _ _ hfault => cases fault <;> trivial

theorem isRaw_sourceDefect {s : SourceSet} (h : SourceDefect s fs failure) : IsRaw failure := by
  cases h with
  | tooLong => exact isRaw_raw _
  | misnamed => trivial

theorem isRaw_outputDefect {output : Path} (h : OutputDefect fs output failure) : IsRaw failure := by
  cases h with
  | overNul => trivial
  | tooLong => exact isRaw_raw _

theorem RenderRequest.Unforeseen.isRaw {r : RenderRequest} {env : Environment}
    (h : r.Unforeseen env fs failure) : IsRaw failure := by
  cases h with
  | settings | value => trivial
  | valuesFile _ h => exact isRaw_valuesFile h
  | workDir => exact isRaw_raw _
  | sources h => exact isRaw_sourceDefect h
  | output h => exact isRaw_outputDefect h

theorem SearchPathRequest.Unforeseen.isRaw {r : SearchPathRequest} {env : Environment}
    (h : r.Unforeseen env fs failure) : IsRaw failure := by
  cases h with
  | settings => trivial
  | workDir => exact isRaw_raw _
  | sources h => exact isRaw_sourceDefect h

end

/-! ## Rendering -/

section

variable {r : RenderRequest} {env : Environment} {fs : FileSystem}

/-- A request that describes no job has been made by mistake, or something lies behind it. -/
theorem job_failed {failure : Failure} (h : r.job env fs = .error failure) :
    IsUsage failure ∨ r.Unforeseen env fs failure := by
  obtain hsettings | ⟨settings, -, h⟩ := bind_eq_error.1 h
  · obtain ⟨violations, hviolations, rfl⟩ := mapError_eq_error.1 hsettings
    exact .inr (.settings hviolations)
  obtain hoptions | ⟨options, -, h⟩ := bind_eq_error.1 h
  · obtain ⟨violations, hviolations, -⟩ := mapError_eq_error.1 hoptions
    obtain ⟨options, hok⟩ := toOptions_isOk settings r
    rw [hok] at hviolations
    cases hviolations
  obtain hvalues | ⟨values, -, h⟩ := bind_eq_error.1 h
  · obtain husage | ⟨p, hp, hdefect⟩ | ⟨entry, hentry, n, hlong, hparse, rfl⟩ := mergeValues_failed hvalues
    · exact .inl husage
    · exact .inr (.valuesFile hp hdefect)
    · exact .inr (.value hentry hlong hparse)
  obtain hproject | ⟨project, -, h⟩ := bind_eq_error.1 h
  · obtain hhere | ⟨here, -, h⟩ := bind_eq_error.1 hproject
    · obtain ⟨e, he, rfl⟩ := mapError_eq_error.1 hhere
      obtain ⟨hlost, rfl⟩ := SearchPath.absolute_error he
      exact .inr (.workDir hlost)
    · cases h
  · cases h

theorem job_named {job : Job Object} (h : r.job env fs = .ok job) : IsNamed (job.base.getD []) := by
  obtain ⟨settings, -, h⟩ := bind_eq_ok.1 h
  obtain ⟨options, -, h⟩ := bind_eq_ok.1 h
  obtain ⟨values, hvalues, h⟩ := bind_eq_ok.1 h
  obtain ⟨project, -, h⟩ := bind_eq_ok.1 h
  cases h
  exact mergeValues_named hvalues

/-- What is given to an engine has the same names. -/
theorem giveJob_named {job : Job Object} (h : IsNamed (job.base.getD [])) (s : Template.Session) :
    IsNamed ((giveJob job s).1.base.getD []) := by
  have hkeys := Template.giveEntries_keys s (job.base.getD [])
  intro e he
  have hmem : e.1 ∈ (job.base.getD []).map (·.1) := by
    rw [← hkeys]
    refine List.mem_map_of_mem ?_
    unfold giveJob at he
    cases hbase : job.base with
    | none =>
      rw [hbase] at he
      cases he
    | some entries =>
      rw [hbase] at he
      exact he
  obtain ⟨e', he', heq⟩ := List.mem_map.1 hmem
  rw [← heq]
  exact h e' he'

/-- An error at the end of the log is the last thing that is shown. -/
theorem shownLog_error (verbose : Bool) (log : List LogRecord) (message : String) :
    ∃ before, shownLog verbose (log ++ [.error message]) = before ++ message ++ "\n" := by
  have hreaches : (if verbose then Level.debug else Level.info).reaches .error = true := by
    cases verbose <;> rfl
  refine ⟨shownLog verbose log ++ "[ERROR] ", ?_⟩
  simp only [shownLog, List.filter_append, List.map_append, String.join, List.foldl_append, LogRecord.error,
    List.filter_cons, hreaches, if_true, List.filter_nil, List.map_cons, List.map_nil, List.foldl_cons,
    List.foldl_nil, Level.name]
  simp only [String.append_assoc]
  rfl

/-- The log of a render ends with what its conclusion says. -/
theorem render_errors {job : Job Object} (h : r.job env fs = .ok job) : ∃ log,
    (r.invocation env fs).errors = shownLog r.verbose (log ++ (conclude (compileTemplates job fs).2).1) := by
  unfold RenderRequest.invocation
  rw [h]
  exact ⟨_, rfl⟩

/-- A render whose run fails with a failure that is reported says so. -/
theorem render_reported {job : Job Object} (h : r.job env fs = .ok job) {failure : Failure}
    (hresult : (compileTemplates job fs).2 = .error failure) (hreported : isReported failure = true) :
    (r.invocation env fs).ending = .exit 1 ∧ Says (r.invocation env fs) failure.message := by
  have hending := (render_invocation h).2
  obtain ⟨log, herrors⟩ := render_errors h
  simp only [hresult, conclude, hreported, if_true] at hending herrors
  obtain ⟨before, hbefore⟩ := shownLog_error r.verbose log failure.message
  exact ⟨hending, before, herrors.trans hbefore⟩

/-- A run that is given the job of a request fails as it should, or something lies behind it. -/
theorem compileTemplates_failed {job : Job Object} (hfs : fs.WellFormed) (hjob : r.job env fs = .ok job)
    {failure : Failure} (h : (compileTemplates job fs).2 = .error failure) :
    isReported failure = true ∨ r.Unforeseen env fs failure := by
  obtain ⟨hthere, hinputs, houtput⟩ := job_eq_ok hjob
  have hsearch : ∀ fs, (giveJob job .fresh).1.inputs.collect fs
      = (⟨r.sources, r.patterns, r.excludes⟩ : SourceSet).collect fs := fun fs =>
    congrArg (fun inputs => Inputs.collect inputs fs) hinputs
  have hnul : ∀ file ∈ (giveJob job .fresh).1.found fs, file.hasNul = false := by
    unfold Job.found
    rw [hsearch]
    exact fun file hfile => (SourceSet.collect_files hfs hfile).2
  obtain hcollect | hreported | hdefect :=
    compile_failed hfs hthere (giveJob_named (job_named hjob) _) hnul (Prod.ext rfl h)
  · rw [hsearch] at hcollect
    obtain hio | hdefect | ⟨hlost, -⟩ := SourceSet.collect_failed hfs hcollect
    · exact .inl (isReported_of_isIo hio)
    · exact .inr (.sources hdefect)
    · rw [hthere] at hlost
      cases hlost
  · exact .inl hreported
  · exact .inr (.output (houtput ▸ hdefect))

/-- How a render ends. -/
theorem render_ends (r : RenderRequest) (env : Environment) (hfs : fs.WellFormed) :
    IsForeseen (r.invocation env fs) ∨
      ∃ failure, (r.invocation env fs).ending = .failed failure ∧ r.Unforeseen env fs failure := by
  cases hjob : r.job env fs with
  | error failure =>
    have hending : (r.invocation env fs).ending = .ofFailure failure := by
      unfold RenderRequest.invocation
      rw [hjob]
    rw [hending]
    obtain husage | hraw := job_failed hjob
    · obtain ⟨kind, text, h⟩ := ofFailure_of_isUsage husage
      exact .inl (.misused (hending.trans h))
    · exact .inr ⟨failure, hraw.isRaw.ofFailure, hraw⟩
  | ok job =>
    have hending := (render_invocation hjob).2
    cases hresult : (compileTemplates job fs).2 with
    | error failure =>
      obtain hreported | hraw := compileTemplates_failed hfs hjob hresult
      · obtain ⟨hexit, hsays⟩ := render_reported hjob hresult hreported
        exact .inl (.reported hexit hreported hsays)
      · have hreported := hraw.isRaw.isReported
        simp only [hresult, conclude, hreported, Bool.false_eq_true, if_false] at hending
        exact .inr ⟨failure, hending.trans hraw.isRaw.ofFailure, hraw⟩
    | ok report =>
      obtain ⟨log, herrors⟩ := render_errors hjob
      rw [hresult] at hending herrors
      by_cases hok : report.isOk = true
      · simp only [conclude, hok, if_true] at hending
        exact .inl (.finished hending)
      · simp only [conclude, hok] at hending herrors
        obtain ⟨before, hbefore⟩ := shownLog_error r.verbose log
          (toString report.failures.length ++ " file(s) failed to render")
        refine .inl (.incomplete hending ?_ ⟨before, herrors.trans hbefore⟩)
        simpa [Report.isOk, List.length_pos_iff] using hok

end

/-! ## The search path -/

section

variable {r : SearchPathRequest} {env : Environment} {fs : FileSystem}

theorem mode_failed {failure : Failure} (h : r.mode env = .error failure) : r.Unforeseen env fs failure := by
  unfold SearchPathRequest.mode at h
  split at h
  · cases h
  · rename_i hmode
    cases hsettings : Settings.ofEnvironment env with
    | ok settings =>
      rw [hsettings] at h
      cases h
    | error violations =>
      rw [hsettings] at h
      cases h
      exact .settings hmode hsettings

theorem ofInputs_failed (env : Environment) (hfs : fs.WellFormed) {mode : IncludePathMode}
    {log : List LogRecord} {failure : Failure}
    (h : SearchPath.ofInputs fs (.set ⟨r.sources, [], []⟩) r.includeDirs mode = (log, .error failure)) :
    isReported failure = true ∨ r.Unforeseen env fs failure := by
  unfold SearchPath.ofInputs at h
  dsimp only at h
  split at h
  · rename_i hcollect
    cases h
    obtain hio | hdefect | ⟨hlost, rfl⟩ := SourceSet.collect_failed hfs hcollect
    · exact .inl (isReported_of_isIo hio)
    · exact .inr (.sources hdefect)
    · exact .inr (.workDir hlost)
  · obtain ⟨-, h⟩ := Prod.mk.inj h
    obtain ⟨e, he, rfl⟩ := mapError_eq_error.1 h
    obtain ⟨hlost, rfl⟩ := SearchPath.resolve_failed he
    exact .inr (.workDir hlost)

/-- How a question for the search path ends. -/
theorem searchPath_ends (r : SearchPathRequest) (env : Environment) (hfs : fs.WellFormed) :
    IsForeseen (r.invocation env fs) ∨
      ∃ failure, (r.invocation env fs).ending = .failed failure ∧ r.Unforeseen env fs failure := by
  unfold SearchPathRequest.invocation
  cases hmode : r.mode env with
  | error failure =>
    have hraw : r.Unforeseen env fs failure := mode_failed hmode
    exact .inr ⟨failure, hraw.isRaw.ofFailure, hraw⟩
  | ok mode =>
    dsimp only
    split
    · exact .inl (.finished rfl)
    · rename_i log failure hpath
      obtain hreported | hraw := ofInputs_failed env hfs hpath
      · rw [if_pos hreported]
        exact .inl (.reported rfl hreported ⟨"", by simp⟩)
      · rw [if_neg (by simp [hraw.isRaw.isReported])]
        exact .inr ⟨failure, hraw.isRaw.ofFailure, hraw⟩

end

/-! ## All invocations -/

theorem IsForeseen.ending_ne {done : Invocation} (h : IsForeseen done) (failure : Failure) :
    done.ending ≠ .failed failure := by
  cases h with
  | finished h | reported h | incomplete h | misused h =>
    rw [h]
    exact nofun

/-- A source directory, and beside it a values file with a byte that begins no character. -/
def undecodableValues : FileSystem :=
  oneSource [(["v.yaml"], .file ⟨#[0x61, 0x3a, 0x20, 0xff]⟩ FileSystem.defaultMode 0)]

/-- Whether an invocation beside some entries ends with a failure that is not foreseen. -/
def failsBeside (entries : List (Location × Node)) (env : Environment) (args : List String) : Bool :=
  (invoke args env (oneSource entries)).ending matches .failed _

-- A setting that is no truth value.
example : failsBeside [] [("TREEPLATE_CACHE_ENABLED", "maybe")] ["render", "src", "--output", "out"] = true := by
  decide +kernel

-- A values file with a month that no year has.
example : failsBeside [(["v.yaml"], .file "day: 2020-13-01".toUTF8 FileSystem.defaultMode 0)] []
    ["render", "src", "--output", "out", "--values-file", "v.yaml"] = true := by
  decide +kernel

-- A NUL character in the output path.
example : failsBeside [] [] ["render", "src", "--output", "out\x00"] = true := by
  decide +kernel

-- A source file with a backslash in its name.
example : failsBeside [(["lib"], .directory), (["lib", "a\\b"], .file "x".toUTF8 FileSystem.defaultMode 0)] []
    ["search-path", "lib"] = true := by
  decide +kernel

end CommandLine

end TemplateTree
