import TemplateTree.CommandLine.Command
import TemplateTree.CommandLine.Help
import TemplateTree.Compile
import TemplateTree.Settings
import TemplateTree.Template.Engine
import TemplateTree.ValuesFile

/-!
# Invocations

What a command does: it reads the settings from the environment, works on the file system, and ends
with an exit code, with a mistake in its use, or with a failure that it does not expect. A render shows
its log; the other command only prints its result.

* `RenderRequest.invocation`, `SearchPathRequest.invocation`: the commands.
* `invoke`: from an argument list to the end.
-/

namespace TemplateTree.CommandLine

/-- How an invocation ends. -/
inductive Ending
  | exit (code : Nat)
  | misused (failure : Failure)
  | failed (failure : Failure)
  deriving DecidableEq, Repr

/-- The exit code of a process that ends so. -/
def Ending.code : Ending → Nat
  | .exit code => code
  | .misused _ => 2
  | .failed _ => 1

/-- What an invocation leaves: the file system, its end, the two texts that it printed, and its log. -/
structure Invocation where
  files : FileSystem
  ending : Ending
  output : String
  errors : String
  log : List LogRecord

/-- The end that a failure causes which is not reported. -/
def Ending.ofFailure : Failure → Ending
  | .usage kind text => .misused (.usage kind text)
  | failure => .failed failure

/-- The failures that commands report: those that say what was being done to which file. -/
def isReported : Failure → Bool
  | .io .. | .template .. | .processing .. => true
  | _ => false

/-! ## Rendering -/

/-- The log as it is shown (`_configure_logging`): one line for every message that is heavy enough. -/
def shownLog (verbose : Bool) (log : List LogRecord) : String :=
  let least : Level := if verbose then .debug else .info
  String.join ((log.filter fun r => least.reaches r.level).map fun r =>
    "[" ++ r.level.name ++ "] " ++ r.message ++ "\n")

/-- What a request says of the options of the run. -/
def RenderRequest.overrides (r : RenderRequest) : Fields :=
  (r.sourceExtension.map fun e =>
      ("source_extension", .text ((KeyValue.sourceExtension? e).getD ""))).toList
    ++ (r.includePathMode.map fun mode => ("include_path_mode", .text mode.word)).toList
    ++ (if r.continueOnError then [("continue_on_error", .bool true)] else [])
    ++ (if r.noCache then [("cache_enabled", .bool false)] else [])

/-- The project of a run. It has the name of the current directory unless the request names it. -/
def RenderRequest.project (r : RenderRequest) (fs : FileSystem) : Except Failure Project := do
  let here ← (fs.absolute ⟨.relative, []⟩).mapError .raw
  return ⟨if r.projectName == "" then here.name else r.projectName, here, r.projectVersion⟩

/-- The job that a request describes: the settings of the environment under the options of the request,
    the values, and the project. -/
def RenderRequest.job (r : RenderRequest) (env : Environment) (fs : FileSystem) :
    Except Failure (Job Object) := do
  let settings ← (Settings.ofEnvironment env).mapError .invalid
  let options ← (Settings.toOptions settings r.overrides).mapError .invalid
  let values ← mergeValues fs r.valuesFiles r.values
  let project ← r.project fs
  return {
    inputs := .set ⟨r.sources, r.patterns, r.excludes⟩
    includeDirs := r.includeDirs
    base := some values
    output := r.output
    project := .project project
    options }

section

variable {ν : Type} [Vertices ν]

/-- A job with its values put into a template engine. -/
def giveJob (job : Job (Tree ν)) (s : Template.Session) : Job Template.Value × Template.Session :=
  let (base, s) := s.giveEntries (job.base.getD [])
  let (project, s) := s.give job.project
  (⟨job.inputs, job.includeDirs, job.base.map fun _ => base, job.output, project, job.options⟩, s)

/-- Does a job with the template engine. -/
def compileTemplates (job : Job (Tree ν)) (fs : FileSystem) :
    Run Template.Session × Except Failure Report :=
  let (job, s) := giveJob job .fresh
  compile (Template.engine .file) job fs s

end

/-- The last message of a render, and its end. -/
def conclude : Except Failure Report → List LogRecord × Ending
  | .error failure =>
    if isReported failure then ([.error failure.message], .exit 1) else ([], .ofFailure failure)
  | .ok report =>
    if report.isOk then
      ([.debug ("Completed: " ++ toString report.rendered.length ++ " file(s) rendered")], .exit 0)
    else ([.error (toString report.failures.length ++ " file(s) failed to render")], .exit 1)

/-- Renders source directories into an output directory (`render`). -/
def RenderRequest.invocation (r : RenderRequest) (env : Environment) (fs : FileSystem) : Invocation :=
  let started := [LogRecord.debug "Starting treeplate"]
  match r.job env fs with
  | .error failure => ⟨fs, .ofFailure failure, "", shownLog r.verbose started, started⟩
  | .ok job =>
    let (run, outcome) := compileTemplates job fs
    let (last, ending) := conclude outcome
    let log := started ++ [.debug ("Options: " ++ job.options.text)] ++ run.log ++ last
    ⟨run.files, ending, "", shownLog r.verbose log, log⟩

/-! ## The search path -/

/-- The mode that a request asks for, or else the environment. -/
def SearchPathRequest.mode (r : SearchPathRequest) (env : Environment) :
    Except Failure IncludePathMode :=
  match r.includePathMode with
  | some mode => .ok mode
  | none => ((Settings.ofEnvironment env).mapError .invalid).map (·.includePathMode)

/-- Prints the search path that a render would use (`search_path`). -/
def SearchPathRequest.invocation (r : SearchPathRequest) (env : Environment) (fs : FileSystem) : Invocation :=
  match r.mode env with
  | .error failure => ⟨fs, .ofFailure failure, "", "", []⟩
  | .ok mode =>
    match SearchPath.ofInputs fs (.set ⟨r.sources, [], []⟩) r.includeDirs mode with
    | (log, .ok path) => ⟨fs, .exit 0, path ++ "\n", "", log⟩
    | (log, .error failure) =>
      if isReported failure then ⟨fs, .exit 1, "", failure.message ++ "\n", log⟩
      else ⟨fs, .ofFailure failure, "", "", log⟩

/-! ## All commands -/

/-- Does what a command asks for. -/
def Command.perform (command : Command) (env : Environment) (fs : FileSystem) : Invocation :=
  match command with
  | .render r => r.invocation env fs
  | .searchPath r => r.invocation env fs
  | .help topic => ⟨fs, .exit 0, topic.text, "", []⟩

/-- Does what an argument list asks for. -/
def invoke (args : List String) (env : Environment) (fs : FileSystem) : Invocation :=
  match Command.ofArguments args with
  | .error mistake => ⟨fs, .misused mistake.failure, "", "", []⟩
  | .ok command => command.perform env fs

end TemplateTree.CommandLine
