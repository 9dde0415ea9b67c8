import TemplateTree.Context
import TemplateTree.Engine
import TemplateTree.SearchPath
import TemplateTree.Sources

/-!
# Compiling a tree of templates

A run collects its input files, resolves the search path, rebuilds the output directory, configures the
engine, and renders the files in order, each into the file with the same relative path below the output
directory. The first file that fails ends the run, unless it is to go on; then the failure is noted in
the report.

A definition that stands for a function or class of the program gives the name that it has there in
brackets. What it leaves out, here and in the whole library, is how deeply calls can be nested: values in
files, and directories, are read, walked and removed however deep they are, where the program gives up with
a `RecursionError` at a depth of about a thousand.

* `Run`: what a run changes, step by step.
* `renderUnit`: one file.
* `prepare`, `renderAll`: the two halves of a run.
* `compile`: the whole run.
-/

namespace TemplateTree

/-- A file that failed, and why (`RenderFailure`). -/
structure RenderFailure where
  name : String
  message : String
  deriving DecidableEq, Repr

namespace RenderFailure

/-- Builds a note of a failure from named fields. -/
def ofFields (fields : Fields) : Checked RenderFailure := do
  let (name, message) ← Checked.both (fields.required "relative_path" Read.text)
    (fields.required "message" Read.text)
  pure ⟨name, message⟩

end RenderFailure

/-- What a finished run has done (`CompileReport`). -/
structure Report where
  outputRoot : Path
  searchPath : String
  rendered : List Path
  failures : List RenderFailure
  deriving DecidableEq, Repr

/-- Whether every file was rendered (`CompileReport.ok`). -/
def Report.isOk (r : Report) : Bool :=
  r.failures.isEmpty

/-- What is asked of a run. -/
structure Job (α : Type) where
  inputs : Inputs
  includeDirs : List Path
  base : Option (Entries α)
  output : Path
  project : α
  options : CompileOptions

/-- What a run changes: the file system, the engine, and what it reports on the way. -/
structure Run (σ : Type) where
  files : FileSystem
  engine : σ
  log : List LogRecord
  warnings : List String

namespace Run

variable {σ : Type}

/-- Adds records to the log. -/
def logged (run : Run σ) (records : List LogRecord) : Run σ :=
  { run with log := run.log ++ records }

/-- Adds warnings. -/
def warned (run : Run σ) (warnings : List String) : Run σ :=
  { run with warnings := run.warnings ++ warnings }

end Run

/-- Whether a failure concerns one file only, so that a run may go on after it. -/
def Failure.concernsOneFile : Failure → Bool
  | .system _ | .io .. | .template .. => true
  | _ => false

/-- A key of a context, as a step to a violation. -/
def keyPlace : Scalar → Place
  | .int n => if Read.fitsWord n then .index n else .field (toString n)
  | .bool b => .index (if b then 1 else 0)
  | .none => .field "None"
  | .float x => .field (Decimal.floatText x)
  | .text s => .field s
  | .bytes b => .field (Text.quotedBytes b)
  | .date d => .field (Calendar.dateText d)
  | .dateTime t => .field (Calendar.dateTimeText " " t)

/-- The violations of a context: keys that are no texts. -/
def contextViolations {α : Type} (context : Entries α) : List Violation :=
  context.filterMap fun (key, _) =>
    match key with
    | .text _ => none
    | key => some ⟨[.field "context", keyPlace key, .field "[key]"], .notText⟩

section

variable {α σ : Type} (engine : Engine α σ)

/-- A failure to decode is reported with the path of the source. -/
def namingSource (source : Path) : Failure → Failure
  | .undecodable fault => .io "decode" source fault.message
  | failure => failure

/-- Renders the source file `source` into `target` (`render_unit`). -/
def renderUnit (context : Entries α) (source : Path) (name : String) (target : Path)
    (fs : FileSystem) (state : σ) : FileSystem × σ × Option Failure :=
  match fs.read source with
  | .error e => (fs, state, some (.raw e))
  | .ok bytes =>
    let request : Request α := ⟨context, Text.decodeFile bytes, name⟩
    let (fs, state, failure) := Output.writeAtomically fs target FileSystem.defaultMode state
      fun fs state => engine.evaluate fs request state
    (fs, state, failure.map (namingSource source))

/-- Plans and renders one input file below `root` (`plan_render_unit`). -/
def renderFile (job : Job α) (root : Path) (file : InputFile) (run : Run σ) :
    Run σ × Option Failure :=
  let context := buildContext engine.ofText job.base file job.project job.options.sourceExtension
  let run := (run.logged (contextLog job.base file)).warned (contextWarnings job.base)
  match contextViolations context with
  | v :: vs => (run, some (.invalid (v :: vs)))
  | [] =>
    let target := root.descend file.segments
    let run := run.logged [.debug ("Preprocessing " ++ file.path.text ++ " -> " ++ target.text)]
    let (fs, state, failure) :=
      renderUnit engine context file.path file.relativeName target run.files run.engine
    ({ run with files := fs, engine := state }, failure)

/-- Renders the input files in order. -/
def renderAll (job : Job α) (root : Path) :
    List InputFile → Report → Run σ → Run σ × Except Failure Report
  | [], report, run => (run, .ok report)
  | file :: rest, report, run =>
    match renderFile engine job root file run with
    | (run, none) =>
      let done := report.rendered ++ [root.descend file.segments]
      renderAll job root rest { report with rendered := done } run
    | (run, some failure) =>
      if !failure.concernsOneFile then (run, .error failure)
      else
        let processing := Failure.processing file.relativeName failure
        if job.options.continueOnError then
          let run := run.logged [.error processing.message]
          let noted := report.failures ++ [⟨file.relativeName, failure.message⟩]
          renderAll job root rest { report with failures := noted } run
        else (run, .error processing)

/-- Makes a run ready to render: resolves the search path, rebuilds the output directory, and configures
    the engine. The search path is returned. -/
def prepare (job : Job α) (root : Path) (files : List InputFile) (run : Run σ) :
    Run σ × Except Failure String :=
  match SearchPath.resolve run.files files job.includeDirs job.options.includePathMode with
  | (records, .error e) => (run.logged records, .error (.raw e))
  | (records, .ok searchPath) =>
    let run := run.logged records
    match Output.rebuild run.files root with
    | (fs, records, some failure) => ({ run.logged records with files := fs }, .error failure)
    | (fs, records, none) =>
      let run := { run.logged records with files := fs }
      let config : EngineConfig :=
        { searchPath
          cacheEnabled := job.options.cacheEnabled
          strictUndefined := job.options.strictUndefined }
      let (state, records) := engine.configure config run.engine
      let run := { run.logged records with engine := state }
      let run := run.logged
        [.info ("Rendering " ++ toString files.length ++ " template(s) into " ++ root.text)]
      (run, .ok searchPath)

/-- The part of a run after its files are known. -/
def compileFiles (job : Job α) (root : Path) (files : List InputFile) (run : Run σ) :
    Run σ × Except Failure Report :=
  match prepare engine job root files run with
  | (run, .error failure) => (run, .error failure)
  | (run, .ok searchPath) =>
    match renderAll engine job root files ⟨root, searchPath, [], []⟩ run with
    | (run, .error failure) => (run, .error failure)
    | (run, .ok report) =>
      (run.logged [.info ("Rendered " ++ toString report.rendered.length ++ " file(s), "
        ++ toString report.failures.length ++ " failure(s)")], .ok report)

/-- Compiles the input files of a job into its output directory (`compile_tree`). -/
def compile (job : Job α) (fs : FileSystem) (state : σ) : Run σ × Except Failure Report :=
  let run : Run σ := ⟨fs, state, [], []⟩
  match fs.absolute job.output with
  | .error e => (run, .error (.raw e))
  | .ok root =>
    let collected := job.inputs.collect fs
    let run := run.logged collected.log
    match collected.failure with
    | some failure => (run, .error failure)
    | none => compileFiles engine job root collected.files run

end

end TemplateTree
