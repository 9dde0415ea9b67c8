import TemplateTree.Engine
import TemplateTree.SearchPath
import TemplateTree.Template.Library

/-!
# The template engine

Evaluates templates for a run, as an `Environment` of Jinja2 with a `FileSystemLoader` does. Values that
a user gives are put into the machine once, so that what a template changes in them is seen by the
templates after it, and a graph is put into it as one, so that what several values refer to is one
object; loaded templates are kept until the engine is configured again.

* `Session`: the state of an engine.
* `render`: evaluates one template.
* `engine`: the engine as runs need it.
-/

namespace TemplateTree.Template

/-- The state of an engine. -/
structure Session where
  machine : Machine
  library : Library
  isConfigured : Bool

namespace Session

/-- An engine that has not been used. -/
def fresh : Session where
  machine := .empty true
  library := .empty
  isConfigured := false

end Session

/-! ## Values that a user gives -/

/-- A value without parts. -/
def ofScalar : Scalar → Value
  | .none => .none
  | .bool b => .bool b
  | .int n => .int n
  | .float x => .float x
  | .text s => .text s
  | .bytes b => .bytes b
  | .date d => .date d
  | .dateTime t => .dateTime t

/-- A list or map of a graph whose cells begin at `base`. -/
def vertexValue (g : Graph) (base : CellId) (i : Nat) : Value :=
  match g[i]? with
  | some (.list _) => .list (base + i)
  | some (.map _) => .dict (base + i)
  | none => .none

mutual

/-- A part of a graph whose cells begin at `base`. -/
def partValue (g : Graph) (base : CellId) : Graph.Part → Value
  | .scalar s => ofScalar s
  | .tuple items => .tuple (partValues g base items)
  | .set members => .set (members.map ofScalar)
  | .vertex i => vertexValue g base i

/-- Parts of a graph whose cells begin at `base`. -/
def partValues (g : Graph) (base : CellId) : List Graph.Part → List Value
  | [] => []
  | p :: rest => partValue g base p :: partValues g base rest

end

/-- The cell of a list or map of a graph whose cells begin at `base`. -/
def collectionCell (g : Graph) (base : CellId) : Graph.Collection → Cell
  | .list items => .list (partValues g base items).toArray
  | .map entries => .dict (entries.map fun (k, p) => (ofScalar k, partValue g base p))

/-- Puts a graph into the machine, unless it is there, and says where its cells begin. -/
def placeGraph (g : Graph) : Eval CellId :=
  modifyGet fun m =>
    match m.graphs.lookup g with
    | some base => (base, m)
    | none =>
      (m.cells.size, { m with
        cells := m.cells ++ (g.map (collectionCell g m.cells.size)).toArray
        graphs := (g, m.cells.size) :: m.graphs })

section

variable {ν : Type} [Vertices ν]

mutual

/-- Puts a value into the machine. -/
def ofTree : Tree ν → Eval Value
  | .scalar s => return ofScalar s
  | .list items => do newList (← ofTrees items)
  | .tuple items => return .tuple (← ofTrees items)
  | .map entries => do newDict (← ofBranches entries)
  | .set members => return .set (members.map ofScalar)
  | .project p => return .project p
  | .vertex v => do
    let ⟨g, i⟩ := Vertices.vertex v
    return vertexValue g (← placeGraph g) i

/-- Puts values into the machine. -/
def ofTrees : List (Tree ν) → Eval (List Value)
  | [] => return []
  | d :: rest => do
    let v ← ofTree d
    return v :: (← ofTrees rest)

/-- Puts the values of a map into the machine. -/
def ofBranches : List (Scalar × Tree ν) → Eval (List (Value × Value))
  | [] => return []
  | (k, d) :: rest => do
    let v ← ofTree d
    return (ofScalar k, v) :: (← ofBranches rest)

end

/-- Puts the values that templates are evaluated with into an engine. -/
def Session.give (s : Session) (d : Tree ν) : Value × Session :=
  match (ofTree d s.machine).play s.library with
  | (.ok v, machine, _) => (v, { s with machine })
  | (.error _, machine, _) => (.none, { s with machine })

/-- Puts the values of a map into an engine. -/
def Session.giveEntries (s : Session) (entries : Entries (Tree ν)) : Entries Value × Session :=
  entries.foldl (fun (given, s) (key, d) =>
    let (v, s) := s.give d
    (given ++ [(key, v)], s)) ([], s)

end

/-! ## One template -/

/-- Where output goes: a text or a file. -/
inductive Sink
  | text
  | file
  deriving DecidableEq, Repr

/-- How a sink refuses output that is no text. -/
def Sink.refusal (s : Sink) (v : Value) : String :=
  match s with
  | .text => "string argument expected, got '" ++ v.typeName ++ "'"
  | .file => "write() argument must be str, not " ++ v.typeName

/-- The line of a fault in the template under a name (`_template_lineno`): its own, or that of the innermost
    place in the template. -/
def faultLine (name : String) (frames : List Frame) : Fault → Option Nat
  | .inText _ _ line => some line
  | .raised kind _ =>
    if Fault.ownKind kind then none else (frames.find? fun f => f.file == name).map (·.line)
  | .system .. => none

/-- A fault in the template under a name as a failure. -/
def failureOf (name : String) (frames : List Frame) (f : Fault) : Failure :=
  match f with
  | .system errno words path target => .system (.failed errno words path target)
  | .inText kind message _ | .raised kind message =>
    .template name (kind.label ++ ": " ++ message) ((faultLine name frames f).map Int.ofNat)

/-- Fault for a value under a key that is no text. -/
def badKey : Fault := .type "keywords must be strings"

/-- What a template sees: what every template can use, and the given values. -/
def givenValues (entries : Entries Value) : Eval (List (String × Value)) :=
  entries.foldlM (fun acc (k, v) => do
    match k with
    | .text s => return setNamed s v acc
    | _ => throw badKey) globalValues

/-- Evaluates a program with some values. -/
def renderProgram (name : String) (program : Program) (entries : Entries Value) : Eval Unit := do
  let id ← addTemplate ⟨name, name, program⟩
  let context ← newContext id (← givenValues entries)
  runTemplate (evaluator depthLimit) id context

/-- What has been printed into the outermost buffer. -/
def Machine.output (m : Machine) : List Value :=
  (m.buffers.getLast?.getD []).reverse

/-- The end of an evaluation: what has been printed, and why it failed. Output that is no text fails as
    soon as it is printed. -/
def finish (sink : Sink) (name : String) (m : Machine) (fault : Option Fault) (s : Session) :
    Output.Written Session :=
  let s := { s with machine := { m with frames := [], buffers := [] } }
  match firstNoText 0 m.output with
  | some (_, v) => ⟨s, "", some (failureOf name [] (.type (sink.refusal v)))⟩
  | none =>
    ⟨s, String.join (m.output.filterMap Value.text?), fault.map (failureOf name m.frames)⟩

/-- A machine at the beginning of an evaluation. -/
def Machine.begun (m : Machine) : Machine :=
  { m with own := m.cells.size, frames := [], buffers := [[]] }

/-- Evaluates a template for a sink (`evaluate`). -/
def render (sink : Sink) (files : FileSystem) (request : Request Value) (s : Session) :
    Output.Written Session :=
  if !s.isConfigured then
    ⟨s, "", some (.crash "RuntimeError" "Template engine used before configure()")⟩
  else
    match request.source with
    | .error fault => ⟨s, "", some (.undecodable fault)⟩
    | .ok source =>
      let m := s.machine.begun
      match programOf s.library.config source with
      | .error f => finish sink request.name m (some f) s
      | .ok program =>
        match (renderProgram request.name program request.context m).play { s.library with files } with
        | (.ok _, m, library) => finish sink request.name m none { s with library }
        | (.error f, m, library) => finish sink request.name m (some f) { s with library }

/-! ## The engine -/

/-- The name of the values for what is undefined. -/
def undefinedWord (config : EngineConfig) : String :=
  if config.strictUndefined then "StrictUndefined" else "Undefined"

/-- What is logged when an engine is configured (`_set_property`). -/
def configureLog (config : EngineConfig) : List LogRecord :=
  [("loader", "file"), ("loader.path", config.searchPath),
    ("loader.cache", if config.cacheEnabled then "True" else "False"),
    ("undefined", undefinedWord config)].map fun (name, value) =>
      .info ("Template engine property: " ++ name ++ " = " ++ value)

/-- Configures an engine; the shelf of its library is emptied (`configure`). -/
def configure (config : EngineConfig) (s : Session) : Session × List LogRecord :=
  (⟨{ s.machine with strict := config.strictUndefined },
    { s.library with config, searchPath := SearchPath.split config.searchPath, shelf := [] }, true⟩,
    configureLog config)

/-- The template engine for a sink (`JinjaTemplateEngine`). -/
def engine (sink : Sink) : Engine Value Session where
  ofText := .text
  configure := configure
  evaluate := render sink

end TemplateTree.Template
