import TemplateTree.Options
import TemplateTree.Template.Evaluator
import TemplateTree.Template.Moving
import TemplateTree.Template.Parser
import TemplateTree.Template.Program

/-!
# The library of templates

Answers what evaluations ask. Templates that others refer to are looked for in the directories of the
search path, one after the other. A name is a path with slashes that must not lead upwards. Templates
that have been read are kept on a shelf by name, unless this is switched off, and read again when their
file has changed or is gone.

What a template exports is evaluated in a machine of its own, whose cells are then put behind those that
there are. For a template that is kept this is done once. When its module is used again, the cells are
put there once more, as long as none of them has been changed since: the labels of cells tell which of
them are one object, and a change is made to all of these. A module that has been changed is not put
there again but used where it is; and as a machine of its own has no such place, what uses or changes a
module in this way is evaluated among the cells that there are.

* `programOf`: the program of a text.
* `Library.read`: a template from its file.
* `Library.make`: what a template exports.
* `Library.answer`: the answer to a question.
* `Script.play`: a computation with all its questions answered.
-/

namespace TemplateTree.Template

/-! ## Programs -/

/-- The result of a computation that asks nothing. -/
def Script.alone {α : Type} : Script α → Except Fault α
  | .ok a _ => .ok a
  | .error f _ => .error f
  | .ask .. => .error (.raised .stopped "a question without an answer")

/-- An empty machine. -/
def Machine.empty (strict : Bool) : Machine :=
  ⟨#[], 0, [], strict, [], []⟩

/-- The program of a template text. It depends on the text and the options only. -/
def programOf (config : EngineConfig) (source : String) : Except Fault Program := do
  let body ← Parser.parse (Lexer.Config.ofEngine config) source
  (Program.ofTemplate (evaluator depthLimit) body (.empty config.strictUndefined)).alone

/-! ## Files -/

/-- A path without dots that can be resolved by its text alone. -/
def tidied (p : Path) : Path :=
  ⟨p.root, p.parts.foldl (fun acc part =>
    if part != ".." then acc ++ [part]
    else
      match acc.getLast? with
      | some ".." => acc ++ [part]
      | some _ => acc.dropLast
      | none => if p.isAbsolute then [] else [part]) []⟩

/-- The names in a template's name, unless one of them leads upwards. -/
def nameParts? (name : String) : Option (List String) :=
  let parts := Path.names name.toList
  if parts.contains ".." then none else some parts

/-- The stamp of the regular file that a path leads to. -/
def stamp? (files : FileSystem) (p : Path) : Option Nat :=
  match files.look true p with
  | .ok (.file _ _ stamp) => some stamp
  | _ => none

/-- The first file with the given names below a directory of the search path. -/
def findFile? (files : FileSystem) (parts : List String) : List String → Option (Path × Nat)
  | [] => none
  | dir :: rest =>
    let p := (Path.parse dir).descend parts
    match stamp? files p with
    | some stamp => some (p, stamp)
    | none => findFile? files parts rest

/-- The directories of the search path in a message. -/
def searchedIn (searchPath : List String) : String :=
  (if searchPath.length == 1 then "path: " else "paths: ")
    ++ ", ".intercalate (searchPath.map Text.quoted)

/-! ## What is kept -/

/-- A module that is kept: its number among the cells that were made with it, the labels of these cells, what
    they held if they were made in a machine of their own, and how many changes there had been by then. -/
structure KeptModule where
  cell : CellId
  labels : List Nat
  cells : Option (Array Cell)
  changes : Nat

/-- A template on the shelf: its label, the file it came from, the stamp that the file had, and its module, once
    it has been asked for. -/
structure Kept where
  label : Nat
  origin : Path
  stamp : Nat
  loaded : Loaded
  module : Option KeptModule

/-- What answers the questions of evaluations. `shelf` holds the templates that are kept, by name. `labels` are
    those of the cells of the machine that asks, `next` is the next label, and `changed` those of cells that
    have been changed, the latest first. Labels below `outside` stand for what other machines have, too, and
    `reachesOut` says whether one of these has been changed, or would have had to be used after a change. -/
structure Library where
  files : FileSystem
  config : EngineConfig
  searchPath : List String
  shelf : List (String × Kept)
  labels : List (CellId × Nat)
  next : Nat
  changed : List Nat
  outside : Nat
  reachesOut : Bool

/-- Whether a template on the shelf is still what its file holds. -/
def Kept.isCurrent (files : FileSystem) (k : Kept) : Bool :=
  stamp? files k.origin == some k.stamp

namespace Library

/-- A library without files and templates. -/
def empty : Library where
  files := FileSystem.empty []
  config := {}
  searchPath := []
  shelf := []
  labels := []
  next := 0
  changed := []
  outside := 0
  reachesOut := false

/-! ## Labels -/

/-- The label of a cell. -/
def label? (lib : Library) (id : CellId) : Option Nat :=
  lib.labels.lookup id

/-- Whether two numbers stand for one object. -/
def isSame (lib : Library) (a b : CellId) : Bool :=
  a == b || (lib.label? a).any fun label => lib.label? b == some label

/-- Notes that a cell is changed, and gives the other numbers that it has. -/
def change (lib : Library) (id : CellId) : List CellId × Library :=
  match lib.label? id with
  | none => ([], lib)
  | some label =>
    ((lib.labels.filter fun e => e.2 == label && e.1 != id).map (·.1),
      { lib with
        changed := label :: lib.changed
        reachesOut := lib.reachesOut || label < lib.outside })

/-- Gives labels to cells, the first of which has the number `first`. -/
def attach (lib : Library) (first : CellId) (labels : List Nat) : Library :=
  { lib with labels := (labels.zipIdx first).map Prod.swap ++ lib.labels }

/-- The labels of cells: those that they have, and new ones, and the label that is next after them. -/
def labelsOf (lib : Library) : List CellId → List Nat × Nat
  | [] => ([], lib.next)
  | id :: rest =>
    let (labels, next) := lib.labelsOf rest
    match lib.label? id with
    | some label => (label :: labels, next)
    | none => (next :: labels, next + 1)

/-! ## Templates -/

/-- The template in a file. -/
def readAt (lib : Library) (name : String) (p : Path) : Except Fault Loaded := do
  let bytes ← (lib.files.read p).mapError Fault.ofSystem
  match Text.decodeFile bytes with
  | .error f => .error (.raised .undecodable f.message)
  | .ok source =>
    let program ← programOf lib.config source
    .ok ⟨name, (tidied p).text, program⟩

/-- Reads a template, which gets a label, from the file that has its name. -/
def read (lib : Library) (label : Nat) (name shownName : String) : Except Fault Kept :=
  match nameParts? name with
  | none => .error (.raised .notFound name)
  | some parts =>
    match findFile? lib.files parts lib.searchPath with
    | none =>
      .error (.raised .notFound (shownName ++ " not found in search " ++ searchedIn lib.searchPath))
    | some (p, stamp) => (lib.readAt name p).map (⟨label, p, stamp, ·, none⟩)

/-- The template that is kept under a name, if its file has not changed. -/
def onShelf? (lib : Library) (name : String) : Option Kept :=
  (named? lib.shelf name).filter (·.isCurrent lib.files)

/-- The template under a name. -/
def template (lib : Library) (id : TemplateId) (name shownName : String) :
    Except Fault Loaded × Library :=
  if !lib.config.cacheEnabled then ((lib.read lib.next name shownName).map (·.loaded), lib)
  else
    match lib.onShelf? name with
    | some kept => (.ok kept.loaded, lib.attach id [kept.label])
    | none =>
      match lib.read lib.next name shownName with
      | .error f => (.error f, lib)
      | .ok kept =>
        (.ok kept.loaded,
          { lib.attach id [kept.label] with
            shelf := setNamed name kept lib.shelf
            next := lib.next + 1 })

/-! ## Modules -/

/-- The module that is kept for the template under a name. -/
def module? (lib : Library) (name : String) : Option KeptModule :=
  (lib.onShelf? name).bind (·.module)

/-- Whether the cells of a module are still as they were made. -/
def isUnchanged (lib : Library) (kept : KeptModule) : Bool :=
  (lib.changed.take (lib.changed.length - kept.changes)).all fun label => !kept.labels.contains label

/-- The number that a module has among the cells that there are. -/
def place? (lib : Library) (kept : KeptModule) : Option CellId :=
  kept.labels[kept.cell]?.bind fun label => (lib.labels.find? fun e => e.2 == label).map (·.1)

/-- Uses a module again. -/
def again (lib : Library) (kept : KeptModule) (cells : Array Cell) : Made × Library :=
  match lib.isUnchanged kept, kept.cells with
  | true, some made => (Made.behind cells ⟨.ok kept.cell, made⟩, lib.attach cells.size kept.labels)
  | _, _ =>
    match lib.place? kept with
    | some id => (⟨.ok id, cells⟩, lib)
    | none => (⟨.error (.raised .stopped "a module that is nowhere", []), cells⟩, { lib with reachesOut := true })

/-- A library for a machine of its own, in which a template is the first cell. -/
def begun (lib : Library) (id : TemplateId) : Library :=
  { lib with
    labels := (lib.label? id).toList.map (0, ·)
    outside := lib.next
    reachesOut := false }

/-- Keeps a module of a template, whose cells are behind others. -/
def keep (lib : Library) (name : String) (kept : Option Kept) (made : Made) (first : CellId) (labels : List Nat)
    (cells : Option (Array Cell)) : Library :=
  match kept, made.result with
  | some kept, .ok cell =>
    { lib.attach first labels with
      shelf := setNamed name { kept with module := some ⟨cell - first, labels, cells, lib.changed.length⟩ } lib.shelf }
  | _, _ => lib.attach first labels

/-- After an evaluation in a machine of its own. What it has made is behind the cells now. -/
def ended (before after : Library) (name : String) (cells : Array Cell) (made : Made) : Library :=
  let lib := { after with
    labels := before.labels
    outside := before.outside
    reachesOut := before.reachesOut }
  if !lib.config.cacheEnabled then lib
  else
    let (labels, next) := after.labelsOf (List.range made.cells.size)
    { lib with next }.keep name (before.onShelf? name) (made.behind cells) cells.size labels (some made.cells)

/-- After an evaluation among the cells that there are. -/
def endedHere (before after : Library) (name : String) (first : CellId) (made : Made) : Library :=
  let (labels, next) := after.labelsOf ((List.range (made.cells.size - first)).map (first + ·))
  { after with next }.keep name (before.onShelf? name) made first labels none

/-- The answer to a question, if there is a way to evaluate modules. -/
def answerWith (make : Library → TemplateId → String → Array Cell → Made × Library) (lib : Library) :
    (q : Question) → q.Answer × Library
  | .content p => (lib.files.content? p, lib)
  | .template id name shownName => lib.template id name shownName
  | .isKeyed => (lib.config.cacheEnabled, lib)
  | .isSame a b => (lib.isSame a b, lib)
  | .changes id => lib.change id
  | .module id name cells =>
    match lib.module? name with
    | some kept => lib.again kept cells
    | none => make lib id name cells

end Library

/-- Carries a computation through, in a world that answers its questions. -/
def Script.playWith {α ω : Type} (answer : ω → (q : Question) → q.Answer × ω) :
    Script α → ω → Except Fault α × Machine × ω
  | .ok a m, world => (.ok a, m, world)
  | .error f m, world => (.error f, m, world)
  | .ask q next, world =>
    let (answered, world) := answer world q
    (next answered).playWith answer world

/-- What the evaluation for a module has come to. -/
def Made.of (result : Except Fault CellId) (m : Machine) : Made :=
  ⟨result.mapError (·, m.frames), m.cells⟩

/-- The evaluation of a template for what it exports, in a machine of its own. -/
def moduleAlone (strict : Bool) (l : Loaded) : Script CellId :=
  (do makeModule (evaluator depthLimit) (← addTemplate l) globalValues : Eval CellId) (.empty strict)

/-- The evaluation of a template for what it exports, among cells that there are. -/
def moduleHere (strict : Bool) (id : TemplateId) (cells : Array Cell) : Script CellId :=
  makeModule (evaluator depthLimit) id globalValues { Machine.empty strict with cells, own := cells.size }

namespace Library

/-- What a template exports, with modules inside each other up to some depth. The template is looked up once more, by
    its name. -/
def make : Nat → Library → TemplateId → String → Array Cell → Made × Library
  | 0, lib, _, _, cells =>
    (⟨.error (.raised .recursion "maximum recursion depth exceeded", []), cells⟩, lib)
  | depth + 1, lib, id, name, cells =>
    match lib.template id name name with
    | (.error f, lib) => (⟨.error (f, []), cells⟩, lib)
    | (.ok l, lib) =>
      let answer := answerWith (make depth)
      let (result, m, after) := (moduleAlone lib.config.strictUndefined l).playWith answer (lib.begun id)
      if after.reachesOut then
        let (result, m, after) := (moduleHere lib.config.strictUndefined id cells).playWith answer lib
        (.of result m, lib.endedHere after name cells.size (.of result m))
      else ((Made.of result m).behind cells, lib.ended after name cells (.of result m))

/-- The answer to a question. -/
def answer (lib : Library) (q : Question) : q.Answer × Library :=
  lib.answerWith (make depthLimit) q

end Library

/-- Carries a computation through, with a library that answers its questions. -/
def Script.play {α : Type} (x : Script α) (lib : Library) : Except Fault α × Machine × Library :=
  x.playWith Library.answer lib

end TemplateTree.Template
