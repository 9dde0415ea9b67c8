import TemplateTree.Template.Comparison
import TemplateTree.Template.Printed

/-!
# Attributes and items

What `value.name` and `value[key]` mean. An attribute that a value does not have is looked for among
its items, and an item among its attributes; what is nowhere is an undefined value that says so.

* `attribute?`: an attribute in the strict sense.
* `subscript`: an item in the strict sense.
* `getAttribute`, `getItem`: with the other way as a fallback.
-/

namespace TemplateTree.Template

/-! ## Methods -/

/-- The methods of texts. -/
def textMethods : List String :=
  ["upper", "lower", "title", "capitalize", "swapcase", "casefold", "replace", "split", "rsplit",
    "splitlines", "partition", "rpartition", "join", "strip", "lstrip", "rstrip", "startswith",
    "endswith", "find", "rfind", "index", "rindex", "count", "zfill", "center", "ljust", "rjust",
    "isdigit", "isdecimal", "isnumeric", "isalpha", "isalnum", "isspace", "isupper", "islower",
    "istitle", "isidentifier", "isascii", "format", "removeprefix", "removesuffix", "expandtabs"]

/-- The methods of lists. -/
def listMethods : List String :=
  ["index", "count", "append", "extend", "insert", "pop", "remove", "clear", "copy", "reverse"]

/-- The methods of maps. -/
def dictMethods : List String :=
  ["items", "keys", "values", "get", "update", "pop", "setdefault", "copy", "clear"]

/-- The methods of paths. -/
def pathMethods : List String :=
  ["read_text", "exists", "is_file", "is_dir", "joinpath", "as_posix", "is_absolute", "with_name",
    "with_suffix"]

/-- The methods of a value, apart from those of loops and other objects. -/
def methodsOf : Value → List String
  | .text _ => textMethods
  | .markup _ => "striptags" :: "unescape" :: textMethods
  | .list _ => listMethods
  | .dict _ => dictMethods
  | .tuple _ | .group .. | .range .. => ["index", "count"]
  | .path _ => pathMethods
  | .int _ | .bool _ => ["bit_length"]
  | .float _ => ["is_integer"]
  | .bytes _ => ["decode", "hex"]
  | .date _ | .dateTime _ => ["isoformat"]
  | .object .loop _ => ["cycle", "changed"]
  | .object .cycler _ => ["next", "reset"]
  | _ => []

/-! ## Attributes -/

/-- The names above a path, from the nearest to the last. -/
def pathParts (p : Path) : List Value :=
  (if p.isAbsolute then [.text (Path.rootText p.root)] else []) ++ p.parts.map .text

/-- An attribute of a path. -/
def pathAttribute? (p : Path) (name : String) : Option Value :=
  match name with
  | "name" => some (.text p.name)
  | "stem" => some (.text p.stem)
  | "suffix" => some (.text p.suffix)
  | "parent" => some (.path p.parent)
  | "parts" => some (.tuple (pathParts p))
  | "root" => some (.text (Path.rootText p.root))
  | "anchor" => some (.text (Path.rootText p.root))
  | _ => none

/-- What a loop looks at next, without going on. -/
def peekNext (ev : Evaluator) (id : CellId) : Eval (Option Value) := do
  let l ← loopAt id
  match l.after with
  | some v => return some v
  | none =>
    let next ← ev.pull l.source
    let l ← loopAt id
    setCell id (.loop { l with after := next })
    return next

/-- An attribute of a loop. -/
def loopAttribute? (ev : Evaluator) (id : CellId) (name : String) : Eval (Option Value) := do
  let l ← loopAt id
  match name with
  | "index" => return some (.int (l.index + 1))
  | "index0" => return some (.int l.index)
  | "length" => return some (.int (← loopLength ev id))
  | "revindex" => return some (.int ((← loopLength ev id) - l.index))
  | "revindex0" => return some (.int ((← loopLength ev id) - l.index - 1))
  | "first" => return some (.bool (l.index == 0))
  | "last" => return some (.bool (← peekNext ev id).isNone)
  | "depth" => return some (.int (l.depth + 1))
  | "depth0" => return some (.int l.depth)
  | "previtem" =>
    match l.before with
    | some v => if l.index != 0 then return some v
    | none => pure ()
    return some (← undefinedValue "there is no previous item")
  | "nextitem" =>
    match ← peekNext ev id with
    | some v => return some v
    | none => return some (← undefinedValue "there is no next item")
  | _ => return none

/-- An attribute of an object. -/
def objectAttribute? (id : CellId) (name : String) : Eval (Option Value) := do
  match ← cell id with
  | .fields entries => return named? entries name
  | .cycler items position =>
    match name with
    | "current" => return items[position]?
    | "items" => return some (.tuple items)
    | "pos" => return some (.int position)
    | _ => return none
  | .joiner separator used =>
    match name with
    | "sep" => return some separator
    | "used" => return some (.bool used)
    | _ => return none
  | .procedure p =>
    let s := p.signature
    match name with
    | "name" => return some ((s.name.map Value.text).getD .none)
    | "arguments" => return some (.tuple (s.params.map fun r => .text r.name))
    | "catch_kwargs" => return some (.bool s.kwargs.isSome)
    | "catch_varargs" => return some (.bool s.varargs.isSome)
    | "caller" => return some (.bool s.usesCaller)
    | _ => return none
  | .moduleOf m => return named? m.exports name
  | .block block context versions =>
    match name, versions with
    | "name", _ => return some (.text block)
    | "super", _ :: next :: rest =>
      return some (.object .block (← alloc (.block block context (next :: rest))))
    | "super", _ =>
      return some (← undefinedValue
        ("there is no parent block called " ++ Text.quoted block ++ "."))
    | _, _ => return none
  | _ => return none

/-- An attribute of a value that has no cell. -/
def plainAttribute? (v : Value) (name : String) : Option Value :=
  match v with
  | .group key members =>
    if name == "grouper" then some key else if name == "list" then some members else none
  | .project p => named? (projectParts p) name
  | .path p => pathAttribute? p name
  | .range start stop step | .slice (.int start) (.int stop) (.int step) =>
    match name with
    | "start" => some (.int start)
    | "stop" => some (.int stop)
    | "step" => some (.int step)
    | _ => none
  | .date d | .dateTime ⟨d, _, _, _, _, _⟩ =>
    match name, v with
    | "year", _ => some (.int d.year)
    | "month", _ => some (.int d.month)
    | "day", _ => some (.int d.day)
    | "hour", .dateTime t => some (.int t.hour)
    | "minute", .dateTime t => some (.int t.minute)
    | "second", .dateTime t => some (.int t.second)
    | "microsecond", .dateTime t => some (.int t.micro)
    | _, _ => none
  | .int n => if name == "real" || name == "numerator" then some (.int n) else none
  | _ => none

/-- An attribute of a value. -/
def attribute? (ev : Evaluator) (v : Value) (name : String) : Eval (Option Value) := do
  match v with
  | .undefined message _ =>
    if name.startsWith "__" then return none else throw (.undefined message)
  | v =>
    if (methodsOf v).contains name then return some (.method v name)
    match v with
    | .object .loop id => loopAttribute? ev id name
    | .object _ id => objectAttribute? id name
    | v => return plainAttribute? v name

/-! ## Items -/

/-- The fault of a key that is not there. -/
def noKey (ev : Evaluator) (key : Value) : Eval Value := do
  throw (.raised .keyError (← shown ev key))

/-- The place that an index means in a sequence. -/
def place? (length : Nat) (i : Int) : Option Nat :=
  let i := if i < 0 then i + length else i
  if 0 ≤ i && i < length then some i.toNat else none

/-- A bound of a slice, moved into a sequence. -/
def clampBound (length : Int) (step i : Int) : Int :=
  let i := if i < 0 then i + length else i
  if i < 0 then (if step < 0 then -1 else 0)
  else if length ≤ i then (if step < 0 then length - 1 else length)
  else i

/-- A bound of a slice as a number, if it is given. -/
def bound? : Value → Eval (Option Int)
  | .none => return none
  | .undefined .. =>
    throw (.type "slice indices must be integers or None or have an __index__ method")
  | v =>
    match v.integer? with
    | some n => return some n
    | none => throw (.type "slice indices must be integers or None or have an __index__ method")

/-- Start, stop and step of a slice of a sequence. -/
def sliceBounds (length : Nat) (start stop step : Value) : Eval (Int × Int × Int) := do
  let n : Int := length
  let step := (← bound? step).getD 1
  if step == 0 then throw (.value "slice step cannot be zero")
  let low : Int := if step < 0 then n - 1 else 0
  let high : Int := if step < 0 then -1 else n
  let start := ((← bound? start).map (clampBound n step)).getD low
  let stop := ((← bound? stop).map (clampBound n step)).getD high
  return (start, stop, step)

/-- The items of a slice. -/
def sliced {α : Type} (items : Array α) (start stop step : Value) : Eval (List α) := do
  let (start, stop, step) ← sliceBounds items.size start stop step
  return (List.range (rangeLength start stop step)).filterMap fun i : Nat =>
    items[(start + i * step).toNat]?

/-- Whether values of a kind have items by number. -/
def sequenceWord? : Value → Option String
  | .text _ | .markup _ => some "string"
  | .list _ => some "list"
  | .tuple _ | .group .. => some "tuple"
  | .bytes _ => some "bytes"
  | .range .. => some "range object"
  | _ => none

/-- The fault of an index of the wrong type. -/
def badIndex (v key : Value) : Fault :=
  match v with
  | .text _ | .markup _ =>
    .type ("string indices must be integers, not '" ++ key.typeName ++ "'")
  | .bytes _ => .type ("byte indices must be integers or slices, not " ++ key.typeName)
  | .range .. => .type ("range indices must be integers or slices, not " ++ key.typeName)
  | v =>
    .type ((sequenceWord? v).getD "" ++ " indices must be integers or slices, not " ++ key.typeName)

/-- The characters of a text, as a text. -/
def textOf (cs : List Char) : Value :=
  .text (String.ofList cs)

/-- An item of a sequence by its number. -/
def itemAt (v : Value) (i : Int) : Eval Value := do
  let outside : Eval Value :=
    throw (.raised .indexError (((sequenceWord? v).getD "") ++ " index out of range"))
  let pick := fun (items : Array Value) =>
    match (place? items.size i).bind (items[·]?) with
    | some x => return x
    | none => outside
  match v with
  | .text s => pick (characters s).toArray
  | .markup s =>
    match ← pick (characters s).toArray with
    | .text c => return .markup c
    | x => return x
  | .range start stop step =>
    match place? (rangeLength start stop step) i with
    | some k => return .int (start + k * step)
    | none => outside
  | .list id => pick (← listItems id)
  | v => pick ((← items? v).getD []).toArray

/-- A part of a sequence. -/
def slicePart (v start stop step : Value) : Eval Value := do
  match v with
  | .text s => return textOf (← sliced s.toList.toArray start stop step)
  | .markup s => return .markup (String.ofList (← sliced s.toList.toArray start stop step))
  | .bytes b => return .bytes (← sliced b.toArray start stop step)
  | .list id => newList (← sliced (← listItems id) start stop step)
  | .range a b c =>
    let (low, high, by_) ← sliceBounds (rangeLength a b c) start stop step
    return .range (a + low * c) (a + high * c) (c * by_)
  | v => return .tuple (← sliced (v.tuple?.getD []).toArray start stop step)

/-- An item of a value. -/
def subscript (ev : Evaluator) (v key : Value) : Eval Value := do
  match v with
  | .undefined message _ => throw (.undefined message)
  | .dict id =>
    match ← lookup (← dictEntries id) key with
    | some x => return x
    | none => noKey ev key
  | .object .blocks id =>
    match ← cell id, key.text? with
    | .blocks context, some name =>
      match named? (← contextAt context).blocks name with
      | some versions => return .object .block (← alloc (.block name context versions))
      | none => noKey ev key
    | _, _ => noKey ev key
  | v =>
    if (sequenceWord? v).isNone then
      throw (.type ("'" ++ v.typeName ++ "' object is not subscriptable"))
    match key, key.integer? with
    | .slice start stop step, _ => slicePart v start stop step
    | _, some i => itemAt v i
    | _, none => throw (badIndex v key)

/-! ## With a fallback -/

/-- The type of a value in messages about what it lacks. -/
def objectWord (v : Value) : String :=
  match v with
  | .none => "None"
  | .markup _ => "markupsafe.Markup object"
  | .date _ => "datetime.date object"
  | .dateTime _ => "datetime.datetime object"
  | .group .. => "jinja2.filters._GroupTuple object"
  | .project _ => "treeplate.core.models.ProjectInfo object"
  | .path _ => "pathlib.PosixPath object"
  | .object .iterator _ => "generator object"
  | .object .namespaceOf _ | .object .cycler _ | .object .joiner _ =>
    "jinja2.utils." ++ v.typeName ++ " object"
  | .object .moduleOf _ => "jinja2.environment.TemplateModule object"
  | .object .. => "jinja2.runtime." ++ v.typeName ++ " object"
  | v => v.typeName ++ " object"

/-- What is there instead of an attribute or item that a value lacks. -/
def lacking (ev : Evaluator) (v key : Value) : Eval Value := do
  match key.text? with
  | some name =>
    undefinedValue (Text.quoted (objectWord v) ++ " has no attribute " ++ Text.quoted name)
  | none => undefinedValue (objectWord v ++ " has no element " ++ (← shown ev key))

/-- Whether a fault only says that something is not there. -/
def Fault.saysLacking (f : Fault) : Bool :=
  f.isOf [.typeError, .keyError, .indexError, .attributeError, .lookup]

/-- An attribute of a value, or else an item. -/
def getAttribute (ev : Evaluator) (v : Value) (name : String) : Eval Value := do
  match ← attribute? ev v name with
  | some x => return x
  | none =>
    match ← attempt (subscript ev v (.text name)) with
    | .ok x => return x
    | .error f => if f.saysLacking then lacking ev v (.text name) else throw f

/-- An item of a value, or else an attribute. -/
def getItem (ev : Evaluator) (v key : Value) : Eval Value := do
  match ← attempt (subscript ev v key) with
  | .ok x => return x
  | .error f =>
    if !f.saysLacking then throw f
    match key.text? with
    | some name =>
      match ← attribute? ev v name with
      | some x => return x
      | none => lacking ev v key
    | none => lacking ev v key

/-- An item of a value along a path of keys. Where there is none, `default` stands if it is given. -/
def getPart (ev : Evaluator) (parts : List Value) (default : Value) (v : Value) : Eval Value :=
  parts.foldlM (fun v key => do
    let x ← getItem ev v key
    return if x.isUndefined && !default.isNone then default else x) v

end TemplateTree.Template
