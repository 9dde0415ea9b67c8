import TemplateTree.Failure
import TemplateTree.FileSystem.Resolve
import TemplateTree.Json
import TemplateTree.KeyValue
import TemplateTree.Yaml.Value

/-!
# Values of a run

The values that all templates of a run see come from files, read one after the other, and from entries
of the form `KEY=VALUE` on top of them. A file holds a map, as JSON if its name ends in `.json` and as
YAML otherwise. An entry without a value removes its key.

* `ValuesFile.read`: the values of one file.
* `mergeValues`: the values of a run.

The values can be had spelled out, or with the lists and maps of files as vertices.
-/

namespace TemplateTree

/-! ## Failures -/

/-- Why an integer cannot be read. -/
def Decimal.IntegerFault.failure : Decimal.IntegerFault → Failure
  | .malformed => .value "invalid literal"
  | .tooLong n => .value (Decimal.tooLongToRead n)

/-- Why an entry cannot be read. -/
def KeyValue.Fault.failure : KeyValue.Fault → Failure
  | .noEquals s => .badParameter ("Must be KEY=VALUE, got: " ++ Text.quoted s)
  | .emptyKey s => .badParameter ("Empty key in: " ++ Text.quoted s)
  | .number f => f.failure

namespace ValuesFile

/-- A file that does not follow the rules of its format. -/
def invalid (p : Path) (reason : String) : Failure :=
  .badParameter ("Invalid values file " ++ p.text ++ ": " ++ reason)

/-- What stands for the reason why a text is not YAML. -/
def unreadable : String := "<yaml>"

/-- Why a YAML file cannot be read. -/
def yamlFailure (p : Path) : Yaml.Fault → Failure
  | .malformed => invalid p unreadable
  | .badValue s => .value s
  | .badIndex s => .crash "IndexError" s
  | .badKey s => .crash "KeyError" s
  | .noMatch s => .crash "AttributeError" s
  | .badType s => .crash "TypeError" s
  | .endless => .crash "RecursionError" "maximum recursion depth exceeded"

/-- Why a JSON file cannot be read. -/
def jsonFailure (p : Path) (text : String) : Json.Fault → Failure
  | .mistake m => invalid p (m.message text)
  | .number f => f.failure

/-! ## One file -/

/-- Whether a file holds JSON. -/
def isJson (p : Path) : Bool :=
  Text.lower p.suffix.toList == ".json".toList

section

variable {ν : Type} [Vertices ν]

/-- The value in a file. -/
def parse (p : Path) (text : String) : Except Failure (Tree ν) :=
  if isJson p then ((Json.read text).map Tree.ofDatum).mapError (jsonFailure p text)
  else (Yaml.read text).mapError (yamlFailure p)

/-- A key as a text. -/
def keyText : Scalar → Except Failure String
  | .none => .ok "None"
  | .bool b => .ok (if b then "True" else "False")
  | .int n => if Decimal.isTooLong n then .error (.value Decimal.tooLongToWrite) else .ok (toString n)
  | .float x => .ok (Decimal.floatText x)
  | .text s => .ok s
  | .bytes b => .ok (Text.quotedBytes b)
  | .date d => .ok (Calendar.dateText d)
  | .dateTime t => .ok (Calendar.dateTimeText " " t)

/-- The values in a file, by their names. Nothing stands for no values. -/
def ofTree (p : Path) : Tree ν → Except Failure (Entries (Tree ν))
  | .scalar .none => .ok []
  | .map entries => do
    let named ← entries.mapM fun (k, v) => return (Scalar.text (← keyText k), v)
    return Entries.ofPairs named
  | _ => .error (.badParameter ("Values file " ++ p.text ++ " must contain a mapping"))

/-- A file that cannot be read. -/
def absent (p : Path) : SystemError → Failure
  | .nulByte => .value SystemError.nulByte.message
  | e => .badParameter ("Cannot read values file " ++ p.text ++ ": " ++ e.message)

/-- The values of a file (`parse_values_file`). -/
def read (fs : FileSystem) (p : Path) : Except Failure (Entries (Tree ν)) := do
  let bytes ← (fs.read p).mapError (absent p)
  let text ← (Text.decodeFile bytes).mapError .undecodable
  ofTree p (← parse p text)

end

end ValuesFile

/-! ## All values -/

section

variable {ν : Type} [Vertices ν]

/-- Applies an entry: it binds its key, or removes it if it has no value. -/
def applyEntry (entries : Entries (Tree ν)) : String × Option Datum → Entries (Tree ν)
  | (key, some d) => entries.insert (.text key) (.ofDatum d)
  | (key, none) => entries.erase (.text key)

/-- Adds the values of a file; it replaces values with the same name. -/
def addFile (fs : FileSystem) (entries : Entries (Tree ν)) (p : Path) : Except Failure (Entries (Tree ν)) := do
  return entries.insertAll (← ValuesFile.read fs p)

/-- Adds an entry in the form `KEY=VALUE`. -/
def addEntry (entries : Entries (Tree ν)) (text : String) : Except Failure (Entries (Tree ν)) := do
  return applyEntry entries (← (KeyValue.parse text).mapError (·.failure))

/-- The values of a run (`merge_context_values`): those of the files in order, then the entries in order. -/
def mergeValues (fs : FileSystem) (files : List Path) (values : List String) :
    Except Failure (Entries (Tree ν)) := do
  let entries ← files.foldlM (addFile fs) []
  values.foldlM addEntry entries

end

end TemplateTree
