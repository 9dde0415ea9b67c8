import TemplateTree.Decimal.Read
import TemplateTree.Decimal.Shortest
import TemplateTree.Text.Escape
import TemplateTree.Text.Quoted
import TemplateTree.Template.Sequence

/-!
# Values as text

How values are printed. A text prints as itself; inside a list, map or tuple it is quoted. A list or map
that holds itself prints as dots. Escaped text keeps its marks, other text is escaped where the context
asks for it.

* `shown`: the text of a value inside another.
* `printed`: the text of a value on its own.
* `escaped`: the text of a value with the marks of markup replaced.
-/

namespace TemplateTree.Template

/-- An integer in decimal digits, if it has not too many. -/
def integerText (n : Int) : Eval String :=
  if Decimal.isTooLong n then throw (.value Decimal.tooLongToWrite) else return toString n

/-- An offset as it is shown. -/
def shownOffset (offset : Int) : String :=
  if offset == 0 then "datetime.timezone.utc"
  else
    let days := offset.fdiv 86400
    let seconds := offset.fmod 86400
    let parts := (if days == 0 then [] else ["days=" ++ toString days])
      ++ (if seconds == 0 then [] else ["seconds=" ++ toString seconds])
    "datetime.timezone(datetime.timedelta(" ++ ", ".intercalate parts ++ "))"

/-- A date and time as it is shown. -/
def shownDateTime (t : DateTime) : String :=
  let time := if t.second == 0 && t.micro == 0 then []
    else if t.micro == 0 then [t.second] else [t.second, t.micro]
  let parts := [t.date.year, t.date.month, t.date.day, t.hour, t.minute] ++ time
  let offset := match t.offset with
    | some o => [("tzinfo=" ++ shownOffset o)]
    | none => []
  "datetime.datetime(" ++ ", ".intercalate (parts.map toString ++ offset) ++ ")"

/-- A date as it is shown. -/
def shownDate (d : Date) : String :=
  "datetime.date(" ++ ", ".intercalate ([d.year, d.month, d.day].map toString) ++ ")"

/-- A path as it is shown. -/
def shownPath (p : Path) : String :=
  "PosixPath(" ++ Text.quoted p.text ++ ")"

/-- The parts of a project as they are shown. -/
def projectFields (p : Project) (separator : String) : String :=
  separator.intercalate ["name=" ++ Text.quoted p.name, "root_dir=" ++ shownPath p.rootDir,
    "version=" ++ Text.quoted p.version]

/-- A function that every template knows, as it is shown. -/
def shownBuiltin : Builtin → String
  | .range => "<class 'range'>"
  | .dict => "<class 'dict'>"
  | .namespaceOf => "<class 'jinja2.utils.Namespace'>"
  | .cycler => "<class 'jinja2.utils.Cycler'>"
  | .joiner => "<class 'jinja2.utils.Joiner'>"

/-- Pairs in braces. -/
def inBraces (parts : List String) : String :=
  "\x7b" ++ ", ".intercalate parts ++ "\x7d"

/-- An object as it is shown. -/
def shownObject (ev : Evaluator) (inner : Value → Eval String) (kind : ObjectKind) (id : CellId) :
    Eval String := do
  match ← cell id with
  | .fields entries =>
    let parts ← entries.mapM fun (k, v) => return Text.quoted k ++ ": " ++ (← inner v)
    return "<Namespace " ++ inBraces parts ++ ">"
  | .procedure p =>
    return "<Macro " ++ (p.signature.name.map Text.quoted).getD "anonymous" ++ ">"
  | .moduleOf m => return "<TemplateModule " ++ Text.quoted m.name ++ ">"
  | .loop l =>
    return "<LoopContext " ++ toString (l.index + 1) ++ "/" ++ toString (← loopLength ev id) ++ ">"
  | .blocks context =>
    return "<TemplateReference " ++ Text.quoted (← contextAt context).template ++ ">"
  | _ => return "<" ++ (Value.object kind id).typeName ++ " object>"

/-- The text of a value inside another. `above` are the cells that it is in. -/
def shownWithin (ev : Evaluator) : Nat → List CellId → Value → Eval String
  | 0, _, _ =>
    throw (.raised .recursion
      "maximum recursion depth exceeded while getting the repr of an object")
  | fuel + 1, above, v => do
    match v with
    | .none => return "None"
    | .bool b => return if b then "True" else "False"
    | .int n => integerText n
    | .float x => return Decimal.floatText x
    | .text s => return Text.quoted s
    | .markup s => return "Markup(" ++ Text.quoted s ++ ")"
    | .bytes b => return Text.quotedBytes b
    | .date d => return shownDate d
    | .dateTime t => return shownDateTime t
    | .undefined .. => return "Undefined"
    | .tuple [v] => return "(" ++ (← shownWithin ev fuel above v) ++ ",)"
    | .tuple items => return "(" ++ ", ".intercalate (← items.mapM (shownWithin ev fuel above)) ++ ")"
    | .group key members =>
      return "(" ++ (← shownWithin ev fuel above key) ++ ", "
        ++ (← shownWithin ev fuel above members) ++ ")"
    | .set [] => return "set()"
    | .set members => return inBraces (← members.mapM (shownWithin ev fuel above))
    | .range start stop step =>
      let bounds := if step == 1 then [start, stop] else [start, stop, step]
      return "range(" ++ ", ".intercalate (← bounds.mapM integerText) ++ ")"
    | .slice start stop step =>
      return "slice(" ++ ", ".intercalate (← [start, stop, step].mapM (shownWithin ev fuel above))
        ++ ")"
    | .project p => return "ProjectInfo(" ++ projectFields p ", " ++ ")"
    | .path p => return shownPath p
    | .list id =>
      if ← isAmong id above then return "[...]"
      let items ← (← listItems id).toList.mapM (shownWithin ev fuel (id :: above))
      return "[" ++ ", ".intercalate items ++ "]"
    | .dict id =>
      if ← isAmong id above then return inBraces ["..."]
      let pairs ← (← dictEntries id).mapM fun (k, v) => do
        let key ← shownWithin ev fuel (id :: above) k
        return key ++ ": " ++ (← shownWithin ev fuel (id :: above) v)
      return inBraces pairs
    | .view part id =>
      let items ← (viewItems (← dictEntries id) part).mapM (shownWithin ev fuel above)
      return v.typeName ++ "([" ++ ", ".intercalate items ++ "])"
    | .object kind id =>
      if ← isAmong id above then return "..."
      shownObject ev (shownWithin ev fuel (id :: above)) kind id
    | .builtin f => return shownBuiltin f
    | .method receiver name =>
      return "<built-in method " ++ name ++ " of " ++ receiver.typeName ++ " object>"

/-- How deep values that are shown may be nested. -/
def shownLimit : Nat := 900

/-- The text of a value inside another. -/
def shown (ev : Evaluator) (v : Value) : Eval String :=
  shownWithin ev shownLimit [] v

/-- The text of a value on its own. -/
def printed (ev : Evaluator) (v : Value) : Eval String := do
  match v with
  | .text s | .markup s => return s
  | .undefined message isStrict => if isStrict then throw (.undefined message) else return ""
  | .date d => return Calendar.dateText d
  | .dateTime t => return Calendar.dateTimeText " " t
  | .project p => return projectFields p " "
  | .path p => return p.text
  | .object .moduleOf id =>
    match ← cell id with
    | .moduleOf m => concat m.output
    | _ => return ""
  | v => shown ev v

/-- Whether a value says itself how it looks as markup. -/
def isMarkup : Value → Bool
  | .markup _ | .object .moduleOf _ => true
  | _ => false

/-- The text of a value with the marks of markup replaced, unless it is markup. -/
def escaped (ev : Evaluator) (v : Value) : Eval String := do
  if isMarkup v then printed ev v else return Text.escapeHtml (← printed ev v)

/-- A text as it is, everything else as it is printed. -/
def asText (ev : Evaluator) (v : Value) : Eval Value := do
  match v with
  | .text _ | .markup _ => return v
  | v => return .text (← printed ev v)

/-- The text of a value that is a template's output, escaped or not. -/
def outputText (ev : Evaluator) (escapes : Bool) (v : Value) : Eval String :=
  if escapes then escaped ev v else printed ev v

end TemplateTree.Template
