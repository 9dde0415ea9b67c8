import TemplateTree.Template.Comparison
import TemplateTree.Template.Printed

/-!
# JSON from values

Values written as JSON in ASCII, with the keys of maps in order. What JSON has no form for is refused.
-/

namespace TemplateTree.Template.JsonText

/-- A character in a JSON string. -/
def escapedChar (c : Char) : List Char :=
  let n := c.toNat
  if c == '"' then ['\\', '"']
  else if c == '\\' then ['\\', '\\']
  else if c == '\n' then ['\\', 'n']
  else if c == '\r' then ['\\', 'r']
  else if c == '\t' then ['\\', 't']
  else if n == 8 then ['\\', 'b']
  else if n == 12 then ['\\', 'f']
  else if 0x20 ≤ n && n < 0x7F then [c]
  else if n < 0x10000 then '\\' :: 'u' :: Text.hexDigits 4 n
  else
    let m := n - 0x10000
    '\\' :: 'u' :: Text.hexDigits 4 (0xD800 + m / 0x400)
      ++ '\\' :: 'u' :: Text.hexDigits 4 (0xDC00 + m % 0x400)

/-- A text as a JSON string. -/
def stringText (s : String) : String :=
  String.ofList ('"' :: s.toList.flatMap escapedChar ++ ['"'])

/-- A float as a JSON number, or as one of three words. -/
def floatText (x : Float) : String :=
  if x.isNaN then "NaN"
  else if !Decimal.isFinite x then (if x < 0 then "-Infinity" else "Infinity")
  else Decimal.floatText x

/-- A key as a JSON string. -/
def keyText (v : Value) : Eval String := do
  match v with
  | .text s | .markup s => return stringText s
  | .none => return stringText "null"
  | .bool b => return stringText (if b then "true" else "false")
  | .int n => return stringText (← integerText n)
  | .float x => return stringText (floatText x)
  | v =>
    throw (.type ("keys must be str, int, float, bool or None, not " ++ v.typeName))

/-- The name of a type without the module it is in. -/
def shortTypeName (v : Value) : String :=
  match v with
  | .date _ => "date"
  | .dateTime _ => "datetime"
  | v => v.typeName

/-- Items between brackets: on one line, or each on a line of its own at an indentation. -/
def bracketed (opening closing : String) (indent : Option String) (depth : Nat)
    (items : List String) : String :=
  if items.isEmpty then opening ++ closing
  else
    match indent with
    | none => opening ++ ", ".intercalate items ++ closing
    | some unit =>
      let line := fun n => "\n" ++ String.join (List.replicate n unit)
      opening ++ line (depth + 1) ++ ("," ++ line (depth + 1)).intercalate items ++ line depth
        ++ closing

/-- A value at a depth as JSON. `above` are the cells that it is in. -/
def writeWithin (indent : Option String) : Nat → Nat → List CellId → Value → Eval String
  | 0, _, _, _ =>
    throw (.raised .recursion "maximum recursion depth exceeded while calling a Python object")
  | fuel + 1, depth, above, v => do
    let items := fun above vs => do
      let parts ← List.mapM (writeWithin indent fuel (depth + 1) above) vs
      return bracketed "[" "]" indent depth parts
    let circular : Fault := .value "Circular reference detected"
    match v with
    | .none => return "null"
    | .bool b => return if b then "true" else "false"
    | .int n => integerText n
    | .float x => return floatText x
    | .text s | .markup s => return stringText s
    | .tuple vs => items above vs
    | .group key members => items above [key, members]
    | .list id =>
      if ← isAmong id above then throw circular
      items (id :: above) (← listItems id).toList
    | .dict id =>
      if ← isAmong id above then throw circular
      let pairs := (← dictEntries id).map fun (k, w) => (k, Value.tuple [k, w])
      let ordered ← sorted false (pairs.map fun (_, p) => (p, p))
      let parts ← ordered.mapM fun p => do
        match p with
        | .tuple [k, w] =>
          let key ← keyText k
          return key ++ ": " ++ (← writeWithin indent fuel (depth + 1) (id :: above) w)
        | _ => return ""
      return bracketed "\x7b" "\x7d" indent depth parts
    | v => throw (.type ("Object of type " ++ shortTypeName v ++ " is not JSON serializable"))

/-- A value as JSON, on one line or indented. -/
def write (indent : Option String) (v : Value) : Eval String :=
  writeWithin indent shownLimit 0 [] v

/-- JSON text that is safe inside markup. -/
def safe (s : String) : String :=
  String.ofList (s.toList.flatMap fun c =>
    if c == '<' || c == '>' || c == '&' || c == '\'' then '\\' :: 'u' :: Text.hexDigits 4 c.toNat
    else [c])

end TemplateTree.Template.JsonText
