import TemplateTree.Template.Access
import TemplateTree.Template.Layout

/-!
# Formatting

Two ways to put values into a text. With `%` a conversion says what kind of value comes next; with
replacement fields a value is named by position or name, and a layout may follow. In markup, what is put
in is escaped.

* `percent`: the operator `%` on a text.
* `fields`: replacement fields.
-/

namespace TemplateTree.Template.Formatting

/-- A result that was found without the machine. -/
def lift {α : Type} : Except Fault α → Eval α
  | .ok a => return a
  | .error f => throw f

/-- A value as text, escaped if the text is markup. -/
def plain (ev : Evaluator) (escapes : Bool) (v : Value) : Eval String :=
  outputText ev escapes v

/-- A value as it is shown inside others, escaped if the text is markup. -/
def quotedForm (ev : Evaluator) (escapes : Bool) (v : Value) : Eval String := do
  let s ← shown ev v
  return if escapes then Text.escapeHtml s else s

/-- A value as it is shown inside others, in ASCII. -/
def asciiForm (ev : Evaluator) (escapes : Bool) (v : Value) : Eval String := do
  let s ← quotedForm ev escapes v
  return String.ofList (s.toList.flatMap fun c =>
    let n := c.toNat
    if n < 0x80 then [c]
    else if n < 0x100 then '\\' :: 'x' :: Text.hexDigits 2 n
    else if n < 0x10000 then '\\' :: 'u' :: Text.hexDigits 4 n
    else '\\' :: 'U' :: Text.hexDigits 8 n)

/-! ## Conversions -/

/-- The values that conversions take: those to come, and the map that names refer to. -/
structure Supply where
  next : List Value
  mapping : Option Value

/-- Whether names can refer to a value's items. -/
def isMapping : Value → Bool
  | .dict _ | .list _ | .bytes _ | .range .. | .undefined .. => true
  | _ => false

/-- What the right side of `%` supplies. -/
def Supply.of (v : Value) : Supply :=
  match v.tuple? with
  | some items => ⟨items, none⟩
  | none => ⟨[v], if isMapping v then some v else none⟩

/-- The next value. -/
def Supply.take (s : Supply) : Eval (Value × Supply) := do
  match s.next with
  | v :: rest => return (v, { s with next := rest })
  | [] => throw (.type "not enough arguments for format string")

/-- A conversion: flags, width, precision and type. -/
structure Conversion where
  left : Bool
  plus : Bool
  blank : Bool
  alternate : Bool
  zero : Bool
  width : Nat
  precision : Option Nat
  type : Char

/-- The sign of a number. -/
def Conversion.sign (c : Conversion) (isNegative : Bool) : String :=
  if isNegative then "-" else if c.plus then "+" else if c.blank then " " else ""

/-- A text in the width of a conversion. Zeros go behind sign and mark. -/
def Conversion.pad (c : Conversion) (isNumber : Bool) (head body : String) : String :=
  let missing := c.width - (head.length + body.length)
  let blanks := String.ofList (List.replicate missing ' ')
  if c.left then head ++ body ++ blanks
  else if isNumber && c.zero then
    head ++ String.ofList (List.replicate missing '0') ++ body
  else blanks ++ head ++ body

/-- A text under a conversion. -/
def Conversion.textForm (c : Conversion) (s : String) : String :=
  c.pad false "" (match c.precision with
    | some n => String.ofList (s.toList.take n)
    | none => s)

/-- The fault of a value that is no number. -/
def noNumber (type : Char) (v : Value) : Fault :=
  let wanted :=
    if ['o', 'x', 'X'].contains type then "an integer is required" else "a real number is required"
  .type ("%" ++ type.toString ++ " format: " ++ wanted ++ ", not " ++ v.typeName)

/-- The integer that a whole-number conversion takes. -/
def wholeNumber (type : Char) (v : Value) : Eval Int := do
  match v, v.integer? with
  | .undefined message _, _ => throw (.undefined message)
  | _, some n => return n
  | .float x, none =>
    if ['o', 'x', 'X'].contains type then throw (noNumber type v)
    match Decimal.truncate? x with
    | some n => return n
    | none =>
      if x.isNaN then throw (.value "cannot convert float NaN to integer")
      else throw (.raised .overflow "cannot convert float infinity to integer")
  | _, none => throw (noNumber type v)

/-- The float that a conversion takes. -/
def realNumber (v : Value) : Eval Float := do
  match v, v.number? with
  | .undefined message _, _ => throw (.undefined message)
  | _, some n => toFloat n
  | _, none => throw (.type ("must be real number, not " ++ v.typeName))

/-- An integer under a conversion. -/
def Conversion.integerForm (c : Conversion) (n : Int) : Eval String := do
  let (base, mark) :=
    match c.type with
    | 'o' => (8, "0o")
    | 'x' => (16, "0x")
    | 'X' => (16, "0X")
    | _ => (10, "")
  if base == 10 && Decimal.isTooLong n then throw (.value Decimal.tooLongToWrite)
  let ds := String.ofList (Nat.toDigits base n.natAbs)
  let ds := if c.type == 'X' then ds.map Char.toUpper else ds
  let ds := String.ofList (List.replicate (c.precision.getD 0 - ds.length) '0') ++ ds
  return c.pad true (c.sign (n < 0) ++ (if c.alternate then mark else "")) ds

/-- A float under a conversion. -/
def Conversion.floatForm (c : Conversion) (x : Float) : Eval String := do
  let l : Layout := ⟨' ', none, none, c.alternate, 0, none, some (c.precision.getD 6), some c.type⟩
  let body ← lift (l.float x.abs)
  return c.pad true (c.sign (Decimal.isNegative x && !x.isNaN)) body

/-- A character under a conversion. -/
def Conversion.charForm (c : Conversion) (v : Value) : Eval String := do
  match v.text?.map String.toList, v.integer? with
  | some [x], _ => return c.pad false "" x.toString
  | none, some n =>
    if n < 0 || 0x110000 ≤ n then throw (.raised .overflow "%c arg not in range(0x110000)")
    return c.pad false "" (Char.ofNat n.toNat).toString
  | _, _ => throw (.type "%c requires int or char")

/-- A value under a conversion that ends at a position of the text. -/
def Conversion.form (ev : Evaluator) (escapes : Bool) (c : Conversion) (position : Nat) (v : Value) :
    Eval String := do
  match c.type with
  | 's' => return c.textForm (← plain ev escapes v)
  | 'r' => return c.textForm (← quotedForm ev escapes v)
  | 'a' => return c.textForm (← asciiForm ev escapes v)
  | 'd' | 'i' | 'u' | 'o' | 'x' | 'X' => c.integerForm (← wholeNumber c.type v)
  | 'e' | 'E' | 'f' | 'F' | 'g' | 'G' => c.floatForm (← realNumber v)
  | 'c' => c.charForm v
  | t =>
    throw (.value ("unsupported format character '" ++ t.toString ++ "' (0x"
      ++ String.ofList (Nat.toDigits 16 t.toNat) ++ ") at index " ++ toString position))

/-- The text between the parentheses of a name, and what follows. -/
def takeName : Nat → List Char → List Char → Option (List Char × List Char)
  | _, _, [] => none
  | depth, acc, c :: rest =>
    if c == ')' then
      if depth == 0 then some (acc.reverse, rest) else takeName (depth - 1) (c :: acc) rest
    else if c == '(' then takeName (depth + 1) (c :: acc) rest
    else takeName depth (c :: acc) rest

/-- A number in a conversion: written out, or taken from the values. -/
def takeCount (s : List Char) (supply : Supply) : Eval (Option Int × List Char × Supply) := do
  match s with
  | '*' :: rest =>
    let (v, supply) ← supply.take
    match v.integer? with
    | some n => return (some n, rest, supply)
    | none => throw (.type "* wants int")
  | s =>
    let (n, rest) := Layout.takeNumber s
    return (n.map Int.ofNat, rest, supply)

/-- The named value that a conversion takes, if it has a name. -/
def takeNamed (ev : Evaluator) (s : List Char) (supply : Supply) : Eval (List Char × Supply) := do
  match s with
  | '(' :: rest =>
    match supply.mapping with
    | none => throw (.type "format requires a mapping")
    | some m =>
      match takeName 0 [] rest with
      | none => throw (.value "incomplete format key")
      | some (name, rest) =>
        let v ← subscript ev m (.text (String.ofList name))
        return (rest, { supply with next := [v] })
  | s => return (s, supply)

/-- One conversion behind its `%`: its text, and what follows. `total` is the length of the whole. -/
def conversion (ev : Evaluator) (escapes : Bool) (total : Nat) (s : List Char) (supply : Supply) :
    Eval (String × List Char × Supply) := do
  let incomplete : Fault := .value "incomplete format"
  let (s, supply) ← takeNamed ev s supply
  let flags := s.takeWhile fun c => ['-', '+', ' ', '#', '0'].contains c
  let (width, s, supply) ← takeCount (s.drop flags.length) supply
  let (precision, s, supply) ←
    match s with
    | '.' :: rest => do
      let (n, s, supply) ← takeCount rest supply
      pure (some ((n.getD 0).toNat), s, supply)
    | s => pure (none, s, supply)
  let s := match s with
    | c :: rest => if c == 'h' || c == 'l' || c == 'L' then rest else s
    | [] => []
  match s with
  | [] => throw incomplete
  | '%' :: rest => return ("%", rest, supply)
  | t :: rest =>
    let width := width.getD 0
    let c : Conversion := ⟨flags.contains '-' || width < 0, flags.contains '+', flags.contains ' ',
      flags.contains '#', flags.contains '0', width.natAbs, precision, t⟩
    let (v, supply) ← supply.take
    return (← c.form ev escapes (total - rest.length - 1) v, rest, supply)

/-- The operator `%` on a text. -/
def percent (ev : Evaluator) (escapes : Bool) (format : String) (v : Value) : Eval String := do
  let cs := format.toList
  repeatUntil (fun (s, supply, acc) => do
    match s with
    | [] =>
      if !supply.next.isEmpty && supply.mapping.isNone then
        throw (.type "not all arguments converted during string formatting")
      return .inr acc
    | '%' :: rest =>
      let (piece, rest, supply) ← conversion ev escapes cs.length rest supply
      return .inl (rest, supply, acc ++ piece)
    | s =>
      let data := s.takeWhile (· != '%')
      return .inl (s.drop data.length, supply, acc ++ String.ofList data))
    (cs, Supply.of v, "")

/-! ## Replacement fields -/

/-- A value under the text of a layout. -/
def laidOut (ev : Evaluator) (escapes : Bool) (v : Value) (layout : List Char) : Eval String := do
  match v with
  | .text s | .markup s =>
    let isSafe := match v with
      | .markup _ => true
      | _ => false
    let out ← if layout.isEmpty then pure s
      else do lift ((← lift (Layout.parse v.typeName false layout)).text s)
    return if escapes && !isSafe then Text.escapeHtml out else out
  | v =>
    if layout.isEmpty then plain ev escapes v
    else
      match v with
      | .bool b => lift ((← lift (Layout.parse "bool" true layout)).integer (if b then 1 else 0))
      | .int n => lift ((← lift (Layout.parse "int" true layout)).integer n)
      | .float x => lift ((← lift (Layout.parse "float" true layout)).float x)
      | v => throw (.type ("unsupported format string passed to " ++ v.typeName ++ ".__format__"))

/-- How fields without a name are counted: not yet, by themselves up to a number, or not at all. -/
inductive Numbering
  | unknown
  | automatic (next : Nat)
  | manual

/-- The value of a field's first name, and how fields are counted from here. -/
def firstValue (args : Arguments) (name : List Char) (numbering : Numbering) :
    Eval (Value × Numbering) := do
  let at_ := fun (i : Nat) =>
    match args.positional[i]? with
    | some v => return v
    | none =>
      throw (.raised .indexError ("Replacement index " ++ toString i
        ++ " out of range for positional args tuple"))
  if name.isEmpty then
    match numbering with
    | .manual =>
      throw (.value
        "cannot switch from manual field specification to automatic field numbering")
    | .unknown => return (← at_ 0, .automatic 1)
    | .automatic n => return (← at_ n, .automatic (n + 1))
  else if name.all Char.isDigit then
    match numbering with
    | .automatic _ =>
      throw (.value
        "cannot switch from automatic field numbering to manual field specification")
    | _ => return (← at_ (Text.digitsValue name), .manual)
  else
    match named? args.named (String.ofList name) with
    | some v => return (v, numbering)
    | none => throw (.raised .keyError (Text.quoted (String.ofList name)))

/-- The value at the end of a field's path of attributes and items. -/
def followPath (ev : Evaluator) : Nat → List Char → Value → Eval Value
  | 0, _, v => return v
  | _ + 1, [], v => return v
  | fuel + 1, '.' :: rest, v => do
    let name := rest.takeWhile fun c => c != '.' && c != '['
    if name.isEmpty then throw (.value "Empty attribute in format string")
    match ← attribute? ev v (String.ofList name) with
    | some x => followPath ev fuel (rest.drop name.length) x
    | none =>
      throw (.raised .attributeError ("'" ++ v.typeName ++ "' object has no attribute "
        ++ Text.quoted (String.ofList name)))
  | fuel + 1, '[' :: rest, v => do
    let key := rest.takeWhile (· != ']')
    if key.length == rest.length then throw (.value "Missing ']' in format string")
    if key.isEmpty then throw (.value "Empty attribute in format string")
    let index := if key.all Char.isDigit then Value.int (Text.digitsValue key) else textOf key
    followPath ev fuel (rest.drop (key.length + 1)) (← subscript ev v index)
  | _ + 1, _ :: _, _ =>
    throw (.value "Only '.' or '[' may follow ']' in format field specifier")

/-- The text of a field up to the brace that closes it, and what follows. -/
def takeField : Nat → List Char → List Char → Option (List Char × List Char)
  | _, _, [] => none
  | depth, acc, c :: rest =>
    if c == '\x7d' then
      if depth == 0 then some (acc.reverse, rest) else takeField (depth - 1) (c :: acc) rest
    else takeField (if c == '\x7b' then depth + 1 else depth) (c :: acc) rest

/-- The parts of a field: name, conversion and layout. Marks inside brackets belong to the name. -/
def fieldParts (s : List Char) : Eval (List Char × Option Char × List Char) := do
  let name := cutName false s
  match s.drop name.length with
  | [] => return (name, none, [])
  | ':' :: layout => return (name, none, layout)
  | [_] => throw (.value "unmatched '\x7b' in format spec")
  | [_, c] => return (name, some c, [])
  | _ :: c :: ':' :: layout => return (name, some c, layout)
  | _ => throw (.value "expected ':' after conversion specifier")
where
  /-- The characters before a mark outside of brackets. -/
  cutName (inBrackets : Bool) : List Char → List Char
    | [] => []
    | c :: rest =>
      if inBrackets then c :: cutName (c != ']') rest
      else if c == ':' || c == '!' then []
      else c :: cutName (c == '[') rest

/-- A converted value. -/
def converted (ev : Evaluator) (v : Value) : Option Char → Eval Value
  | none => return v
  | some 's' => return .text (← printed ev v)
  | some 'r' => return .text (← shown ev v)
  | some 'a' => return .text (← asciiForm ev false v)
  | some c => throw (.value ("Unknown conversion specifier " ++ c.toString))

/-- A text with its fields replaced; layouts may hold fields themselves. -/
def fieldsWithin (ev : Evaluator) (escapes : Bool) (args : Arguments) :
    Nat → List Char → Numbering → Eval (String × Numbering)
  | 0, _, _ => throw (.value "Max string recursion exceeded")
  | depth + 1, s, numbering =>
    repeatUntil (fun (s, numbering, acc) => do
      match s with
      | [] => return .inr (acc, numbering)
      | '\x7b' :: '\x7b' :: rest => return .inl (rest, numbering, acc ++ "\x7b")
      | '\x7d' :: '\x7d' :: rest => return .inl (rest, numbering, acc ++ "\x7d")
      | '\x7d' :: _ => throw (.value "Single '\x7d' encountered in format string")
      | ['\x7b'] => throw (.value "Single '\x7b' encountered in format string")
      | '\x7b' :: rest =>
        match takeField 0 [] rest with
        | none => throw (.value "expected '\x7d' before end of string")
        | some (field, rest) =>
          let (path, conversion, layout) ← fieldParts field
          let name := path.takeWhile fun c => c != '.' && c != '['
          let (v, numbering) ← firstValue args name numbering
          let v ← followPath ev path.length (path.drop name.length) v
          let v ← converted ev v conversion
          let (layout, numbering) ←
            if layout.contains '\x7b' then fieldsWithin ev false args depth layout numbering
            else pure (String.ofList layout, numbering)
          return .inl (rest, numbering, acc ++ (← laidOut ev escapes v layout.toList))
      | s =>
        let data := s.takeWhile fun c => c != '\x7b' && c != '\x7d'
        return .inl (s.drop data.length, numbering, acc ++ String.ofList data))
      (s, numbering, "")

/-- A text with its replacement fields replaced. -/
def fields (ev : Evaluator) (escapes : Bool) (format : String) (args : Arguments) : Eval String := do
  let (s, _) ← fieldsWithin ev escapes args 2 format.toList .unknown
  return s

end TemplateTree.Template.Formatting
