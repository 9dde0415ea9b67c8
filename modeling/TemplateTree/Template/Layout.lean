import TemplateTree.Decimal.Fixed
import TemplateTree.Template.Arithmetic

/-!
# Layout of formatted values

A layout says how a number or text is written: how wide, where in that width, with which sign, in which
notation and with how many digits. Layouts are written after the colon of a replacement field.

* `Layout.parse`: from its text.
* `Layout.text`, `Layout.integer`, `Layout.float`: values under a layout.
-/

namespace TemplateTree.Template

/-- How a value is written. -/
structure Layout where
  fill : Char
  align : Option Char
  sign : Option Char
  alternate : Bool
  width : Nat
  grouping : Option Char
  precision : Option Nat
  type : Option Char
  deriving Repr, Inhabited

namespace Layout

/-- Whether a character says where a value stands in its width. -/
def isAlign (c : Char) : Bool :=
  c == '<' || c == '>' || c == '=' || c == '^'

/-- Fill and alignment at the start of a layout. -/
def takeAlign : List Char → Option Char × Option Char × List Char
  | f :: a :: rest =>
    if isAlign a then (some f, some a, rest)
    else if isAlign f then (none, some f, a :: rest)
    else (none, none, f :: a :: rest)
  | [a] => if isAlign a then (none, some a, []) else (none, none, [a])
  | [] => (none, none, [])

/-- One of some characters, if it comes next. -/
def takeOneOf (wanted : List Char) : List Char → Option Char × List Char
  | c :: rest => if wanted.contains c then (some c, rest) else (none, c :: rest)
  | [] => (none, [])

/-- A number in decimal digits, if one comes next. -/
def takeNumber (s : List Char) : Option Nat × List Char :=
  let ds := s.takeWhile Char.isDigit
  (if ds.isEmpty then none else some (Text.digitsValue ds), s.drop ds.length)

/-- Why a grouping mark does not go with a type. -/
def badGrouping (mark type : Char) : Fault :=
  .value ("Cannot specify '" ++ mark.toString ++ "' with '" ++ type.toString ++ "'.")

/-- The mark between groups of digits, if one comes next. -/
def takeGrouping (s : List Char) : Except Fault (Option Char × List Char) :=
  match takeOneOf [','] s with
  | (some c, rest) =>
    match takeOneOf ['_', ','] rest with
    | (some '_', _) => .error (.value "Cannot specify both ',' and '_'.")
    | (some _, _) => .error (.value "Cannot specify ',' with ','.")
    | (none, rest) => .ok (some c, rest)
  | (none, _) =>
    match takeOneOf ['_'] s with
    | (some c, rest) =>
      match takeOneOf ['_', ','] rest with
      | (some ',', _) => .error (.value "Cannot specify both ',' and '_'.")
      | (some _, _) => .error (.value "Cannot specify '_' with '_'.")
      | (none, rest) => .ok (some c, rest)
    | (none, rest) => .ok (none, rest)

/-- The types that digits can be grouped under. -/
def groupedTypes (mark : Char) : List Char :=
  if mark == '_' then ['d', 'e', 'f', 'g', 'E', 'G', '%', 'F', 'b', 'o', 'x', 'X']
  else ['d', 'e', 'f', 'g', 'E', 'G', '%', 'F']

/-- Reads a layout for a value of the named type. -/
def parse (kind : String) (isNumber : Bool) (s : List Char) : Except Fault Layout := do
  let (fill, align, s) := takeAlign s
  let (sign, s) := takeOneOf ['+', '-', ' '] s
  let (_, s) := takeOneOf ['z'] s
  let (mark, s) := takeOneOf ['#'] s
  let (zero, s) :=
    if fill.isNone then takeOneOf ['0'] s else (none, s)
  let align := if zero.isSome && align.isNone && isNumber then some '=' else align
  let (width, s) := takeNumber s
  let (grouping, s) ← takeGrouping s
  let (precision, s) ←
    match s with
    | '.' :: rest =>
      match takeNumber rest with
      | (none, _) => throw (Fault.value "Format specifier missing precision")
      | (some n, rest) => pure (some n, rest)
    | s => pure (none, s)
  let type ←
    match s with
    | [] => pure none
    | [c] => pure (some c)
    | _ => throw (Fault.value ("Invalid format specifier '" ++ String.ofList s ++ "' for object of "
        ++ "type '" ++ kind ++ "'"))
  match grouping, type with
  | some g, some t => if !(groupedTypes g).contains t then throw (badGrouping g t)
  | _, _ => pure ()
  pure ⟨if zero.isSome then '0' else fill.getD ' ', align, sign, mark.isSome, width.getD 0, grouping,
    precision, type⟩

/-- Why a type does not go with a kind of value. -/
def unknownType (type : Char) (kind : String) : Fault :=
  .value ("Unknown format code '" ++ type.toString ++ "' for object of type '" ++ kind ++ "'")

/-- A text in the width of a layout. `head` is what stands before the padding of numbers. -/
def pad (l : Layout) (normal : Char) (head body : String) : String :=
  let missing := l.width - (head.length + body.length)
  let filled := fun n => String.ofList (List.replicate n l.fill)
  match l.align.getD normal with
  | '<' => head ++ body ++ filled missing
  | '^' => filled (missing / 2) ++ head ++ body ++ filled (missing - missing / 2)
  | '=' => head ++ filled missing ++ body
  | _ => filled missing ++ head ++ body

/-- A text under a layout. -/
def text (l : Layout) (s : String) : Except Fault String :=
  if l.sign == some ' ' then
    .error (.value "Space not allowed in string format specifier")
  else if l.sign.isSome then .error (.value "Sign not allowed in string format specifier")
  else if l.alternate then
    .error (.value "Alternate form (#) not allowed in string format specifier")
  else if l.align == some '=' then
    .error (.value "'=' alignment not allowed in string format specifier")
  else
    match l.type, l.grouping with
    | some 's', none | none, none =>
      let cs := s.toList
      let cs := match l.precision with
        | some n => cs.take n
        | none => cs
      .ok (l.pad '<' "" (String.ofList cs))
    | none, some g | some 's', some g => .error (badGrouping g 's')
    | some t, _ => .error (unknownType t "str")

/-! ## Numbers -/

/-- The sign of a number under a layout. -/
def signText (l : Layout) (isNegative : Bool) : String :=
  if isNegative then "-"
  else
    match l.sign with
    | some '+' => "+"
    | some ' ' => " "
    | _ => ""

/-- Digits with a mark between groups, counted from the right. -/
def grouped (mark : Char) (size : Nat) : Nat → List Char → List Char
  | _, [] => []
  | count, d :: rest =>
    let more := grouped mark size (count + 1) rest
    if count != 0 && count % size == 0 then mark :: d :: more else d :: more

/-- Digits in groups, filled with zeros to a width of at most `fuel` more characters. -/
def groupedTo (mark : Char) (size width : Nat) : Nat → List Char → List Char
  | 0, ds => (grouped mark size 0 ds.reverse).reverse
  | fuel + 1, ds =>
    let s := (grouped mark size 0 ds.reverse).reverse
    if s.length < width then groupedTo mark size width fuel ('0' :: ds) else s

/-- The parts of a number put together under a layout. -/
def number (l : Layout) (isNegative : Bool) (mark : String) (groupSize : Nat) (digits : List Char)
    (rest : String) : String :=
  let head := l.signText isNegative ++ mark
  match l.grouping with
  | none => l.pad '>' head (String.ofList digits ++ rest)
  | some g =>
    let isFilled := l.fill == '0' && l.align == some '='
    let width := if isFilled then l.width - head.length - rest.length else 0
    l.pad '>' head (String.ofList (groupedTo g groupSize width width digits) ++ rest)

/-- A number text cut behind its leading digits. -/
def cutDigits (s : String) : List Char × String :=
  let cs := s.toList
  let ds := cs.takeWhile Char.isDigit
  (ds, String.ofList (cs.drop ds.length))

/-- A number text with a point, put before the exponent if it had none. -/
def withPoint (s : String) : String :=
  if s.toList.contains '.' then s
  else
    let (ds, rest) := cutDigits s
    String.ofList ds ++ "." ++ rest

/-- A number text with a fraction. -/
def withFraction (s : String) : String :=
  if s.toList.any fun c => c == '.' || c == 'e' then s else s ++ ".0"

/-- The size of a finite float in the notation of a type. -/
def sizeText (l : Layout) (x : Float) (m : Nat) (q : Int) : String :=
  let places := l.precision.getD 6
  match l.type with
  | some 'e' | some 'E' => Decimal.scientificText m q places
  | some 'f' | some 'F' | some '%' => Decimal.fixedText m q places
  | none =>
    match l.precision with
    | none => Decimal.floatText x.abs
    | some p =>
      let p := max p 1
      withFraction (Decimal.generalText m q p ((p : Int) - 1) l.alternate)
  | _ =>
    let p := max places 1
    Decimal.generalText m q p p l.alternate

/-- The types that write a number with a fraction. -/
def isFloatType (c : Char) : Bool :=
  ['e', 'E', 'f', 'F', 'g', 'G', '%', 'n'].contains c

/-- A float under a layout. -/
def float (l : Layout) (x : Float) : Except Fault String :=
  match l.type.filter (!isFloatType ·) with
  | some t => .error (unknownType t "float")
  | none =>
    let x := if l.type == some '%' then x * 100 else x
    let isUpper := l.type.any Char.isUpper
    let behind := if l.type == some '%' then "%" else ""
    let body := match Decimal.shape x with
      | .notANumber => "nan"
      | .infinite _ => "inf"
      | .finite _ m q =>
        let s := sizeText l x m q
        if l.alternate then withPoint s else s
    let (ds, rest) := cutDigits (if isUpper then body.toUpper else body)
    let isNegative := Decimal.isNegative x && !x.isNaN
    .ok (l.number isNegative "" 3 ds (rest ++ behind))

/-- An integer in a base. -/
def inBase (l : Layout) (n : Int) (base : Nat) (mark : String) : String :=
  let ds := Nat.toDigits base n.natAbs
  l.number (n < 0) (if l.alternate then mark else "") 4 ds ""

/-- An integer under a layout. -/
def integer (l : Layout) (n : Int) : Except Fault String :=
  match l.type with
  | some 'e' | some 'E' | some 'f' | some 'F' | some 'g' | some 'G' | some '%' =>
    match Decimal.ofInt? n with
    | some x => l.float x
    | none => .error (.raised .overflow "int too large to convert to float")
  | type =>
    if l.precision.isSome then
      .error (.value "Precision not allowed in integer format specifier")
    else
      match type with
      | none | some 'd' | some 'n' =>
        if Decimal.isTooLong n then .error (.value Decimal.tooLongToWrite)
        else .ok (l.number (n < 0) "" 3 (toString n.natAbs).toList "")
      | some 'b' => .ok (l.inBase n 2 "0b")
      | some 'o' => .ok (l.inBase n 8 "0o")
      | some 'x' => .ok (l.inBase n 16 "0x")
      | some 'X' => .ok ((l.inBase n 16 "0x").map Char.toUpper)
      | some 'c' =>
        if l.sign.isSome then
          .error (.value "Sign not allowed with integer format specifier 'c'")
        else if l.alternate then
          .error (.value "Alternate form (#) not allowed with integer format specifier 'c'")
        else if n < 0 || 0x110000 ≤ n then
          .error (.raised .overflow "%c arg not in range(0x110000)")
        else .ok (l.pad '>' "" (Char.ofNat n.toNat).toString)
      | some t => .error (unknownType t "int")

end Layout

end TemplateTree.Template
