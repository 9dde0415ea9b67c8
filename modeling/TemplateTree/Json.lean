import TemplateTree.Datum
import TemplateTree.Decimal.Read

/-!
# Reading JSON

A reader of JSON texts. Besides the standard it knows `NaN`, `Infinity` and `-Infinity`, reads integers
of any size up to the digit limit, and of equal keys in an object keeps the last value in the place of
the first. A text that is not JSON is refused with a message and the position it is about.

* `read`: the value of a text, or why it has none.
* `Fault.message`: the reason with line, column and position.
-/

namespace TemplateTree.Json

open TemplateTree.Text

/-- Why a text is not JSON, and where: the number of characters before the place. -/
structure Mistake where
  text : String
  position : Nat
  deriving DecidableEq, Repr

/-- Why a text has no value. -/
inductive Fault
  | mistake (m : Mistake)
  | number (f : Decimal.IntegerFault)
  deriving DecidableEq, Repr

/-- The rest of a text, and the position at which it starts. -/
structure Cursor where
  position : Nat
  rest : List Char

/-- Fails at a position. -/
def fail {α : Type} (text : String) (position : Nat) : Except Fault α :=
  .error (.mistake ⟨text, position⟩)

/-- White space between tokens. -/
def isSpace (c : Char) : Bool :=
  c == ' ' || c == '\t' || c == '\n' || c == '\r'

namespace Cursor

/-- The cursor `n` characters further. -/
def skip (c : Cursor) (n : Nat) : Cursor :=
  ⟨c.position + n, c.rest.drop n⟩

/-- The cursor behind white space. -/
def skipSpace (c : Cursor) : Cursor :=
  c.skip (c.rest.takeWhile isSpace).length

/-- Whether a word stands at the cursor. -/
def startsWith (c : Cursor) (word : String) : Bool :=
  word.toList.isPrefixOf c.rest

end Cursor

/-! ## Strings -/

/-- The character that an escape with one letter stands for. -/
def escaped? (c : Char) : Option Char :=
  if c == '"' || c == '\\' || c == '/' then some c
  else if c == 'b' then some (Char.ofNat 8)
  else if c == 'f' then some (Char.ofNat 12)
  else if c == 'n' then some '\n'
  else if c == 'r' then some '\r'
  else if c == 't' then some '\t'
  else none

/-- The number that four hexadecimal digits denote. -/
def fourDigits? (s : List Char) : Option Nat :=
  let ds := s.take 4
  if ds.length == 4 && ds.all fun c => (baseDigit? 16 c).isSome then some (baseValue 16 ds) else none

/-- Whether a code unit is the first of a pair. -/
def isHighUnit (n : Nat) : Bool := 0xD800 ≤ n && n ≤ 0xDBFF

/-- Whether a code unit is the second of a pair. -/
def isLowUnit (n : Nat) : Bool := 0xDC00 ≤ n && n ≤ 0xDFFF

/-- The character of a code unit; a unit that is half a pair has none and is replaced. -/
def unitChar (n : Nat) : Char :=
  if isHighUnit n || isLowUnit n then Char.ofNat 0xFFFD else Char.ofNat n

/-- Reads the digits of an escape by code unit, after its letter, and those of the second unit of a
    pair: the character and how many characters were read. -/
def unitEscape (position : Nat) (s : List Char) : Except Fault (Char × Nat) :=
  let bad := fun {α : Type} (at_ : Nat) => fail (α := α) "Invalid \\uXXXX escape" at_
  if s.length ≤ 4 then bad position
  else
    match fourDigits? s with
    | none => bad position
    | some high =>
      match s.drop 4 with
      | '\\' :: 'u' :: more =>
        if isHighUnit high && 4 < more.length then
          match fourDigits? more with
          | none => bad (position + 6)
          | some low =>
            if isLowUnit low then
              .ok (Char.ofNat (0x10000 + (high - 0xD800) * 0x400 + (low - 0xDC00)), 10)
            else .ok (unitChar high, 4)
        else .ok (unitChar high, 4)
      | _ => .ok (unitChar high, 4)

/-- Reads a string behind its opening quote, which stands at `start`. -/
def string (start : Nat) : Nat → Cursor → List Char → Except Fault (String × Cursor)
  | 0, _, _ => fail "Unterminated string starting at" start
  | fuel + 1, c, acc =>
    match c.rest with
    | [] => fail "Unterminated string starting at" start
    | '"' :: _ => .ok (String.ofList acc.reverse, c.skip 1)
    | '\\' :: [] => fail "Unterminated string starting at" start
    | '\\' :: 'u' :: more => do
      let (x, n) ← unitEscape (c.position + 1) more
      string start fuel (c.skip (n + 2)) (x :: acc)
    | '\\' :: e :: _ =>
      match escaped? e with
      | some x => string start fuel (c.skip 2) (x :: acc)
      | none => fail "Invalid \\escape" c.position
    | x :: _ =>
      if x.toNat ≤ 0x1F then fail "Invalid control character at" c.position
      else string start fuel (c.skip 1) (x :: acc)

/-! ## Numbers -/

/-- ASCII digits at the start of a text. -/
def takeDigits (s : List Char) : List Char :=
  s.takeWhile fun c => '0' ≤ c && c ≤ '9'

/-- The fraction digits after a point; none if no digit follows it. -/
def takeFraction : List Char → List Char
  | '.' :: rest => takeDigits rest
  | _ => []

/-- An exponent: its value and its length; length zero if there is none. -/
def takeExponent (s : List Char) : Int × Nat :=
  match s with
  | [] => (0, 0)
  | e :: rest =>
    if e == 'e' || e == 'E' then
      let (negative, digits, signs) :=
        match rest with
        | '-' :: r => (true, takeDigits r, 1)
        | '+' :: r => (false, takeDigits r, 1)
        | r => (false, takeDigits r, 0)
      if digits.isEmpty then (0, 0)
      else
        let n : Int := (digitsValue digits : Nat)
        (if negative then -n else n, 1 + signs + digits.length)
    else (0, 0)

/-- The whole digits of a number: a zero alone, or digits that do not start with one. -/
def takeWhole (s : List Char) : List Char :=
  match s with
  | '0' :: _ => ['0']
  | s => takeDigits s

/-- Reads a number, if one stands at the cursor. -/
def number (c : Cursor) : Except Fault (Datum × Cursor) :=
  let (negative, body, signs) :=
    match c.rest with
    | '-' :: r => (true, r, 1)
    | r => (false, r, 0)
  let whole := takeWhole body
  if whole.isEmpty then fail "Expecting value" c.position
  else
    let afterWhole := body.drop whole.length
    let fraction := takeFraction afterWhole
    let points := if fraction.isEmpty then 0 else 1
    let afterFraction := afterWhole.drop (points + fraction.length)
    let (exponent, exponentLength) := takeExponent afterFraction
    let next := c.skip (signs + whole.length + points + fraction.length + exponentLength)
    if points == 0 && exponentLength == 0 then
      if Decimal.digitLimit < whole.length then .error (.number (.tooLong whole.length))
      else
        let n : Int := (digitsValue whole : Nat)
        .ok (.int (if negative then -n else n), next)
    else .ok (.float ((Decimal.DecimalText.mk whole fraction exponent).toFloat negative), next)

/-! ## Values -/

/-- The words that stand for values. -/
def words : List (String × Datum) :=
  [("null", .none), ("true", .bool true), ("false", .bool false), ("NaN", .float Decimal.notANumber),
    ("Infinity", .float Decimal.infinity), ("-Infinity", .float (-Decimal.infinity))]

mutual

/-- Reads a value. -/
def value : Nat → Cursor → Except Fault (Datum × Cursor)
  | 0, c => fail "Expecting value" c.position
  | fuel + 1, c =>
    match c.rest with
    | '"' :: _ => do
      let (s, c) ← string c.position (c.rest.length + 1) (c.skip 1) []
      pure (.text s, c)
    | '{' :: _ =>
      let c := (c.skip 1).skipSpace
      if c.startsWith "\x7d" then .ok (.map [], c.skip 1) else entries fuel c []
    | '[' :: _ =>
      let c := (c.skip 1).skipSpace
      if c.startsWith "]" then .ok (.list [], c.skip 1) else items fuel c []
    | _ =>
      match words.find? fun w => c.startsWith w.1 with
      | some (word, d) => .ok (d, c.skip word.length)
      | none => number c

/-- Reads the items of an array from the first that is still to come. -/
def items : Nat → Cursor → List Datum → Except Fault (Datum × Cursor)
  | 0, c, _ => fail "Expecting value" c.position
  | fuel + 1, c, acc => do
    let (d, c) ← value fuel c
    let c := c.skipSpace
    match c.rest with
    | ']' :: _ => pure (.list (d :: acc).reverse, c.skip 1)
    | ',' :: _ => items fuel (c.skip 1).skipSpace (d :: acc)
    | _ => fail "Expecting ',' delimiter" c.position

/-- Reads the entries of an object from the first that is still to come. -/
def entries : Nat → Cursor → Entries Datum → Except Fault (Datum × Cursor)
  | 0, c, _ => fail "Expecting value" c.position
  | fuel + 1, c, acc => do
    if !c.startsWith "\"" then fail "Expecting property name enclosed in double quotes" c.position
    let (key, c) ← string c.position (c.rest.length + 1) (c.skip 1) []
    let c := c.skipSpace
    if !c.startsWith ":" then fail "Expecting ':' delimiter" c.position
    let (d, c) ← value fuel (c.skip 1).skipSpace
    let acc := acc.insert (.text key) d
    let c := c.skipSpace
    match c.rest with
    | '}' :: _ => pure (.map acc, c.skip 1)
    | ',' :: _ => entries fuel (c.skip 1).skipSpace acc
    | _ => fail "Expecting ',' delimiter" c.position

end

/-- The value of a JSON text. -/
def read (text : String) : Except Fault Datum := do
  let cs := text.toList
  if cs.head? == some (Char.ofNat 0xFEFF) then
    fail "Unexpected UTF-8 BOM (decode using utf-8-sig)" 0
  let (d, c) ← value (2 * cs.length + 2) (Cursor.mk 0 cs).skipSpace
  let c := c.skipSpace
  if !c.rest.isEmpty then fail "Extra data" c.position
  pure d

/-- The line and column of a position, both counted from one. -/
def lineAndColumn (text : List Char) (position : Nat) : Nat × Nat :=
  let before := text.take position
  (before.count '\n' + 1, (before.reverse.takeWhile (· != '\n')).length + 1)

/-- A mistake in words, with its place in the text. -/
def Mistake.message (m : Mistake) (text : String) : String :=
  let (line, column) := lineAndColumn text.toList m.position
  m.text ++ ": line " ++ toString line ++ " column " ++ toString column ++ " (char "
    ++ toString m.position ++ ")"

end TemplateTree.Json
