import TemplateTree.Decimal.Binary
import TemplateTree.Text.Blank
import TemplateTree.Text.Digit

/-!
# Reading numbers

Integers and floats as they are written in texts. Reading a decimal gives the nearest float. An integer
of more than `digitLimit` decimal digits is refused, because reading and writing it takes quadratic
time.
-/

namespace TemplateTree.Decimal

open TemplateTree.Text

/-- The largest number of decimal digits of an integer that is read or written. -/
def digitLimit : Nat := 4300

/-- What is said of an integer text of `count` digits that is over the limit. -/
def tooLongToRead (count : Nat) : String :=
  "Exceeds the limit (4300 digits) for integer string conversion: value has "
    ++ toString count
    ++ " digits; use sys.set_int_max_str_digits() to increase the limit"

/-- What is said of an integer that is over the limit when it is written. -/
def tooLongToWrite : String :=
  "Exceeds the limit (4300 digits) for integer string conversion; "
    ++ "use sys.set_int_max_str_digits() to increase the limit"

/-- Whether the decimal text of an integer is over the limit. -/
def isTooLong (n : Int) : Bool :=
  Nat.pow 10 digitLimit ≤ n.natAbs

/-- Digits from the first one on that is not zero. -/
def dropLeadingZeros (ds : List Char) : List Char :=
  ds.dropWhile fun c => digitValue? c == some 0

/-- The float nearest to `± ds · 10 ^ exponent`, for the number that the digits `ds` denote. Numbers far beyond the
    range of floats are cut off first, so that no huge power is computed; leading zeros do not count there. -/
def ofDecimal (negative : Bool) (ds : List Char) (exponent : Int) : Float :=
  let n := digitsValue ds
  let magnitude := exponent + ((dropLeadingZeros ds).length : Int)
  if n == 0 then withSign negative 0
  else if 400 < magnitude then withSign negative (0x7FF * Nat.pow 2 52)
  else if magnitude < -400 then withSign negative 0
  else if 0 ≤ exponent then ofRatio negative (n * Nat.pow 10 exponent.toNat) 1
  else ofRatio negative n (Nat.pow 10 (-exponent).toNat)

/-- The parts of a decimal number text, after its sign. -/
structure DecimalText where
  whole : List Char
  fraction : List Char
  exponent : Int

/-- The float that the parts denote. -/
def DecimalText.toFloat (t : DecimalText) (negative : Bool) : Float :=
  ofDecimal negative (t.whole ++ t.fraction) (t.exponent - (t.fraction.length : Int))

/-- Digits in which single underscores may stand between two digits; the digits without them, and the
    rest of the text. -/
def takeGrouped (s : List Char) : List Char × List Char :=
  go [] s
where
  /-- Continues after the digits `acc`, reversed. -/
  go (acc : List Char) : List Char → List Char × List Char
    | '_' :: c :: rest =>
      if isDigit c && !acc.isEmpty then go (c :: acc) rest else (acc.reverse, '_' :: c :: rest)
    | c :: rest => if isDigit c then go (c :: acc) rest else (acc.reverse, c :: rest)
    | [] => (acc.reverse, [])

/-- A sign in front of a number: whether it is negative, and the rest. -/
def takeSign : List Char → Bool × List Char
  | '+' :: rest => (false, rest)
  | '-' :: rest => (true, rest)
  | s => (false, s)

/-- Whether a text is a word, in any mixture of cases. -/
def isWordText (word : String) (s : List Char) : Bool :=
  s.map Char.toLower == word.toList

/-- The exponent part of a decimal text: zero if there is none, `none` if it is malformed. -/
def readExponent? : List Char → Option Int
  | [] => some 0
  | c :: rest =>
    if c == 'e' || c == 'E' then
      let (negative, rest) := takeSign rest
      let (ds, rest) := takeGrouped rest
      if ds.isEmpty || !rest.isEmpty then none
      else
        let n : Int := (digitsValue ds : Nat)
        some (if negative then -n else n)
    else none

/-- Reads a decimal number, an infinity or not-a-number, with blanks around it. -/
def readFloat? (s : List Char) : Option Float :=
  let (negative, body) := takeSign (trim s)
  if isWordText "inf" body || isWordText "infinity" body then
    some (withSign negative (0x7FF * Nat.pow 2 52))
  else if isWordText "nan" body then some notANumber
  else
    let (whole, rest) := takeGrouped body
    let (fraction, rest) :=
      match rest with
      | '.' :: r => takeGrouped r
      | r => ([], r)
    if whole.isEmpty && fraction.isEmpty then none
    else (readExponent? rest).map fun e => (DecimalText.mk whole fraction e).toFloat negative

/-- Why a text is no integer. -/
inductive IntegerFault
  | malformed
  | tooLong (digits : Nat)
  deriving DecidableEq, Repr

/-- Whether a base stores a whole number of bits per digit; such texts have no length limit. -/
def isBinaryBase (base : Nat) : Bool :=
  base == 2 || base == 4 || base == 8 || base == 16 || base == 32

/-- The base that a mark such as `0x` selects. -/
def markedBase? (c : Char) : Option Nat :=
  if c == 'x' || c == 'X' then some 16
  else if c == 'o' || c == 'O' then some 8
  else if c == 'b' || c == 'B' then some 2
  else none

/-- The value of a digit of any script in a base up to 36. -/
def anyDigit? (base : Nat) (c : Char) : Option Nat :=
  match digitValue? c with
  | some v => if v < base then some v else none
  | none => baseDigit? base c

/-- The digits of an integer, single underscores between them allowed. The last argument says whether
    a digit came just before. -/
def integerDigits? (base : Nat) : List Char → Bool → Option (List Nat)
  | [], afterDigit => if afterDigit then some [] else none
  | '_' :: rest, afterDigit => if afterDigit then integerDigits? base rest false else none
  | c :: rest, _ => do
    let v ← anyDigit? base c
    let vs ← integerDigits? base rest true
    pure (v :: vs)

/-- Reads an integer in a base from 2 to 36, or, with base 0, in the base that its mark selects.
    Blanks may stand around it. -/
def readInteger (base : Nat) (s : List Char) : Except IntegerFault Int :=
  let (negative, body) := takeSign (trim s)
  let (chosen, body, marked) :=
    match body with
    | '0' :: c :: rest =>
      match markedBase? c with
      | some b => if base == 0 || base == b then (b, rest, true) else (base, '0' :: c :: rest, false)
      | none => (base, '0' :: c :: rest, false)
    | r => (base, r, false)
  let plain := chosen == 0
  let chosen := if plain then 10 else chosen
  let body := if marked then (match body with | '_' :: r => r | r => r) else body
  match integerDigits? chosen body false with
  | none => .error .malformed
  | some ds =>
    let value := ds.foldl (fun acc v => acc * chosen + v) 0
    if plain && ds.head? == some 0 && value != 0 then .error .malformed
    else if !isBinaryBase chosen && digitLimit < ds.length then .error (.tooLong ds.length)
    else .ok (if negative then -(value : Int) else value)

end TemplateTree.Decimal
