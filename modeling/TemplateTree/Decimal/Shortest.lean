import TemplateTree.Decimal.Binary

/-!
# The shortest decimal of a float

A finite float is written with the fewest decimal digits that read back as the same float, and of
those with the ones nearest to its value. Digits are found by exact arithmetic: for one digit, two
digits and so on, the two neighbours of the value on that decimal grid are tried against the interval
of numbers that round to the float.

* `shortest`: the digits and the power of ten of the last one.
* `FloatStyle.render`: the text, in a style that says where positional notation ends.
-/

namespace TemplateTree.Decimal

/-- The numbers that round to a float: the fractions `low` and `high` over the denominator `den`, the
    ends included or not, around the value `mid`. -/
structure Interval where
  low : Nat
  mid : Nat
  high : Nat
  den : Nat
  closed : Bool

/-- The interval of numbers that round to `m · 2 ^ q`. Below a power of two the neighbouring float is
    only half as far away. -/
def roundingInterval (m : Nat) (q : Int) : Interval :=
  let (num, den) := toRatio 1 q
  let narrow := m == Nat.pow 2 52 && -1074 < q
  { low := (if narrow then 4 * m - 1 else 4 * m - 2) * num
    mid := 4 * m * num
    high := (4 * m + 2) * num
    den := 4 * den
    closed := m % 2 == 0 }

/-- Whether the decimal `d · 10 ^ k` lies in the interval. -/
def Interval.holds (i : Interval) (d : Nat) (k : Int) : Bool :=
  let (a, b) := if 0 ≤ k then (d * Nat.pow 10 k.toNat * i.den, 1) else (d * i.den, Nat.pow 10 (-k).toNat)
  if i.closed then i.low * b ≤ a && a ≤ i.high * b else i.low * b < a && a < i.high * b

/-- The better of the value's two neighbours on the grid of multiples of `10 ^ k`, if one lies in the
    interval. Of two the nearer is taken, and of two equally near the even one. -/
def Interval.onGrid (i : Interval) (k : Int) : Option Nat :=
  let (a, b) := if 0 ≤ k then (i.mid, i.den * Nat.pow 10 k.toNat) else (i.mid * Nat.pow 10 (-k).toNat, i.den)
  let below := a / b
  let nearest := roundDiv a b
  let other := if nearest == below then below + 1 else below
  if i.holds nearest k && 0 < nearest then some nearest
  else if i.holds other k && 0 < other then some other
  else none

/-- How many decimal digits a positive number has. -/
def digitCount (n : Nat) : Nat :=
  (Nat.toDigits 10 n).length

/-- The power of ten at the leading digit of `num / den`, or one above it. -/
def leadingPower (num den : Nat) : Int :=
  if den ≤ num then (digitCount (num / den) : Int) - 1
  else -((digitCount (den / num) : Int) - 1)

/-- The first grid, from `10 ^ k` downward, with a decimal in the interval. -/
def Interval.search (i : Interval) : Nat → Int → Nat × Int
  | 0, k => (i.mid / i.den, k)
  | fuel + 1, k =>
    match i.onGrid k with
    | some d => (d, k)
    | none => i.search fuel (k - 1)

/-- Takes the trailing zeros off a positive decimal. -/
def dropZeros : Nat → Nat → Int → Nat × Int
  | 0, d, k => (d, k)
  | fuel + 1, d, k => if d % 10 == 0 && d != 0 then dropZeros fuel (d / 10) (k + 1) else (d, k)

/-- The digits of the shortest decimal `d · 10 ^ k` that rounds to `m · 2 ^ q`. -/
def shortest (m : Nat) (q : Int) : Nat × Int :=
  if m == 0 then (0, 0)
  else
    let i := roundingInterval m q
    let (d, k) := i.search 25 (leadingPower i.mid i.den + 1)
    dropZeros 25 d k

/-- How floats are written: the exponents of ten for which notation is positional, the texts of the
    values that are not finite, and the least number of exponent digits. -/
structure FloatStyle where
  leastPositional : Int
  positionalEnd : Int
  infinityText : String
  notANumberText : String
  exponentDigits : Nat

/-- The digits of a number, filled up with zeros on the left. -/
def padded (width n : Nat) : String :=
  let ds := toString n
  String.ofList (List.replicate (width - ds.length) '0') ++ ds

/-- Scientific notation: one digit, the others behind a point, and a signed exponent. -/
def scientific (style : FloatStyle) (digits : List Char) (exponent : Int) : String :=
  let tail := digits.drop 1
  let sign := if exponent < 0 then "-" else "+"
  String.ofList (digits.take 1 ++ (if tail.isEmpty then [] else '.' :: tail)) ++ "e" ++ sign
    ++ padded style.exponentDigits exponent.natAbs

/-- Positional notation of `digits · 10 ^ k`, with at least one digit on either side of the point. -/
def positional (digits : List Char) (k : Int) : String :=
  if 0 ≤ k then
    String.ofList (digits ++ List.replicate k.toNat '0') ++ ".0"
  else
    let places := (-k).toNat
    let filled := List.replicate (places + 1 - digits.length) '0' ++ digits
    let whole := filled.length - places
    String.ofList (filled.take whole ++ '.' :: filled.drop whole)

/-- The shortest text of a float in the given style. -/
def FloatStyle.render (style : FloatStyle) (x : Float) : String :=
  match shape x with
  | .notANumber => style.notANumberText
  | .infinite negative => (if negative then "-" else "") ++ style.infinityText
  | .finite negative m q =>
    let (d, k) := shortest m q
    let digits := (toString d).toList
    let exponent := k + (digits.length : Int) - 1
    let body :=
      if style.leastPositional ≤ exponent && exponent < style.positionalEnd then
        positional digits k
      else scientific style digits exponent
    (if negative then "-" else "") ++ body

/-- Floats in printed values: positional from `0.0001` up to below `10 ^ 16`. -/
def printedFloat : FloatStyle :=
  ⟨-4, 16, "inf", "nan", 2⟩

/-- The printed text of a float. -/
def floatText (x : Float) : String :=
  printedFloat.render x

end TemplateTree.Decimal
