/-!
# Binary floating point as exact numbers

A finite float is a sign, a natural number and a power of two. This module takes floats apart into
that form, in exact arithmetic, and builds the float nearest to a fraction.

* `shape`: what a float is: not a number, infinite, or `± m · 2 ^ q`.
* `ofRatio`: the float nearest to a fraction; of two equally near the one with an even last bit.
-/

namespace TemplateTree.Decimal

/-- What a float denotes. -/
inductive Shape
  | notANumber
  | infinite (negative : Bool)
  | finite (negative : Bool) (m : Nat) (q : Int)
  deriving DecidableEq, Repr

/-- Takes a float apart. -/
def shape (x : Float) : Shape :=
  let bits := x.toBits.toNat
  let negative := bits / Nat.pow 2 63 == 1
  let exponent : Nat := bits / Nat.pow 2 52 % Nat.pow 2 11
  let fraction : Nat := bits % Nat.pow 2 52
  if exponent == 0x7FF then
    if fraction == 0 then .infinite negative else .notANumber
  else if exponent == 0 then .finite negative fraction (-1074)
  else .finite negative (Nat.pow 2 52 + fraction) ((exponent : Int) - 1075)

/-- Whether a float is neither infinite nor not a number. -/
def isFinite (x : Float) : Bool :=
  match shape x with
  | .finite .. => true
  | _ => false

/-- `m · 2 ^ q` as a fraction. -/
def toRatio (m : Nat) (q : Int) : Nat × Nat :=
  if 0 ≤ q then (m * Nat.pow 2 q.toNat, 1) else (m, Nat.pow 2 (-q).toNat)

/-- The natural number nearest to `num / den`; a half goes to the even neighbour. -/
def roundDiv (num den : Nat) : Nat :=
  let low := num / den
  let rest := num % den
  if 2 * rest < den then low
  else if den < 2 * rest then low + 1
  else if low % 2 == 0 then low else low + 1

/-- The fraction `num / den` in units of `2 ^ e`. -/
def inUnits (num den : Nat) (e : Int) : Nat × Nat :=
  if 0 ≤ e then (num, den * Nat.pow 2 e.toNat) else (num * Nat.pow 2 (-e).toNat, den)

/-- The exponent of the last bit of a float near `num / den`: 53 significant bits, but none below
    the least exponent. -/
def lastBit (num den : Nat) : Int :=
  let guess : Int := (num.log2 : Int) - (den.log2 : Int) - 52
  let (a, b) := inUnits num den guess
  let e := if Nat.pow 2 53 ≤ a / b then guess + 1 else if a / b < Nat.pow 2 52 then guess - 1 else guess
  if e < -1074 then -1074 else e

/-- The bits of the float nearest to `num / den`, or `none` when it is too large for any. -/
def ratioBits (num den : Nat) : Option Nat :=
  if num == 0 then some 0
  else
    let e := lastBit num den
    let (a, b) := inUnits num den e
    let m := roundDiv a b
    let (m, e) := if m == Nat.pow 2 53 then (Nat.pow 2 52, e + 1) else (m, e)
    if m < Nat.pow 2 52 then some m
    else if 972 ≤ e then none
    else some (((e + 1075).toNat) * Nat.pow 2 52 + (m - Nat.pow 2 52))

/-- A float from its bits and its sign. -/
def withSign (negative : Bool) (bits : Nat) : Float :=
  Float.ofBits (UInt64.ofNat (if negative then Nat.pow 2 63 + bits else bits))

/-- Positive infinity. -/
def infinity : Float :=
  withSign false (0x7FF * Nat.pow 2 52)

/-- The float that is not a number. -/
def notANumber : Float :=
  withSign false (0x7FF * Nat.pow 2 52 + Nat.pow 2 51)

/-- The float nearest to `± num / den`, if that is not too large. -/
def ofRatio? (negative : Bool) (num den : Nat) : Option Float :=
  (ratioBits num den).map (withSign negative)

/-- The float nearest to `± num / den`, infinite if that is too large. -/
def ofRatio (negative : Bool) (num den : Nat) : Float :=
  (ofRatio? negative num den).getD (withSign negative (0x7FF * Nat.pow 2 52))

/-- The float nearest to an integer, if that is not too large. -/
def ofInt? (n : Int) : Option Float :=
  ofRatio? (n < 0) n.natAbs 1

/-- The integer part of a finite float, toward zero. -/
def truncate? (x : Float) : Option Int :=
  match shape x with
  | .finite negative m q =>
    let (num, den) := toRatio m q
    let n : Int := (num / den : Nat)
    some (if negative then -n else n)
  | _ => none

/-- Whether a float is an integer. -/
def isIntegral (x : Float) : Bool :=
  match shape x with
  | .finite _ m q => let (num, den) := toRatio m q; num % den == 0
  | _ => false

/-- Whether the sign bit is set. -/
def isNegative (x : Float) : Bool :=
  x.toBits.toNat / Nat.pow 2 63 == 1

/-- A float as the fraction of an integer and a positive number. -/
def fraction? (x : Float) : Option (Int × Nat) :=
  match shape x with
  | .finite negative m q =>
    let (num, den) := toRatio m q
    some (if negative then -(num : Int) else num, den)
  | _ => none

/-- The order of an integer and a float that is a number: exact, without rounding the integer. -/
def compareIntFloat (n : Int) (x : Float) : Ordering :=
  match shape x with
  | .notANumber => .eq
  | .infinite negative => if negative then .gt else .lt
  | .finite negative m q =>
    let (num, den) := toRatio m q
    let signed : Int := if negative then -(num : Int) else num
    compare (n * den) signed

end TemplateTree.Decimal
