import TemplateTree.Decimal.Shortest

/-!
# Decimals with a fixed number of digits

A float rounded to a number of decimal places, or to a number of significant digits. Rounding is of
the exact value, and a half goes to the even neighbour.
-/

namespace TemplateTree.Decimal

/-- `m · 2 ^ q` in units of `10 ^ -places`, rounded. -/
def roundToPlaces (m : Nat) (q : Int) (places : Int) : Nat :=
  let (num, den) := toRatio m q
  if 0 ≤ places then roundDiv (num * Nat.pow 10 places.toNat) den
  else roundDiv num (den * Nat.pow 10 (-places).toNat)

/-- The digits of `d · 10 ^ -places`, with a point if `places` is positive. -/
def fixedDigits (d places : Nat) : String :=
  let ds := (toString d).toList
  if places == 0 then String.ofList ds
  else
    let filled := List.replicate (places + 1 - ds.length) '0' ++ ds
    let whole := filled.length - places
    String.ofList (filled.take whole ++ '.' :: filled.drop whole)

/-- The text of `m · 2 ^ q` with `places` digits behind the point. -/
def fixedText (m : Nat) (q : Int) (places : Nat) : String :=
  fixedDigits (roundToPlaces m q places) places

/-- `m · 2 ^ q` rounded to `count` significant digits: the digits and the exponent of the first. -/
def significant (m : Nat) (q : Int) (count : Nat) : Nat × Int :=
  if m == 0 then (0, 0)
  else
    let (num, den) := toRatio m q
    let guess := leadingPower num den
    let below := roundToPlaces m q ((count : Int) - 1 - guess)
    let exponent := if digitCount below < count then guess - 1 else guess
    let d := roundToPlaces m q ((count : Int) - 1 - exponent)
    if count < digitCount d then (d / 10, exponent + 1) else (d, exponent)

/-- The exponent part of scientific notation. -/
def exponentText (exponent : Int) : String :=
  "e" ++ (if exponent < 0 then "-" else "+") ++ padded 2 exponent.natAbs

/-- Scientific notation with `places` digits behind the point. -/
def scientificText (m : Nat) (q : Int) (places : Nat) : String :=
  let (d, exponent) := significant m q (places + 1)
  let ds := if m == 0 then List.replicate (places + 1) '0' else (toString d).toList
  String.ofList (ds.take 1 ++ (if places == 0 then [] else '.' :: ds.drop 1)) ++ exponentText exponent

/-- Takes the trailing zeros of a fraction off, and the point if nothing is left behind it. -/
def dropFractionZeros (s : List Char) : List Char :=
  if s.contains '.' then
    let trimmed := (s.reverse.dropWhile (· == '0'))
    (if trimmed.head? == some '.' then trimmed.drop 1 else trimmed).reverse
  else s

/-- General notation with at most `count` significant digits: positional for exponents from -4 up to
    below `bound`, scientific otherwise, without trailing zeros unless `keepZeros`. -/
def generalText (m : Nat) (q : Int) (count : Nat) (bound : Int) (keepZeros : Bool) : String :=
  let count := if count == 0 then 1 else count
  let (d, exponent) := significant m q count
  if -4 ≤ exponent && exponent < bound then
    let s := fixedText m q ((count : Int) - 1 - exponent).toNat
    if keepZeros then s else String.ofList (dropFractionZeros s.toList)
  else
    let ds := (toString d).toList
    let mantissa := ds.take 1 ++ (if count == 1 then [] else '.' :: ds.drop 1)
    let mantissa := if keepZeros then mantissa else dropFractionZeros mantissa
    String.ofList mantissa ++ exponentText exponent

/-- A finite float rounded to `places` decimal places, as a float again. -/
def roundFloat? (x : Float) (places : Int) : Option Float :=
  match shape x with
  | .finite negative m q =>
    if 330 < places then some x
    else if places < -330 then some (withSign negative 0)
    else
      let d := roundToPlaces m q places
      if 0 ≤ places then ofRatio? negative d (Nat.pow 10 places.toNat)
      else ofRatio? negative (d * Nat.pow 10 (-places).toNat) 1
  | _ => some x

/-- An integer rounded to a multiple of `10 ^ places`. -/
def roundInt (n : Int) (places : Nat) : Int :=
  let unit := Nat.pow 10 places
  let r : Int := (roundDiv n.natAbs unit * unit : Nat)
  if n < 0 then -r else r

/-- The integer nearest to a finite float; a half goes to the even neighbour. -/
def nearestInt? (x : Float) : Option Int :=
  match shape x with
  | .finite negative m q =>
    let n : Int := roundToPlaces m q 0
    some (if negative then -n else n)
  | _ => none

end TemplateTree.Decimal
