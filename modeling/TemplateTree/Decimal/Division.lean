import TemplateTree.Decimal.Binary

/-!
# Dividing floats with a remainder

The remainder is exact before its sign is made that of the divisor; the quotient is the float quotient
of what is left, snapped to the nearest integer.
-/

namespace TemplateTree.Decimal

/-- A zero with the sign of a float. -/
def zeroLike (x : Float) : Float :=
  withSign (isNegative x) 0

/-- The exact remainder of truncating division, with the sign of `x`. -/
def truncatedRemainder (x y : Float) : Float :=
  match fraction? x, fraction? y with
  | some (a, b), some (c, d) =>
    if c == 0 then notANumber
    else
      let num := (a.natAbs * d) % (c.natAbs * b)
      ofRatio (isNegative x) num (b * d)
  | some _, none => if y.isNaN then notANumber else x
  | none, _ => notANumber

/-- The remainder with the sign of the divisor `y`, which is not zero. -/
def flooredRemainder (x y : Float) : Float :=
  let r := truncatedRemainder x y
  if r == 0 then zeroLike y
  else if (y < 0) != (r < 0) then r + y else r

/-- The quotient rounded down, for a divisor that is not zero. -/
def flooredQuotient (x y : Float) : Float :=
  let r := truncatedRemainder x y
  let q := (x - r) / y
  let q := if r != 0 && (y < 0) != (r < 0) then q - 1 else q
  if q == 0 then zeroLike (x / y)
  else
    let f := q.floor
    if q - f > 0.5 then f + 1 else f

end TemplateTree.Decimal
