/-!
# Sets of characters

A set of characters is written as the ascending list of the code points at which membership flips:
the first bound opens the first range, the second closes it, and so on. A character is a member when
an odd number of bounds lie at or below it.
-/

namespace TemplateTree.Text

/-- A set of characters, given by the code points at which membership flips. -/
structure CharSet where
  bounds : Array Nat

namespace CharSet

/-- How many of the bounds lie at or below `n`. -/
def below (s : CharSet) (n : Nat) : Nat :=
  s.bounds.foldl (fun k b => if b ≤ n then k + 1 else k) 0

/-- Whether `c` is a member. -/
def mem (s : CharSet) (c : Char) : Bool :=
  s.below c.toNat % 2 == 1

end CharSet

end TemplateTree.Text
