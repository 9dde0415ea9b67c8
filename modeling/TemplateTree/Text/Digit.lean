import TemplateTree.Text.CharSet

/-!
# Decimal digits

Every script with decimal digits writes zero to nine at ten neighbouring code points, so a digit is
named by the zero of its script and its distance from it.
-/

namespace TemplateTree.Text

/-- The digit zero of each script, ascending. -/
def scriptZeros : Array Nat := #[
  48, 1632, 1776, 1984, 2406, 2534, 2662, 2790, 2918, 3046, 3174, 3302, 3430, 3558, 3664, 3792,
  3872, 4160, 4240, 6112, 6160, 6470, 6608, 6784, 6800, 6992, 7088, 7232, 7248, 42528, 43216,
  43264, 43472, 43504, 43600, 44016, 65296, 66720, 68912, 69734, 69872, 69942, 70096, 70384,
  70736, 70864, 71248, 71360, 71472, 71904, 72016, 72784, 73040, 73120, 92768, 92864, 93008,
  120782, 120792, 120802, 120812, 120822, 123200, 123632, 125264, 130032]

/-- The value of a decimal digit of any script. -/
def digitValue? (c : Char) : Option Nat :=
  let n := c.toNat
  if 0x30 ≤ n && n ≤ 0x39 then some (n - 0x30)
  else if n < 0x80 then none
  else (scriptZeros.find? fun z => z ≤ n && n < z + 10).map (n - ·)

/-- Whether `c` is a decimal digit of some script. -/
def isDigit (c : Char) : Bool :=
  (digitValue? c).isSome

/-- Digits that stand apart from positional notation: superscripts, subscripts and circled digits. -/
def detachedDigits : CharSet := ⟨#[
  178, 180, 185, 186, 4969, 4978, 6618, 6619, 8304, 8305, 8308, 8314, 8320, 8330, 9312, 9321,
  9332, 9341, 9352, 9361, 9450, 9451, 9461, 9470, 9471, 9472, 10102, 10111, 10112, 10121, 10122,
  10131, 68160, 68164, 69216, 69225, 69714, 69723, 127232, 127243]⟩

/-- The number that a run of decimal digits denotes, most significant first. -/
def digitsValue (ds : List Char) : Nat :=
  ds.foldl (fun acc c => acc * 10 + (digitValue? c).getD 0) 0

/-- The value of a digit in a base up to sixteen, in either letter case. -/
def baseDigit? (base : Nat) (c : Char) : Option Nat :=
  let n := c.toNat
  let v :=
    if 0x30 ≤ n && n ≤ 0x39 then some (n - 0x30)
    else if 0x61 ≤ n && n ≤ 0x7A then some (n - 0x61 + 10)
    else if 0x41 ≤ n && n ≤ 0x5A then some (n - 0x41 + 10)
    else none
  v.filter (· < base)

/-- The number that a run of digits denotes in `base`. -/
def baseValue (base : Nat) (ds : List Char) : Nat :=
  ds.foldl (fun acc c => acc * base + (baseDigit? base c).getD 0) 0

end TemplateTree.Text
