import TemplateTree.Text.Printable

/-!
# Quoted text

The quoted form of a text, as error messages and printed containers show it. The text stands between
apostrophes, or between double quotes when it holds an apostrophe and no double quote. The quote in
use and the backslash are escaped by a backslash, tab and line breaks by their letters, and any other
character that is not printable by its code point in hexadecimal.
-/

namespace TemplateTree.Text

/-- The lower-case hexadecimal digit of a number below sixteen. -/
def hexDigit (n : Nat) : Char :=
  if n < 10 then Char.ofNat (0x30 + n) else Char.ofNat (0x61 + n - 10)

/-- The last `width` hexadecimal digits of `n`. -/
def hexDigits : Nat → Nat → List Char
  | 0, _ => []
  | width + 1, n => hexDigits width (n / 16) ++ [hexDigit (n % 16)]

/-- The quote that encloses a text. -/
def enclosingQuote (s : List Char) : Char :=
  if s.contains '\'' && !s.contains '"' then '"' else '\''

/-- How one character stands between quotes of the kind `quote`. -/
def quoteChar (quote c : Char) : List Char :=
  if c == quote || c == '\\' then ['\\', c]
  else if c == '\t' then ['\\', 't']
  else if c == '\n' then ['\\', 'n']
  else if c == '\r' then ['\\', 'r']
  else if isPrintable c then [c]
  else
    let n := c.toNat
    if n < 0x100 then '\\' :: 'x' :: hexDigits 2 n
    else if n < 0x10000 then '\\' :: 'u' :: hexDigits 4 n
    else '\\' :: 'U' :: hexDigits 8 n

/-- The quoted form of a text. -/
def quoted (s : String) : String :=
  let cs := s.toList
  let q := enclosingQuote cs
  String.ofList (q :: cs.flatMap (quoteChar q) ++ [q])

/-- The quoted form of a byte string: the letter `b`, then the bytes as characters, all but the
    printable ASCII ones escaped. -/
def quotedBytes (bytes : List UInt8) : String :=
  let cs := bytes.map fun b => Char.ofNat b.toNat
  let q := enclosingQuote cs
  let show1 := fun c : Char =>
    if c.toNat < 0x80 then quoteChar q c else '\\' :: 'x' :: hexDigits 2 c.toNat
  String.ofList ('b' :: q :: cs.flatMap show1 ++ [q])

end TemplateTree.Text
