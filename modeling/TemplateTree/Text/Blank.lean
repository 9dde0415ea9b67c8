/-!
# Blank characters

A blank is any character that Unicode counts as white space, together with the four information
separators U+001C to U+001F. Trimming and splitting at blanks use this one notion everywhere.
-/

namespace TemplateTree.Text

/-- White space: the ASCII controls from tab to carriage return, the information separators, the
    space, and the Unicode spaces and line separators. -/
def isBlank (c : Char) : Bool :=
  let n := c.toNat
  (9 ≤ n && n ≤ 13) || (28 ≤ n && n ≤ 32) || n == 0x85 || n == 0xA0 || n == 0x1680
    || (0x2000 ≤ n && n ≤ 0x200A) || n == 0x2028 || n == 0x2029 || n == 0x202F || n == 0x205F
    || n == 0x3000

/-- Drops the leading characters that satisfy `p`. -/
def trimLeftBy (p : Char → Bool) (s : List Char) : List Char :=
  s.dropWhile p

/-- Drops the trailing characters that satisfy `p`. -/
def trimRightBy (p : Char → Bool) (s : List Char) : List Char :=
  (s.reverse.dropWhile p).reverse

/-- Drops the characters that satisfy `p` at both ends. -/
def trimBy (p : Char → Bool) (s : List Char) : List Char :=
  trimRightBy p (trimLeftBy p s)

/-- Drops the blanks at both ends. -/
def trim (s : List Char) : List Char :=
  trimBy isBlank s

/-- Drops the trailing blanks. -/
def trimRight (s : List Char) : List Char :=
  trimRightBy isBlank s

/-- `String` form of `trim`. -/
def trimString (s : String) : String :=
  String.ofList (trim s.toList)

/-- The words of a text: its maximal runs of characters that are not blank. -/
def words (s : List Char) : List (List Char) :=
  let (cur, done) := s.foldr (fun c (cur, done) =>
    if isBlank c then ([], if cur.isEmpty then done else cur :: done) else (c :: cur, done)) ([], [])
  if cur.isEmpty then done else cur :: done

end TemplateTree.Text
