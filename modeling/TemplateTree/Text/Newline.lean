/-!
# Line breaks

Text files are read with every line break turned into a line feed. Splitting a text into lines, on
the other hand, also knows the breaks of other conventions, such as the form feed and the Unicode line
separator.
-/

namespace TemplateTree.Text

/-- Turns carriage returns, alone or in front of a line feed, into line feeds. -/
def normalizeBreaks : List Char → List Char
  | [] => []
  | '\r' :: '\n' :: rest => '\n' :: normalizeBreaks rest
  | '\r' :: rest => '\n' :: normalizeBreaks rest
  | c :: rest => c :: normalizeBreaks rest

/-- `String` form of `normalizeBreaks`. -/
def normalizeNewlines (s : String) : String :=
  String.ofList (normalizeBreaks s.toList)

/-- The single characters that end a line. -/
def isLineBreak (c : Char) : Bool :=
  let n := c.toNat
  (10 ≤ n && n ≤ 13) || (28 ≤ n && n ≤ 30) || n == 0x85 || n == 0x2028 || n == 0x2029

/-- The lines of a text. A break at the end opens no further line; with `keepEnds` every line keeps
    its break. -/
def lines (keepEnds : Bool) (s : List Char) : List (List Char) :=
  go [] s
where
  /-- The lines of the text whose current line starts with `cur`, reversed. -/
  go (cur : List Char) : List Char → List (List Char)
    | [] => if cur.isEmpty then [] else [cur.reverse]
    | '\r' :: '\n' :: rest =>
      (if keepEnds then ('\n' :: '\r' :: cur).reverse else cur.reverse) :: go [] rest
    | c :: rest =>
      if isLineBreak c then
        (if keepEnds then (c :: cur).reverse else cur.reverse) :: go [] rest
      else go (c :: cur) rest

/-- How many line feeds a text holds. -/
def lineFeeds (s : List Char) : Nat :=
  s.count '\n'

end TemplateTree.Text
