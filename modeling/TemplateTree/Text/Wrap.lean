import TemplateTree.Text.Blank
import TemplateTree.Text.Digit
import TemplateTree.Text.Word

/-!
# Wrapping lines

A line is cut into chunks: runs of white space, words, and the parts of hyphenated words. Chunks are put
into lines of a width; white space at the ends of lines is dropped, and words that are too long are
broken if that is asked for.
-/

namespace TemplateTree.Text.Wrap

/-- White space between words. -/
def isSpace (c : Char) : Bool :=
  (9 ≤ c.toNat && c.toNat ≤ 13) || c == ' '

/-- The characters that a dash between words may follow. -/
def precedesDash (c : Char) : Bool :=
  isWord c || ['!', '"', '\'', '&', '.', ',', '?'].contains c

/-- Word characters that are no digits. -/
def isWordLetter (c : Char) : Bool :=
  isWord c && !isDigit c

/-- Whether a letter, and another one behind an optional hyphen, come next. -/
def startsPart : List Char → Bool
  | a :: '-' :: b :: _ => isWordLetter a && isWordLetter b
  | a :: b :: _ => isWordLetter a && isWordLetter b
  | _ => false

/-- The length of a dash of at least two hyphens in front of a word. -/
def dashLength (s : List Char) : Nat :=
  let n := (s.takeWhile (· == '-')).length
  if 2 ≤ n && (s.drop n).head?.any isWord then n else 0

/-- Whether a word may be broken behind the hyphen that comes next. `before` is what stands before it,
    the last character first. -/
def breaksAfterHyphen (before after : List Char) : Bool :=
  let ending := match before with
    | a :: b :: rest =>
      (isWordLetter a && isWordLetter b)
        || (isWordLetter a && b == '-' && rest.head?.any isWordLetter)
    | _ => false
  ending && startsPart after

/-- The end of a word: its characters up to a place where it can be cut, and the rest. `before` is what
    stands before, the last character first. -/
def takeWord (before acc : List Char) : List Char → List Char × List Char
  | [] => (acc.reverse, [])
  | c :: rest =>
    if acc.isEmpty then takeWord (c :: before) [c] rest
    else if c == '-' && breaksAfterHyphen before rest then ((c :: acc).reverse, rest)
    else if isSpace c then (acc.reverse, c :: rest)
    else if before.head?.any precedesDash && dashLength (c :: rest) != 0 then
      (acc.reverse, c :: rest)
    else takeWord (c :: before) (c :: acc) rest

/-- The first chunk of a text, and the rest. -/
def takeChunk (hyphens : Bool) (before : List Char) (s : List Char) : List Char × List Char :=
  let spaces := s.takeWhile isSpace
  if !spaces.isEmpty then (spaces, s.drop spaces.length)
  else if !hyphens then
    let word := s.takeWhile (!isSpace ·)
    (word, s.drop word.length)
  else
    let n := if before.head?.any precedesDash then dashLength s else 0
    if n != 0 then (s.take n, s.drop n) else takeWord before [] s

/-- The chunks of a text. -/
def chunks (hyphens : Bool) : Nat → List Char → List Char → List (List Char)
  | 0, _, _ => []
  | _ + 1, _, [] => []
  | fuel + 1, before, s =>
    let (chunk, rest) := takeChunk hyphens before s
    chunk :: chunks hyphens fuel (chunk.reverse ++ before) rest

/-- Whether a chunk is white space. -/
def isBlankChunk (chunk : List Char) : Bool :=
  chunk.all isBlank

/-- The chunks that fit into a width, and the others. -/
def fit (width : Nat) : List (List Char) → List (List Char) × List (List Char)
  | [] => ([], [])
  | c :: rest =>
    if c.length ≤ width then
      let (line, more) := fit (width - c.length) rest
      (c :: line, more)
    else ([], c :: rest)

/-- Where a chunk that is too long is cut. -/
def cutPlace (hyphens : Bool) (space : Nat) (chunk : List Char) : Nat :=
  if !hyphens then space
  else
    let head := chunk.take space
    let tail := head.reverse.takeWhile (· != '-')
    let hyphen := head.length - tail.length
    if 1 < hyphen && (head.take (hyphen - 1)).any (· != '-') then hyphen else space

/-- A line with a part of the next chunk if that is too long for any line, and the chunks left. -/
def breakLong (breaks hyphens : Bool) (width : Nat) (line rest : List (List Char)) :
    List (List Char) × List (List Char) :=
  match rest with
  | chunk :: more =>
    if width < chunk.length then
      if breaks then
        let n := cutPlace hyphens (width - line.flatten.length) chunk
        (line ++ [chunk.take n], chunk.drop n :: more)
      else if line.isEmpty then ([chunk], more)
      else (line, rest)
    else (line, rest)
  | [] => (line, [])

/-- A line without white space at its end. -/
def dropBlankEnd (line : List (List Char)) : List (List Char) :=
  if line.getLast?.any isBlankChunk then line.dropLast else line

/-- Chunks put into lines. -/
def fill (breaks hyphens : Bool) (width : Nat) : Nat → Bool → List (List Char) → List (List Char)
  | 0, _, _ => []
  | _ + 1, _, [] => []
  | fuel + 1, isFirst, c :: rest =>
    let todo := if !isFirst && isBlankChunk c then rest else c :: rest
    let (line, todo) := fit width todo
    let (line, todo) := breakLong breaks hyphens width line todo
    match dropBlankEnd line with
    | [] => fill breaks hyphens width fuel isFirst todo
    | line => line.flatten :: fill breaks hyphens width fuel false todo

/-- A line wrapped to a width of at least one. -/
def wrap (breaks hyphens : Bool) (width : Nat) (s : List Char) : List (List Char) :=
  fill breaks hyphens width (2 * s.length + 2) true (chunks hyphens (s.length + 1) [] s)

end TemplateTree.Text.Wrap
