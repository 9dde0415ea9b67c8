/-!
# Searching texts

Where a text occurs in another, and what follows from that: cutting at a separator, replacing, counting.
Occurrences are found from the left and do not overlap. An empty text occurs before every character and
at the end.
-/

namespace TemplateTree.Text

/-- What follows a text at the start of another. -/
def after? : List Char → List Char → Option (List Char)
  | [], s => some s
  | _ :: _, [] => none
  | p :: ps, c :: cs => if p == c then after? ps cs else none

/-- Where a text first occurs in another: what stands before, and what follows. -/
def cut? (part : List Char) : List Char → Option (List Char × List Char)
  | [] => (after? part []).map fun rest => ([], rest)
  | c :: cs =>
    match after? part (c :: cs) with
    | some rest => some ([], rest)
    | none => (cut? part cs).map fun (before, rest) => (c :: before, rest)

/-- Whether a text occurs in another. -/
def occursIn (part s : List Char) : Bool :=
  (cut? part s).isSome

/-- Where a text last occurs in another: what stands before, and what follows. -/
def cutLast? (part s : List Char) : Option (List Char × List Char) :=
  (cut? part.reverse s.reverse).map fun (behind, before) => (before.reverse, behind.reverse)

/-- The pieces of a text between the occurrences of a separator, of which at most `limit` count; the
    separator is not empty. -/
def splitWithin (separator : List Char) : Nat → List Char → List (List Char)
  | 0, s => [s]
  | limit + 1, s =>
    match cut? separator s with
    | some (before, rest) => before :: splitWithin separator limit rest
    | none => [s]

/-- As `splitWithin`, with the occurrences counted from the right. -/
def splitLastWithin (separator : List Char) (limit : Nat) (s : List Char) : List (List Char) :=
  ((splitWithin separator.reverse limit s.reverse).map List.reverse).reverse

/-- A text with another put before every character and at the end, at most `limit` times. -/
def interleave (new : List Char) : Nat → List Char → List Char
  | 0, s => s
  | _ + 1, [] => new
  | limit + 1, c :: cs => new ++ c :: interleave new limit cs

/-- A text with at most `limit` occurrences of one text replaced by another. -/
def replaceWithin (old new : List Char) (limit : Nat) (s : List Char) : List Char :=
  if old.isEmpty then interleave new limit s
  else new.intercalate (splitWithin old limit s)

/-- A text with all occurrences of one text replaced by another. -/
def replaceAll (old new s : List Char) : List Char :=
  replaceWithin old new (s.length + 1) s

/-- How often a text occurs in another. -/
def occurrences (part s : List Char) : Nat :=
  if part.isEmpty then s.length + 1 else (splitWithin part s.length s).length - 1

/-- White space at the start of a text is dropped, and the text cut at runs of white space, of which at
    most `limit` count. The last piece keeps its white space at the end. -/
def splitBlankWithin (isBlank : Char → Bool) : Nat → List Char → List (List Char)
  | limit, s =>
    match limit, s.dropWhile isBlank with
    | _, [] => []
    | 0, s => [s]
    | limit + 1, s =>
      s.takeWhile (!isBlank ·) :: splitBlankWithin isBlank limit (s.dropWhile (!isBlank ·))

end TemplateTree.Text
