/-!
# Glob patterns

A pattern is matched against a whole text: `*` stands for any characters, slashes and line breaks
included, `?` for any one character, and brackets for one character of a class. Letter case counts, and
a bracket without its partner stands for itself.

* `parse`: the pattern's parts.
* `matches`: whether a text matches.
-/

namespace TemplateTree.Glob

/-- What one part of a pattern stands for. -/
inductive Part
  | anyText
  | anyChar
  | literal (c : Char)
  | oneOf (negated : Bool) (ranges : List (Char × Char))
  deriving DecidableEq, Repr

/-- The inside of a bracket and what follows it: the first closing bracket that is neither the first
    character nor the first after an exclamation mark ends it. -/
def bracket? (s : List Char) : Option (List Char × List Char) :=
  let (head, rest) :=
    match s with
    | '!' :: ']' :: r => (['!', ']'], r)
    | '!' :: r => (['!'], r)
    | ']' :: r => ([']'], r)
    | r => ([], r)
  let inside := rest.takeWhile (· != ']')
  match rest.dropWhile (· != ']') with
  | [] => none
  | _ :: after => some (head ++ inside, after)

/-- Cuts the inside of a bracket at the hyphens that form ranges. A hyphen at the start or at the end,
    and one that comes within two characters of the last range's hyphen, is a plain character. -/
def chunks (s : List Char) : List (List Char) :=
  go (s.length + 1) s 1
where
  /-- Cuts at the first hyphen from position `least` on. -/
  go : Nat → List Char → Nat → List (List Char)
    | 0, s, _ => [s]
    | fuel + 1, s, least =>
      let at? := (s.drop least).findIdx? (· == '-')
      match at? with
      | none => [s]
      | some i =>
        let k := least + i
        s.take k :: go fuel (s.drop (k + 1)) 2

/-- Joins the pieces at their hyphens: a range between the last character of a piece and the first of
    the next, and single characters for the rest. An empty range is dropped. -/
def joinChunks : List (List Char) → List (Char × Char)
  | [] => []
  | [piece] => piece.map fun c => (c, c)
  | piece :: next :: more =>
    match piece.getLast?, next with
    | some low, high :: tail =>
      let singles := piece.dropLast.map fun c => (c, c)
      let rest := joinChunks (tail :: more)
      if low.toNat ≤ high.toNat then singles ++ (low, high) :: rest else singles ++ rest
    | _, _ => (piece ++ '-' :: next).map (fun c => (c, c)) ++ joinChunks more
termination_by pieces => pieces.length

/-- The class between two brackets. A hyphen at the end belongs to the piece before it. -/
def classOf (inside : List Char) : Part :=
  let (negated, body) :=
    match inside with
    | '!' :: rest => (true, rest)
    | rest => (false, rest)
  let pieces := chunks body
  let pieces :=
    match pieces.getLast?, pieces.dropLast.getLast? with
    | some [], some before => pieces.dropLast.dropLast ++ [before ++ ['-']]
    | _, _ => pieces
  .oneOf negated (joinChunks pieces)

/-- The parts of a pattern. -/
def parse (pattern : List Char) : List Part :=
  go (pattern.length + 1) pattern
where
  /-- Reads on with a bound on the number of parts. -/
  go : Nat → List Char → List Part
    | 0, _ => []
    | _, [] => []
    | fuel + 1, '*' :: rest => .anyText :: go fuel rest
    | fuel + 1, '?' :: rest => .anyChar :: go fuel rest
    | fuel + 1, '[' :: rest =>
      match bracket? rest with
      | some (inside, after) => classOf inside :: go fuel after
      | none => .literal '[' :: go fuel rest
    | fuel + 1, c :: rest => .literal c :: go fuel rest

/-- Whether a character fits a part that stands for one character. -/
def fits (c : Char) : Part → Bool
  | .anyText => false
  | .anyChar => true
  | .literal d => c == d
  | .oneOf negated ranges =>
    (ranges.any fun (low, high) => low.toNat ≤ c.toNat && c.toNat ≤ high.toNat) != negated

/-- Whether the parts match a text. -/
def matchParts : List Part → List Char → Bool
  | [], s => s.isEmpty
  | .anyText :: parts, s => anySuffix parts s
  | part :: parts, s =>
    match s with
    | [] => false
    | c :: rest => fits c part && matchParts parts rest
where
  /-- Whether the parts match some suffix of a text. -/
  anySuffix (parts : List Part) : List Char → Bool
    | [] => matchParts parts []
    | c :: rest => matchParts parts (c :: rest) || anySuffix parts rest

/-- Whether a text matches a pattern (`fnmatchcase`). -/
def isMatch (pattern text : String) : Bool :=
  matchParts (parse pattern.toList) text.toList

end TemplateTree.Glob
