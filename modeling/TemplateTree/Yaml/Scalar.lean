import TemplateTree.Yaml.Token

/-!
# Scalars in YAML texts

The forms in which a scalar can stand in a text: plain, between quotes, or as a block of lines. A
cursor knows its line and column, because both have a meaning.

* `Cursor`: the rest of a text, and where it starts.
* `plain`, `flow`, `block`: the three forms.
-/

namespace TemplateTree.Yaml

/-! ## Places in a text -/

/-- The rest of a text, and the index, line and column at which it starts. -/
structure Cursor where
  rest : List Char
  index : Nat
  line : Nat
  column : Nat
  deriving Inhabited

/-- Whether a character ends a line. -/
def isBreak (c : Char) : Bool :=
  c == '\n' || c == '\r' || c.toNat == 0x85 || c.toNat == 0x2028 || c.toNat == 0x2029

/-- The mark that may stand at the start of a text and has no width. -/
def isByteOrderMark (c : Char) : Bool :=
  c.toNat == 0xFEFF

namespace Cursor

/-- The character `k` places further. -/
def ahead? (c : Cursor) (k : Nat) : Option Char :=
  c.rest[k]?

/-- The character at the cursor. -/
def here? (c : Cursor) : Option Char :=
  c.rest.head?

/-- Whether the character at the cursor fulfils a test. -/
def sees (c : Cursor) (p : Char → Bool) : Bool :=
  c.here?.any p

/-- Whether a character stands at the cursor. -/
def seesChar (c : Cursor) (x : Char) : Bool :=
  c.sees (· == x)

/-- Whether a line ends `k` places further. -/
def endsLineAt (c : Cursor) (k : Nat) : Bool :=
  (c.ahead? k).all isBreak

/-- Whether a word has to end `k` places further. -/
def endsWordAt (c : Cursor) (k : Nat) : Bool :=
  (c.ahead? k).all fun x => x == ' ' || x == '\t' || isBreak x

/-- Whether a space or the end of the line comes next. -/
def endsPart (c : Cursor) : Bool :=
  c.here?.all fun x => x == ' ' || isBreak x

/-- The cursor one character further. -/
def next (c : Cursor) : Cursor :=
  match c.rest with
  | [] => c
  | x :: rest =>
    if isBreak x && !(x == '\r' && rest.head? == some '\n') then ⟨rest, c.index + 1, c.line + 1, 0⟩
    else if isByteOrderMark x then { c with rest, index := c.index + 1 }
    else { c with rest, index := c.index + 1, column := c.column + 1 }

/-- The cursor `n` characters further. -/
def skip (c : Cursor) : Nat → Cursor
  | 0 => c
  | n + 1 => c.next.skip n

/-- The characters up to the first that fails a test, and the cursor behind them. -/
def takeWhile (c : Cursor) (p : Char → Bool) : List Char × Cursor :=
  let taken := c.rest.takeWhile p
  (taken, c.skip taken.length)

/-- The cursor behind spaces. -/
def skipSpaces (c : Cursor) : Cursor :=
  (c.takeWhile (· == ' ')).2

/-- The cursor at the end of the line. -/
def skipLine (c : Cursor) : Cursor :=
  (c.takeWhile (!isBreak ·)).2

/-- A line break as it counts in a scalar, and the cursor behind it. -/
def takeBreak (c : Cursor) : List Char × Cursor :=
  match c.rest with
  | '\r' :: '\n' :: _ => (['\n'], c.skip 2)
  | x :: _ =>
    if !isBreak x then ([], c)
    else if x.toNat == 0x2028 || x.toNat == 0x2029 then ([x], c.next)
    else (['\n'], c.next)
  | [] => ([], c)

/-- Whether a mark between documents stands at the cursor. -/
def seesMark (c : Cursor) : Bool :=
  (c.rest.take 3 == "---".toList || c.rest.take 3 == "...".toList) && c.endsWordAt 3

end Cursor

/-- The cursor behind a comment and the end of its line. Something else before the end is a fault. -/
def finishLine (c : Cursor) : Except Fault Cursor :=
  let c := c.skipSpaces
  let c := if c.seesChar '#' then c.skipLine else c
  if c.endsLineAt 0 then .ok c.takeBreak.2 else .error .malformed

/-- A line break and the breaks after it as they count in a scalar: one break is a space. -/
def foldBreaks (first : List Char) (others : List Char) : List Char :=
  if first != ['\n'] then first ++ others
  else if others.isEmpty then [' '] else others

/-! ## Plain scalars -/

/-- The indicators that have a meaning inside brackets. -/
def isFlowIndicator (c : Char) : Bool :=
  c == ',' || c == '[' || c == ']' || c == '{' || c == '}'

/-- The part of a plain scalar up to the next blank or indicator. -/
def plainPart (inFlow : Bool) : List Char → List Char
  | [] => []
  | c :: rest =>
    let ends := fun (x : Char) => x == ' ' || x == '\t' || isBreak x
    if ends c then []
    else if c == ':' && rest.head?.all (fun x => ends x || (inFlow && isFlowIndicator x)) then []
    else if inFlow && (isFlowIndicator c || c == '?') then []
    else c :: plainPart inFlow rest

/-- Line breaks and spaces inside a plain scalar, unless a mark between documents ends it. -/
def plainBreaks : Nat → Cursor → List Char → Option (List Char × Cursor)
  | 0, c, acc => some (acc, c)
  | fuel + 1, c, acc =>
    if c.seesChar ' ' then plainBreaks fuel c.next acc
    else if c.sees isBreak then
      let (b, c) := c.takeBreak
      if c.seesMark then none else plainBreaks fuel c (acc ++ b)
    else some (acc, c)

/-- What is between two parts of a plain scalar: the text it counts as, where it ends, and whether it
    holds a line break. The scalar ends here if there is no text. -/
def plainGap (c : Cursor) : List Char × Cursor × Bool :=
  let (spaces, c) := c.takeWhile (· == ' ')
  if c.sees isBreak then
    let (b, after) := c.takeBreak
    if after.seesMark then ([], after, true)
    else
      match plainBreaks (after.rest.length + 1) after [] with
      | none => ([], after, true)
      | some (others, c) => (foldBreaks b others, c, true)
  else (spaces, c, false)

/-- A plain scalar: its text, where it ends, and whether what follows starts a line. Its lines are
    indented by at least `indent`. -/
def plain (inFlow : Bool) (indent : Int) :
    Nat → Cursor → List Char → List Char → Bool → List Char × Cursor × Bool
  | 0, c, text, _, broken => (text, c, broken)
  | fuel + 1, c, text, gap, broken =>
    if c.seesChar '#' then (text, c, broken)
    else
      let part := plainPart inFlow c.rest
      if part.isEmpty then (text, c, broken)
      else
        let text := text ++ gap ++ part
        let (gap, c, broken) := plainGap (c.skip part.length)
        if gap.isEmpty || c.seesChar '#' || (!inFlow && (c.column : Int) < indent) then
          (text, c, broken)
        else plain inFlow indent fuel c text gap broken

/-! ## Scalars between quotes -/

/-- The characters that letters behind a backslash stand for. -/
def escapes : List (Char × Nat) :=
  [('0', 0), ('a', 7), ('b', 8), ('t', 9), ('\t', 9), ('n', 10), ('v', 11), ('f', 12), ('r', 13),
    ('e', 27), (' ', 32), ('"', 34), ('\\', 92), ('/', 47), ('N', 0x85), ('_', 0xA0), ('L', 0x2028),
    ('P', 0x2029)]

/-- How many hexadecimal digits follow a letter behind a backslash. -/
def escapeLength? (c : Char) : Option Nat :=
  if c == 'x' then some 2 else if c == 'u' then some 4 else if c == 'U' then some 8 else none

/-- The value of a hexadecimal digit. -/
def hexValue? (c : Char) : Option Nat :=
  let n := c.toNat
  if 0x30 ≤ n && n ≤ 0x39 then some (n - 0x30)
  else if 0x41 ≤ n && n ≤ 0x46 then some (n - 0x37)
  else if 0x61 ≤ n && n ≤ 0x66 then some (n - 0x57)
  else none

/-- The number that hexadecimal digits denote, if all of them are there. -/
def hexNumber? (digits : List Char) (length : Nat) : Option Nat :=
  if digits.length != length then none
  else (digits.mapM hexValue?).map fun vs => vs.foldl (fun n v => n * 16 + v) 0

/-- Code points of which the first two are the halves of one. -/
def joinHalves (high low : Nat) : Option Char :=
  if 0xD800 ≤ high && high ≤ 0xDBFF && 0xDC00 ≤ low && low ≤ 0xDFFF then
    some (Char.ofNat (0x10000 + (high - 0xD800) * 0x400 + (low - 0xDC00)))
  else none

/-- The other half of a code point that is written in two escapes. -/
def otherHalf? (high : Nat) (rest : List Char) : Option Char :=
  match rest with
  | '\\' :: 'u' :: rest => (hexNumber? (rest.take 4) 4).bind (joinHalves high)
  | _ => none

/-- The character of a code point in an escape, and how many characters the escape and its other half
    take. -/
def escapedChar (length code : Nat) (rest : List Char) : Except Fault (Char × Nat) :=
  if 0x110000 ≤ code then .error (.badValue "chr() arg not in range(0x110000)")
  else
    match otherHalf? code rest with
    | some c => .ok (c, length + 6)
    | none => .ok (Char.ofNat code, length)

/-- Line breaks inside quotes. A mark between documents is a fault there. -/
def flowBreaks : Nat → Cursor → List Char → Except Fault (List Char × Cursor)
  | 0, c, acc => .ok (acc, c)
  | fuel + 1, c, acc =>
    if c.seesMark then .error .malformed
    else
      let c := (c.takeWhile fun x => x == ' ' || x == '\t').2
      if c.sees isBreak then
        let (b, c) := c.takeBreak
        flowBreaks fuel c (acc ++ b)
      else .ok (acc, c)

/-- The rest of a scalar between quotes. `acc` is its text so far, reversed. -/
def flow (quote : Char) : Nat → Cursor → List Char → Except Fault (List Char × Cursor)
  | 0, _, _ => .error .malformed
  | fuel + 1, c, acc =>
    let isDouble := quote == '"'
    match c.rest with
    | [] => .error .malformed
    | x :: rest =>
      if x == quote then
        if !isDouble && rest.head? == some '\'' then flow quote fuel (c.skip 2) ('\'' :: acc)
        else .ok (acc.reverse, c.next)
      else if x == ' ' || x == '\t' || isBreak x then
        let (spaces, c) := c.takeWhile fun x => x == ' ' || x == '\t'
        if c.rest.isEmpty then .error .malformed
        else if c.sees isBreak then
          let (b, c) := c.takeBreak
          match flowBreaks (c.rest.length + 1) c [] with
          | .error f => .error f
          | .ok (others, c) => flow quote fuel c ((foldBreaks b others).reverse ++ acc)
        else flow quote fuel c (spaces.reverse ++ acc)
      else if isDouble && x == '\\' then
        let c := c.next
        match c.rest with
        | [] => .error .malformed
        | e :: rest =>
          match escapes.lookup e, escapeLength? e with
          | some n, _ => flow quote fuel c.next (Char.ofNat n :: acc)
          | none, some length =>
            match hexNumber? (rest.take length) length with
            | none => .error .malformed
            | some code =>
              match escapedChar length code (rest.drop length) with
              | .error f => .error f
              | .ok (x, used) => flow quote fuel (c.next.skip used) (x :: acc)
          | none, none =>
            if !isBreak e then .error .malformed
            else
              let (_, c) := c.takeBreak
              match flowBreaks (c.rest.length + 1) c [] with
              | .error f => .error f
              | .ok (others, c) => flow quote fuel c (others.reverse ++ acc)
      else flow quote fuel c.next (x :: acc)

/-! ## Blocks of lines -/

/-- What becomes of the line breaks at the end of a block: one is kept, all, or none. -/
inductive Chomping
  | clip
  | keep
  | strip
  deriving DecidableEq, Repr

/-- A mark for the end of a block. -/
def chomping? : Option Char → Option Chomping
  | some '+' => some .keep
  | some '-' => some .strip
  | _ => none

/-- The head of a block: what becomes of its end, and how much it is indented if that is said. -/
def blockHead (c : Cursor) : Except Fault (Chomping × Option Nat × Cursor) := do
  let digit := fun (c : Cursor) => c.here?.bind fun x =>
    if '0' ≤ x && x ≤ '9' then some (x.toNat - 0x30) else none
  let (chomping, c) := match chomping? c.here? with
    | some m => (some m, c.next)
    | none => (none, c)
  let (increment, c) := match digit c with
    | some n => (some n, c.next)
    | none => (none, c)
  if increment == some 0 then throw .malformed
  let (chomping, c) := match chomping, increment.isSome, chomping? c.here? with
    | none, true, some m => (some m, c.next)
    | m, _, _ => (m, c)
  if !c.endsPart then throw .malformed
  return (chomping.getD .clip, increment, ← finishLine c)

/-- The line breaks before the first line of a block, and the greatest indentation up to it. -/
def blockStart : Nat → Cursor → List Char → Nat → List Char × Nat × Cursor
  | 0, c, breaks, deepest => (breaks, deepest, c)
  | fuel + 1, c, breaks, deepest =>
    if c.seesChar ' ' then blockStart fuel c.next breaks (max deepest c.next.column)
    else if c.sees isBreak then
      let (b, c) := c.takeBreak
      blockStart fuel c (breaks ++ b) deepest
    else (breaks, deepest, c)

/-- The cursor behind spaces, but no further than a column. -/
def skipIndent (indent : Nat) : Nat → Cursor → Cursor
  | 0, c => c
  | fuel + 1, c =>
    if c.column < indent && c.seesChar ' ' then skipIndent indent fuel c.next else c

/-- Empty lines of a block that is indented by `indent`. -/
def blockBreaks (indent : Nat) : Nat → Cursor → List Char → List Char × Cursor
  | 0, c, acc => (acc, c)
  | fuel + 1, c, acc =>
    let c := skipIndent indent indent c
    if c.sees isBreak then
      let (b, c) := c.takeBreak
      blockBreaks indent fuel c (acc ++ b)
    else (acc, c)

/-- The lines of a block. `breaks` are the empty lines before the cursor. The result has the text, the
    last line break, and the empty lines after it. -/
def blockLines (folds : Bool) (indent : Nat) :
    Nat → Cursor → List Char → List Char → List Char × List Char × List Char × Cursor
  | 0, c, text, breaks => (text, [], breaks, c)
  | fuel + 1, c, text, breaks =>
    if c.column != indent || c.rest.isEmpty then (text, [], breaks, c)
    else
      let isBlank := fun (x : Char) => x == ' ' || x == '\t'
      let startsFull := !c.sees isBlank
      let (line, c) := c.takeWhile (!isBreak ·)
      let text := text ++ breaks ++ line
      let (b, c) := c.takeBreak
      let (breaks, c) := blockBreaks indent (c.rest.length + 1) c []
      if c.column == indent && !c.rest.isEmpty then
        let joint :=
          if folds && b == ['\n'] && startsFull && !c.sees isBlank then
            if breaks.isEmpty then [' '] else []
          else b
        blockLines folds indent fuel c (text ++ joint) breaks
      else (text, b, breaks, c)

/-- A block of lines: its text, and where it ends. `outer` is the indentation around it. -/
def block (folds : Bool) (outer : Int) (c : Cursor) : Except Fault (List Char × Cursor) := do
  let (chomping, increment, c) ← blockHead c.next
  let least := (outer + 1).toNat.max 1
  let (breaks, indent, c) := match increment with
    | none =>
      let (breaks, deepest, c) := blockStart (c.rest.length + 1) c [] 0
      (breaks, max least deepest, c)
    | some n =>
      let indent := least + n - 1
      let (breaks, c) := blockBreaks indent (c.rest.length + 1) c []
      (breaks, indent, c)
  let (text, last, breaks, c) := blockLines folds indent (c.rest.length + 1) c [] breaks
  let tail := match chomping with
    | .strip => []
    | .clip => last
    | .keep => last ++ breaks
  return (text ++ tail, c)

end TemplateTree.Yaml
