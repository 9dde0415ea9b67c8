import TemplateTree.Yaml.Scalar

/-!
# Lexing YAML

Turns a text into tokens. Indentation opens and closes blocks. A key in front of a colon is only known
to be one when the colon comes: until then its place is remembered, and the tokens that make it a key
are put in there.

* `tokens`: the tokens of a text.
-/

namespace TemplateTree.Yaml

/-- A place at which a key may have begun: how many tokens were before it, whether it has to be a key,
    and where it is. -/
structure KeyPlace where
  tokens : Nat
  isRequired : Bool
  index : Nat
  line : Nat
  column : Nat
  deriving Inhabited

/-- The state of the lexer. `indents` are the columns of the blocks around, the innermost first; the
    places of keys are kept by the number of open brackets. -/
structure Lexer where
  cursor : Cursor
  tokens : Array Token
  brackets : Nat
  indents : List Int
  allowsKey : Bool
  keys : List (Nat × KeyPlace)
  deriving Inhabited

namespace Lexer

/-- The column of the innermost block, or -1. -/
def indent (s : Lexer) : Int :=
  s.indents.head?.getD (-1)

/-- Whether brackets are open. -/
def inFlow (s : Lexer) : Bool :=
  s.brackets != 0

/-- Adds a token. -/
def push (s : Lexer) (t : Token) : Lexer :=
  { s with tokens := s.tokens.push t }

/-- The column of the cursor. -/
def column (s : Lexer) : Int :=
  s.cursor.column

/-! ## Blocks and keys -/

/-- Closes the blocks that are indented by more than a column. -/
def unwind (column : Int) : List Int → Array Token → List Int × Array Token
  | [], ts => ([], ts)
  | i :: rest, ts => if column < i then unwind column rest (ts.push .blockEnd) else (i :: rest, ts)

/-- Closes the blocks that are indented by more than a column. Inside brackets indentation has no
    meaning. -/
def closeBlocks (s : Lexer) (column : Int) : Lexer :=
  if s.inFlow then s
  else
    let (indents, tokens) := unwind column s.indents s.tokens
    { s with indents, tokens }

/-- Opens a block at a column if it is indented by more than the block around it. `tokens` is where its
    first token belongs. -/
def openBlock (s : Lexer) (column : Int) (start : Token) (tokens : Nat) : Lexer :=
  if s.indent < column then
    { s with
      indents := column :: s.indents
      tokens := s.tokens.insertIdxIfInBounds tokens start }
  else s

/-- Forgets the places of keys that cannot be keys any more. -/
def dropStaleKeys (s : Lexer) : Except Fault Lexer :=
  let isStale := fun (k : KeyPlace) =>
    k.line != s.cursor.line || 1024 < s.cursor.index - k.index
  if s.keys.any fun (_, k) => isStale k && k.isRequired then .error .malformed
  else .ok { s with keys := s.keys.filter fun (_, k) => !isStale k }

/-- Forgets the place of a key between the innermost brackets. -/
def dropKey (s : Lexer) : Except Fault Lexer :=
  if s.keys.any fun (level, k) => level == s.brackets && k.isRequired then .error .malformed
  else .ok { s with keys := s.keys.filter fun (level, _) => level != s.brackets }

/-- Remembers that a key may begin here. -/
def saveKey (s : Lexer) : Except Fault Lexer := do
  if !s.allowsKey then return s
  let isRequired := !s.inFlow && s.indent == s.column
  let s ← s.dropKey
  let c := s.cursor
  let place : KeyPlace := ⟨s.tokens.size, isRequired, c.index, c.line, c.column⟩
  return { s with keys := (s.brackets, place) :: s.keys }

/-- Adds a token of so many characters. -/
def take (s : Lexer) (t : Token) (length : Nat) : Lexer :=
  { s.push t with cursor := s.cursor.skip length }

/-! ## Indicators -/

/-- A mark between documents. -/
def takeMark (s : Lexer) (t : Token) : Except Fault Lexer := do
  let s ← (s.closeBlocks (-1)).dropKey
  return { s with allowsKey := false }.take t 3

/-- A bracket that opens. -/
def openBracket (s : Lexer) (t : Token) : Except Fault Lexer := do
  let s ← s.saveKey
  return { s with brackets := s.brackets + 1, allowsKey := true }.take t 1

/-- A bracket that closes. -/
def closeBracket (s : Lexer) (t : Token) : Except Fault Lexer := do
  let s ← s.dropKey
  return { s with brackets := s.brackets - 1, allowsKey := false }.take t 1

/-- A comma between brackets. -/
def takeComma (s : Lexer) : Except Fault Lexer := do
  let s ← { s with allowsKey := true }.dropKey
  return s.take .flowEntry 1

/-- The dash of a block entry. -/
def takeDash (s : Lexer) : Except Fault Lexer := do
  if !s.inFlow && !s.allowsKey then throw .malformed
  let s := if s.inFlow then s else s.openBlock s.column .blockSequenceStart s.tokens.size
  let s ← { s with allowsKey := true }.dropKey
  return s.take .blockEntry 1

/-- The question mark in front of a key. -/
def takeQuestion (s : Lexer) : Except Fault Lexer := do
  if !s.inFlow && !s.allowsKey then throw .malformed
  let s := if s.inFlow then s else s.openBlock s.column .blockMappingStart s.tokens.size
  let s ← { s with allowsKey := !s.inFlow }.dropKey
  return s.take .key 1

/-- The colon behind a key. -/
def takeColon (s : Lexer) : Except Fault Lexer := do
  match s.keys.lookup s.brackets with
  | some k =>
    let s := { s with
      keys := s.keys.filter fun (level, _) => level != s.brackets
      tokens := s.tokens.insertIdxIfInBounds k.tokens .key
      allowsKey := false }
    let s := if s.inFlow then s else s.openBlock k.column .blockMappingStart k.tokens
    return s.take .value 1
  | none =>
    if !s.inFlow && !s.allowsKey then throw .malformed
    let s := if s.inFlow then s else s.openBlock s.column .blockMappingStart s.tokens.size
    let s ← { s with allowsKey := !s.inFlow }.dropKey
    return s.take .value 1

/-! ## Words with a mark -/

/-- The characters of names. -/
def isNameChar (c : Char) : Bool :=
  ('0' ≤ c && c ≤ '9') || ('A' ≤ c && c ≤ 'Z') || ('a' ≤ c && c ≤ 'z') || c == '-' || c == '_'

/-- The name of an anchor or a reference to one. -/
def takeName (s : Lexer) (make : List Char → Token) : Except Fault Lexer := do
  let s ← s.saveKey
  let (name, c) := s.cursor.next.takeWhile isNameChar
  let endsName := c.endsWordAt 0 || c.sees ("?:,]\x7d%@`".toList.contains ·)
  if name.isEmpty || !endsName then throw .malformed
  return { (s.push (make name)) with cursor := c, allowsKey := false }

/-- The handle of a tag. -/
def takeHandle (c : Cursor) : Except Fault (List Char × Cursor) := do
  if !c.seesChar '!' then throw .malformed
  let (name, after) := c.next.takeWhile isNameChar
  if name.isEmpty && after.seesChar ' ' then return (['!'], after)
  if !after.seesChar '!' then throw .malformed
  return ('!' :: name ++ ['!'], after.next)

/-- The characters of the rest of a tag. -/
def isTagChar (c : Char) : Bool :=
  isNameChar c || ";/?:@&=+$,_.!~*'()[]%".toList.contains c

/-- The bytes that percent signs with two digits stand for. -/
def percentBytes : Nat → Cursor → List UInt8 → Except Fault (List UInt8 × Cursor)
  | 0, c, acc => .ok (acc, c)
  | fuel + 1, c, acc =>
    if !c.seesChar '%' then .ok (acc, c)
    else
      match hexNumber? ((c.rest.drop 1).take 2) 2 with
      | some n => percentBytes fuel (c.skip 3) (acc ++ [UInt8.ofNat n])
      | none => .error .malformed

/-- The rest of a tag. -/
def takeTagText : Nat → Cursor → List Char → Except Fault (List Char × Cursor)
  | 0, c, acc => .ok (acc, c)
  | fuel + 1, c, acc =>
    if c.seesChar '%' then
      match percentBytes (c.rest.length + 1) c [] with
      | .error f => .error f
      | .ok (bytes, c) =>
        match String.fromUTF8? ⟨bytes.toArray⟩ with
        | some s => takeTagText fuel c (acc ++ s.toList)
        | none => .error .malformed
    else if c.sees isTagChar then
      let (part, c) := c.takeWhile fun x => isTagChar x && x != '%'
      takeTagText fuel c (acc ++ part)
    else .ok (acc, c)

/-- The rest of a tag, which may not be empty. -/
def tagText (c : Cursor) : Except Fault (List Char × Cursor) := do
  let (text, after) ← takeTagText (c.rest.length + 1) c []
  if after.index == c.index then throw .malformed
  return (text, after)

/-- Whether the first word behind a cursor holds an exclamation mark. -/
def hasHandle (c : Cursor) : Bool :=
  (c.rest.takeWhile fun x => x != ' ' && !isBreak x).contains '!'

/-- A tag. -/
def tagToken (c : Cursor) : Except Fault (Token × Cursor) := do
  let (handle, text, c) ←
    if c.ahead? 1 == some '<' then
      let (text, c) ← tagText (c.skip 2)
      if !c.seesChar '>' then throw .malformed
      pure (none, text, c.next)
    else if c.endsWordAt 1 then pure (none, ['!'], c.next)
    else if hasHandle c.next then
      let (handle, c) ← takeHandle c
      let (text, c) ← tagText c
      pure (some handle, text, c)
    else
      let (text, c) ← tagText c.next
      pure (some ['!'], text, c)
  if !c.endsPart then throw .malformed
  return (.tag handle text, c)

/-- A tag, which may belong to a key. -/
def takeTag (s : Lexer) : Except Fault Lexer := do
  let s ← s.saveKey
  let (t, cursor) ← tagToken s.cursor
  return { s.push t with cursor, allowsKey := false }

/-! ## Directives -/

/-- A number of the version. -/
def versionNumber (c : Cursor) : Except Fault (Nat × Cursor) := do
  let (ds, c) := c.takeWhile fun x => '0' ≤ x && x ≤ '9'
  if ds.isEmpty then throw .malformed
  return (ds.foldl (fun n x => n * 10 + (x.toNat - 0x30)) 0, c)

/-- What a directive says. -/
def directive (c : Cursor) : Except Fault (Directive × Cursor) := do
  let (name, c) := c.takeWhile isNameChar
  if name.isEmpty || !c.endsPart then throw .malformed
  if name == "YAML".toList then
    let (major, c) ← versionNumber c.skipSpaces
    if !c.seesChar '.' then throw .malformed
    let (_, c) ← versionNumber c.next
    if !c.endsPart then throw .malformed
    return (.version major, c)
  else if name == "TAG".toList then
    let (handle, c) ← takeHandle c.skipSpaces
    if !c.seesChar ' ' then throw .malformed
    let (text, c) ← tagText c.skipSpaces
    if !c.endsPart then throw .malformed
    return (.handle handle text, c)
  else return (.other, c.skipLine)

/-- A directive and the end of its line. -/
def takeDirective (s : Lexer) : Except Fault Lexer := do
  let s ← (s.closeBlocks (-1)).dropKey
  let (d, c) ← directive s.cursor.next
  return { s.push (.directive d) with cursor := ← finishLine c, allowsKey := false }

/-! ## Scalars -/

/-- A block of lines. -/
def takeBlock (s : Lexer) (folds : Bool) : Except Fault Lexer := do
  let s ← { s with allowsKey := true }.dropKey
  let (text, cursor) ← block folds s.indent s.cursor
  return { s.push (.scalar text false) with cursor }

/-- A scalar between quotes. -/
def takeQuoted (s : Lexer) (quote : Char) : Except Fault Lexer := do
  let s ← s.saveKey
  let (text, cursor) ← flow quote (s.cursor.rest.length + 1) s.cursor.next []
  return { s.push (.scalar text false) with cursor, allowsKey := false }

/-- A plain scalar. -/
def takePlain (s : Lexer) : Except Fault Lexer := do
  let s ← s.saveKey
  let (text, cursor, broken) :=
    plain s.inFlow (s.indent + 1) (s.cursor.rest.length + 1) s.cursor [] [] false
  return { s.push (.scalar text true) with cursor, allowsKey := broken }

/-- The characters that a plain scalar does not start with. -/
def isIndicator (c : Char) : Bool :=
  "-?:,[]\x7b\x7d#&*!|>'\"%@`".toList.contains c

/-- Whether a plain scalar starts here. -/
def startsPlain (s : Lexer) : Bool :=
  match s.cursor.here? with
  | none => false
  | some c =>
    if c == ' ' || c == '\t' || isBreak c then false
    else if !isIndicator c then true
    else !s.cursor.endsWordAt 1 && (c == '-' || (!s.inFlow && (c == '?' || c == ':')))

/-! ## Tokens -/

/-- The start of the next token: spaces, comments and line breaks are skipped. A new line outside of
    brackets allows a key. -/
def skipToToken : Nat → Lexer → Lexer
  | 0, s => s
  | fuel + 1, s =>
    let c := s.cursor.skipSpaces
    let c := if c.seesChar '#' then c.skipLine else c
    if c.sees isBreak then
      skipToToken fuel { s with cursor := c.takeBreak.2, allowsKey := s.allowsKey || !s.inFlow }
    else { s with cursor := c }

/-- The token that starts with a character. -/
def tokenAt (s : Lexer) (c : Char) : Except Fault Lexer :=
  let ends := s.cursor.endsWordAt 1
  if c == '%' && s.column == 0 then s.takeDirective
  else if s.column == 0 && s.cursor.seesMark then
    s.takeMark (if c == '-' then .documentStart else .documentEnd)
  else if c == '[' then s.openBracket .flowSequenceStart
  else if c == '{' then s.openBracket .flowMappingStart
  else if c == ']' then s.closeBracket .flowSequenceEnd
  else if c == '}' then s.closeBracket .flowMappingEnd
  else if c == ',' then s.takeComma
  else if c == '-' && ends then s.takeDash
  else if c == '?' && (s.inFlow || ends) then s.takeQuestion
  else if c == ':' && (s.inFlow || ends) then s.takeColon
  else if c == '*' then s.takeName .reference
  else if c == '&' then s.takeName .anchor
  else if c == '!' then s.takeTag
  else if c == '|' && !s.inFlow then s.takeBlock false
  else if c == '>' && !s.inFlow then s.takeBlock true
  else if c == '\'' || c == '"' then s.takeQuoted c
  else if s.startsPlain then s.takePlain
  else .error .malformed

/-- The end of the text. -/
def takeEnd (s : Lexer) : Except Fault Lexer := do
  let s ← (s.closeBlocks (-1)).dropKey
  return s.push .streamEnd

/-- All further tokens. The last one says how the text ends. -/
def run : Nat → Lexer → Array Token
  | 0, s => s.tokens.push (.broken .malformed)
  | fuel + 1, s =>
    let s := skipToToken (s.cursor.rest.length + 1) s
    match s.dropStaleKeys with
    | .error f => s.tokens.push (.broken f)
    | .ok s =>
      let s := s.closeBlocks s.column
      match s.cursor.here? with
      | none =>
        match s.takeEnd with
        | .ok s => s.tokens
        | .error f => s.tokens.push (.broken f)
      | some c =>
        match s.tokenAt c with
        | .ok s => run fuel s
        | .error f => s.tokens.push (.broken f)

end Lexer

/-- Whether a character may stand in a text. -/
def isAllowed (c : Char) : Bool :=
  let n := c.toNat
  n == 9 || n == 10 || n == 13 || (0x20 ≤ n && n ≤ 0x7E) || n == 0x85 || (0xA0 ≤ n && n ≤ 0xD7FF)
    || (0xE000 ≤ n && n ≤ 0xFFFD) || 0x10000 ≤ n

/-- The tokens of a text. -/
def tokens (text : List Char) : List Token :=
  if !text.all isAllowed then [.broken .malformed]
  else
    let start : Cursor := ⟨text, 0, 0, 0⟩
    let start := if start.sees isByteOrderMark then start.next else start
    (Lexer.run (text.length + 2) ⟨start, #[], 0, [], true, []⟩).toList

end TemplateTree.Yaml
