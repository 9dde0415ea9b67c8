import TemplateTree.Decimal.Read
import TemplateTree.Options
import TemplateTree.Template.Fault
import TemplateTree.Template.Token
import TemplateTree.Text.Newline
import TemplateTree.Text.Quoted
import TemplateTree.Text.Word

/-!
# Cutting templates into tokens

A template is data with tags in it: statements in `\{% … %\}`, values to print in double braces, comments
in `\{# … #\}`. A minus sign beside a mark takes the white space away on that side. Before a statement
or comment the blanks at the start of its line are dropped, and behind it one line break, if the
options say so; a plus sign prevents that. Between `raw` and `endraw` everything is data.

* `scan`: the tokens of a text, and the fault that ends them, if one does. The fault only counts once
  all tokens before it have been used.
-/

namespace TemplateTree.Template.Lexer

open TemplateTree.Text

/-- The options that matter to the lexer. -/
structure Config where
  trimBlocks : Bool
  lstripBlocks : Bool
  keepTrailingNewline : Bool
  deriving DecidableEq, Repr

/-- The lexer's part of an engine configuration. -/
def Config.ofEngine (c : EngineConfig) : Config :=
  ⟨c.trimBlocks, c.lstripBlocks, c.keepTrailingNewline⟩

/-- The tokens of a text, and the fault that ends them early. -/
structure Lexed where
  tokens : List Token
  fault : Option Fault

namespace Lexed

/-- No tokens. -/
def nothing : Lexed := ⟨[], none⟩

/-- Nothing but a fault. -/
def failed (f : Fault) : Lexed := ⟨[], some f⟩

/-- One token more in front. -/
def cons (t : Token) (l : Lexed) : Lexed := ⟨t :: l.tokens, l.fault⟩

end Lexed

/-! ## Marks -/

/-- The sign beside a mark. -/
inductive Sign
  | none
  | minus
  | plus
  deriving DecidableEq, Repr

/-- A sign at the start of a text, and the rest. -/
def takeSign : List Char → Sign × List Char
  | '-' :: rest => (.minus, rest)
  | '+' :: rest => (.plus, rest)
  | s => (.none, s)

/-- What a tag is for. -/
inductive Tag
  | raw
  | statement
  | comment
  | print
  deriving DecidableEq, Repr

/-- Drops leading white space. -/
def skipBlank (s : List Char) : List Char :=
  s.dropWhile isBlank

/-- The rest of a text behind a word. -/
def afterWord? (word : String) (s : List Char) : Option (List Char) :=
  if word.toList.isPrefixOf s then some (s.drop word.length) else none

/-- The rest of a text behind the mark that ends a statement: with a minus sign in front the white
    space after it goes, too, and otherwise one line break, if `trim` says so. -/
def statementEnd? (trim plus : Bool) : List Char → Option (List Char)
  | '-' :: '%' :: '}' :: rest => some (skipBlank rest)
  | '+' :: '%' :: '}' :: rest => if plus then some rest else none
  | '%' :: '}' :: '\n' :: rest => some (if trim then rest else '\n' :: rest)
  | '%' :: '}' :: rest => some rest
  | _ => none

/-- The rest of a text behind the mark that ends a print tag. -/
def printEnd? : List Char → Option (List Char)
  | '-' :: '}' :: '}' :: rest => some (skipBlank rest)
  | '}' :: '}' :: rest => some rest
  | _ => none

/-- The rest of a text behind the mark that ends a comment. -/
def commentEnd? (trim : Bool) : List Char → Option (List Char)
  | '-' :: '#' :: '}' :: rest => some (skipBlank rest)
  | '+' :: '#' :: '}' :: rest => some rest
  | '#' :: '}' :: '\n' :: rest => some (if trim then rest else '\n' :: rest)
  | '#' :: '}' :: rest => some rest
  | _ => none

/-- The tag that starts a text: its kind, its sign and the rest behind the mark. -/
def tagAt? : List Char → Option (Tag × Sign × List Char)
  | '{' :: '%' :: rest =>
    let (sign, inner) := takeSign rest
    let raw := do
      let r ← afterWord? "raw" (skipBlank inner)
      statementEnd? false false (skipBlank r)
    match raw with
    | some r => some (.raw, sign, r)
    | none => some (.statement, sign, inner)
  | '{' :: '{' :: rest => let (sign, r) := takeSign rest; some (.print, sign, r)
  | '{' :: '#' :: rest => let (sign, r) := takeSign rest; some (.comment, sign, r)
  | _ => none

/-- The tag that ends a raw block, at the start of a text: its sign and the rest. -/
def endRawAt? (trim : Bool) : List Char → Option (Sign × List Char)
  | '{' :: '%' :: rest => do
    let (sign, inner) := takeSign rest
    let r ← afterWord? "endraw" (skipBlank inner)
    let r ← statementEnd? trim true (skipBlank r)
    pure (sign, r)
  | _ => none

/-- The text before the first place at which `at?` finds something, and what it finds there. -/
def splitAt? {α : Type} (at? : List Char → Option α) (s : List Char) : List Char × Option α :=
  match at? s with
  | some found => ([], some found)
  | none =>
    match s with
    | [] => ([], none)
    | c :: rest =>
      let (before, found) := splitAt? at? rest
      (c :: before, found)

/-! ## White space in front of tags -/

/-- The length of the text up to and with its last line break. -/
def lineStart (s : List Char) : Nat :=
  s.length - (s.reverse.takeWhile (· != '\n')).length

/-- The data in front of a tag as it is kept, and the number of line breaks that were taken off. -/
def keepBefore (lstrip : Bool) (tag : Tag) (sign : Sign) (freshLine : Bool) (s : List Char) :
    List Char × Nat :=
  match sign with
  | .minus =>
    let kept := trimRight s
    (kept, lineFeeds (s.drop kept.length))
  | .plus => (s, 0)
  | .none =>
    let start := lineStart s
    if lstrip && tag != .print && (0 < start || freshLine) && (s.drop start).all isBlank then
      (s.take start, 0)
    else (s, 0)

/-! ## Strings -/

/-- How a character beyond ASCII is written after a backslash that does not escape it. -/
def spelledOut (c : Char) : List Char :=
  let n := c.toNat
  if n < 0x100 then 'x' :: hexDigits 2 n
  else if n < 0x10000 then 'u' :: hexDigits 4 n
  else 'U' :: hexDigits 8 n

/-- The character with a code, if it is one. -/
def charOf? (n : Nat) : Option Char :=
  if 0x10FFFF < n then none
  else if 0xD800 ≤ n && n ≤ 0xDFFF then some (Char.ofNat 0xFFFD)
  else some (Char.ofNat n)

/-- Reads exactly `count` hexadecimal digits. -/
def hexEscape? (count : Nat) (s : List Char) : Option Nat :=
  let ds := s.take count
  if ds.length == count && ds.all fun c => (baseDigit? 16 c).isSome then some (baseValue 16 ds)
  else none

/-- The character of an escape by one letter. -/
def letterEscape? (c : Char) : Option Char :=
  if c == '\\' || c == '\'' || c == '"' then some c
  else if c == 'a' then some (Char.ofNat 7)
  else if c == 'b' then some (Char.ofNat 8)
  else if c == 'f' then some (Char.ofNat 12)
  else if c == 'n' then some '\n'
  else if c == 'r' then some '\r'
  else if c == 't' then some '\t'
  else if c == 'v' then some (Char.ofNat 11)
  else none

/-- Whether a character is an octal digit. -/
def isOctal (c : Char) : Bool := '0' ≤ c && c ≤ '7'

/-- The escape whose letter is `c` and which goes on with `rest`: its characters and how many of
    `rest` belong to it. -/
def escape (c : Char) (rest : List Char) : Except String (List Char × Nat) :=
  let byDigits := fun (count : Nat) (mistake : String) =>
    match hexEscape? count rest with
    | none => Except.error mistake
    | some n =>
      match charOf? n with
      | some x => .ok ([x], count)
      | none => .error "illegal Unicode character"
  if c == '\n' then .ok ([], 0)
  else if c == 'x' then byDigits 2 "truncated \\xXX escape"
  else if c == 'u' then byDigits 4 "truncated \\uXXXX escape"
  else if c == 'U' then byDigits 8 "truncated \\UXXXXXXXX escape"
  else if c == 'N' then
    if rest.head? == some '{' && rest.contains '}' then .error "unknown Unicode character name"
    else .error "malformed \\N character escape"
  else if isOctal c then
    let more := (rest.take 2).takeWhile isOctal
    .ok ([Char.ofNat (baseValue 8 (c :: more))], more.length)
  else
    match letterEscape? c with
    | some x => .ok ([x], 0)
    | none => if c.toNat < 0x80 then .ok (['\\', c], 0) else .ok ('\\' :: spelledOut c, 0)

/-- The text that a string literal denotes; `skip` characters have been used by an escape. -/
def unescape (skip : Nat) : List Char → Except String (List Char)
  | [] => .ok []
  | '\\' :: c :: rest =>
    if 0 < skip then unescape (skip - 1) (c :: rest)
    else do
      let (cs, used) ← escape c rest
      let tail ← unescape (used + 1) (c :: rest)
      pure (cs ++ tail)
  | c :: rest =>
    if 0 < skip then unescape (skip - 1) rest
    else do
      let tail ← unescape 0 rest
      pure (c :: tail)

/-- The inside of a string literal behind its opening quote, and the rest behind the closing one. -/
def stringBody? (quote : Char) (acc : List Char) : List Char → Option (List Char × List Char)
  | [] => none
  | '\\' :: [] => none
  | '\\' :: c :: rest => stringBody? quote (c :: '\\' :: acc) rest
  | c :: rest => if c == quote then some (acc.reverse, rest) else stringBody? quote (c :: acc) rest

/-! ## Numbers -/

/-- The length of an exponent at the start of a text, zero if there is none. -/
def exponentLength : List Char → Nat
  | [] => 0
  | e :: rest =>
    if e == 'e' || e == 'E' then
      let (signs, rest) :=
        match rest with
        | '+' :: r => (1, r)
        | '-' :: r => (1, r)
        | r => (0, r)
      let digits := rest.length - (Decimal.takeGrouped rest).2.length
      if digits == 0 then 0 else 1 + signs + digits
    else 0

/-- The length of a float at the start of a text, zero if there is none. -/
def floatLength (s : List Char) : Nat :=
  let whole := s.length - (Decimal.takeGrouped s).2.length
  if whole == 0 then 0
  else
    let afterWhole := s.drop whole
    let fraction :=
      match afterWhole with
      | '.' :: r =>
        let digits := r.length - (Decimal.takeGrouped r).2.length
        if digits == 0 then 0 else digits + 1
      | _ => 0
    let exponent := exponentLength (afterWhole.drop fraction)
    if fraction == 0 && exponent == 0 then 0 else whole + fraction + exponent

/-- The length of a run of characters in which single underscores may stand before each. -/
def runLength (p : Char → Bool) : List Char → Nat
  | '_' :: c :: rest => if p c then 2 + runLength p rest else 0
  | c :: rest => if p c then 1 + runLength p rest else 0
  | [] => 0

/-- The length of an integer at the start of a text, zero if there is none. -/
def integerLength (s : List Char) : Nat :=
  match s with
  | '0' :: rest =>
    let marked :=
      match rest with
      | m :: digits =>
        match Decimal.markedBase? m with
        | some 2 => runLength (fun c => c == '0' || c == '1') digits
        | some 8 => runLength isOctal digits
        | some _ => runLength (fun c => isDigit c || (baseDigit? 16 c).isSome) digits
        | none => 0
      | [] => 0
    if marked != 0 then 2 + marked else 1 + runLength (· == '0') rest
  | c :: rest => if '1' ≤ c && c ≤ '9' then 1 + runLength isDigit rest else 0
  | [] => 0

/-- The value of an integer literal. -/
def integerValue (s : List Char) : Except Fault Int :=
  match Decimal.readInteger 0 (s.filter (· != '_')) with
  | .ok n => .ok n
  | .error (.tooLong n) => .error (.value (Decimal.tooLongToRead n))
  | .error .malformed => .error (.value "invalid integer")

/-! ## Inside a tag -/

/-- A token inside a tag, or only white space, with the number of characters it takes. -/
inductive Piece
  | space (length : Nat)
  | token (kind : TokenKind) (length : Nat)
  | fault (f : Fault)

/-- Makes a string token of the characters between two quotes. -/
def stringPiece (line : Nat) (body : List Char) (length : Nat) : Piece :=
  match unescape 0 body with
  | .ok cs => .token (.string (String.ofList cs)) length
  | .error m => .fault (.syntaxAt line m)

/-- The operator at the start of a text. -/
def operatorAt? (s : List Char) : Option Operator :=
  Operator.all.find? fun o => o.text.toList.isPrefixOf s

/-- The piece at the start of a text inside a tag. A float does not start behind a point. -/
def pieceAt (line position : Nat) (afterPoint : Bool) (s : List Char) : Piece :=
  let spaces := (s.takeWhile isBlank).length
  let float := if afterPoint then 0 else floatLength s
  let integer := integerLength s
  let word := s.takeWhile isNameChar
  if spaces != 0 then .space spaces
  else if float != 0 then
    let text := (s.take float).filter (· != '_')
    .token (.float ((Decimal.readFloat? text).getD 0.0)) float
  else if integer != 0 then
    match integerValue (s.take integer) with
    | .ok n => .token (.integer n) integer
    | .error f => .fault f
  else if !word.isEmpty then
    if isIdentifier word then .token (.name (String.ofList word)) word.length
    else .fault (.syntaxAt line "Invalid character in identifier")
  else
    let string? : Option (List Char × List Char) :=
      match s with
      | '\'' :: rest => stringBody? '\'' [] rest
      | '"' :: rest => stringBody? '"' [] rest
      | _ => none
    match string? with
    | some (body, rest) => stringPiece line body (s.length - rest.length)
    | none =>
      match operatorAt? s with
      | some o => .token (.op o) o.text.length
      | none =>
        match s with
        | c :: _ => .fault (.syntaxAt line ("unexpected char " ++ quoted (String.singleton c)
            ++ " at " ++ toString position))
        | [] => .space 0

/-- The bracket that closes an opening one. -/
def closing? : Operator → Option Operator
  | .lparen => some .rparen
  | .lbracket => some .rbracket
  | .lbrace => some .rbrace
  | _ => none

/-- The open brackets after an operator, innermost first. -/
def balance (line : Nat) (o : Operator) (stack : List Operator) : Except Fault (List Operator) :=
  match closing? o with
  | some c => .ok (c :: stack)
  | none =>
    if o == .rparen || o == .rbracket || o == .rbrace then
      match stack with
      | [] => .error (.syntaxAt line ("unexpected '" ++ o.text ++ "'"))
      | expected :: rest =>
        if expected == o then .ok rest
        else .error (.syntaxAt line
          ("unexpected '" ++ o.text ++ "', expected '" ++ expected.text ++ "'"))
    else .ok stack

/-! ## The whole text -/

/-- Where the lexer stands: in data, or in a tag with open brackets. -/
inductive Mode
  | data
  | inside (tag : Tag) (stack : List Operator)

/-- A place in the text: its offset, its line, whether it is at the start of a line as far as the last
    match tells, the character before it, and what is left. -/
structure Place where
  offset : Nat
  line : Nat
  freshLine : Bool
  before : Option Char
  rest : List Char

namespace Place

/-- The place at which `rest` is left. -/
def moveTo (p : Place) (rest : List Char) : Place :=
  let used := p.rest.take (p.rest.length - rest.length)
  { offset := p.offset + used.length
    line := p.line + lineFeeds used
    freshLine := used.getLast? == some '\n'
    before := if used.isEmpty then p.before else used.getLast?
    rest }

/-- The text up to the place at which `rest` is left. -/
def upTo (p : Place) (rest : List Char) : List Char :=
  p.rest.take (p.rest.length - rest.length)

end Place

/-- A token of data, unless it is empty. -/
def dataToken (line : Nat) (s : List Char) (l : Lexed) : Lexed :=
  if s.isEmpty then l else l.cons ⟨line, .data (String.ofList s)⟩

/-- What follows a comment mark: the place behind the comment. -/
def skipComment (config : Config) (p : Place) : Except Lexed Place :=
  match splitAt? (commentEnd? config.trimBlocks) p.rest with
  | (_, some rest) => .ok (p.moveTo rest)
  | (_, none) =>
    .error (if p.rest.isEmpty then .nothing
      else .failed (.syntaxAt p.line "Missing end of comment tag"))

/-- What follows the start of a raw block: its data and the place behind it. -/
def readRaw (config : Config) (p : Place) : Except Lexed (List Char × Place) :=
  match splitAt? (endRawAt? config.trimBlocks) p.rest with
  | (body, some (sign, rest)) =>
    .ok ((keepBefore config.lstripBlocks .raw sign p.freshLine body).1, p.moveTo rest)
  | (_, none) =>
    .error (if p.rest.isEmpty then .nothing
      else .failed (.syntaxAt p.line "Missing end of raw directive"))

/-- The end mark of the tag that the lexer is in, if it stands here. -/
def tagEnd? (config : Config) (tag : Tag) (s : List Char) : Option (TokenKind × List Char) :=
  match tag with
  | .print => (printEnd? s).map fun r => (.variableEnd, r)
  | _ => (statementEnd? config.trimBlocks true s).map fun r => (.blockEnd, r)

/-- The tokens from a place on. Every step but the last uses at least one character, so that the
    number of characters left bounds the number of steps. -/
def run (config : Config) : Nat → Mode → Place → Lexed
  | 0, _, _ => .nothing
  | fuel + 1, .data, p =>
    match splitAt? tagAt? p.rest with
    | (text, none) => dataToken p.line text .nothing
    | (text, some (tag, sign, rest)) =>
      let kept := (keepBefore config.lstripBlocks tag sign p.freshLine text).1
      let tagLine := p.line + lineFeeds text
      let inner := p.moveTo rest
      dataToken p.line kept
        (match tag with
        | .statement =>
          (run config fuel (.inside .statement []) inner).cons ⟨tagLine, .blockBegin⟩
        | .print => (run config fuel (.inside .print []) inner).cons ⟨tagLine, .variableBegin⟩
        | .comment =>
          match skipComment config inner with
          | .ok next => run config fuel .data next
          | .error l => l
        | .raw =>
          match readRaw config inner with
          | .ok (body, next) => dataToken inner.line body (run config fuel .data next)
          | .error l => l)
  | fuel + 1, .inside tag stack, p =>
    if p.rest.isEmpty then .nothing
    else
      match if stack.isEmpty then tagEnd? config tag p.rest else none with
      | some (kind, rest) => (run config fuel .data (p.moveTo rest)).cons ⟨p.line, kind⟩
      | none =>
        match pieceAt p.line p.offset (p.before == some '.') p.rest with
        | .fault f => .failed f
        | .space n => run config fuel (.inside tag stack) (p.moveTo (p.rest.drop n))
        | .token kind n =>
          let next := p.moveTo (p.rest.drop n)
          match kind with
          | .op o =>
            match balance p.line o stack with
            | .error f => .failed f
            | .ok stack => (run config fuel (.inside tag stack) next).cons ⟨p.line, kind⟩
          | _ => (run config fuel (.inside tag stack) next).cons ⟨p.line, kind⟩

/-- The text that is cut into tokens: line breaks are line feeds, and one at the end goes unless it is
    to be kept. -/
def prepare (config : Config) (s : List Char) : List Char :=
  let s := normalizeBreaks s
  if !config.keepTrailingNewline && s.getLast? == some '\n' then s.dropLast else s

/-- The tokens of a template. -/
def scan (config : Config) (source : String) : Lexed :=
  let s := prepare config source.toList
  run config (s.length + 1) .data ⟨0, 1, true, none, s⟩

end TemplateTree.Template.Lexer
