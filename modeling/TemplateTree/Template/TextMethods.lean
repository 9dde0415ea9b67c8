import TemplateTree.Template.Formatting
import TemplateTree.Template.Parameters
import TemplateTree.Text.Case
import TemplateTree.Text.Newline
import TemplateTree.Text.Word

/-!
# Methods of texts

The methods that texts have in templates. The result of a method of markup is markup again, and texts
given to it are escaped first.
-/

namespace TemplateTree.Template.TextMethods

open TemplateTree.Text

/-- A text or markup with a method to be called: whether it is markup, and its characters. -/
structure Receiver where
  isMarkup : Bool
  chars : List Char

namespace Receiver

/-- A result that is markup if the receiver is. -/
def value (r : Receiver) (s : List Char) : Value :=
  if r.isMarkup then .markup (String.ofList s) else .text (String.ofList s)

/-- An argument as the receiver takes it. -/
def taken (r : Receiver) (v : Value) : Value :=
  match v with
  | .text s => if r.isMarkup then .text (escapeHtml s) else .text s
  | v => v

end Receiver

/-- The characters of an argument that has to be a text. -/
def chars (fault : String) (v : Value) : Eval (List Char) :=
  match v.text? with
  | some s => return s.toList
  | none => throw (.type fault)

/-- As `chars`, with the usual words. -/
def plainChars (v : Value) : Eval (List Char) :=
  chars ("must be str, not " ++ v.typeName) v

/-- The part of a text that a search is confined to, and where it starts; none if it starts behind the
    end. -/
def window (s : List Char) (bounds : List Value) : Eval (Option (Nat × List Char)) := do
  let bound := fun (i : Nat) => bound? (bounds[i]?.getD .none)
  let n : Int := s.length
  let move := fun (i : Int) => if i < 0 then max (i + n) 0 else i
  let start := ((← bound 0).map move).getD 0
  let stop := min (((← bound 1).map move).getD n) n
  if n < start then return none
  if stop < start then return none
  return some (start.toNat, (s.take stop.toNat).drop start.toNat)

/-- Where a text is found first or last in a window. -/
def position (fromRight : Bool) (s : List Char) (args : List Value) : Eval (Option Nat) := do
  match args with
  | [] => return none
  | v :: bounds =>
    let part ← plainChars v
    match ← window s bounds with
    | none => return none
    | some (start, w) =>
      let found := if fromRight then cutLast? part w else cut? part w
      return found.map fun (before, _) => start + before.length

/-- A text in a width: blanks on the left and on the right. -/
def filled (fill : Char) (left right : Nat) (s : List Char) : List Char :=
  List.replicate left fill ++ s ++ List.replicate right fill

/-- Zeros in front of a number, behind its sign. -/
def zeroFilled (width : Nat) (s : List Char) : List Char :=
  let zeros := List.replicate (width - s.length) '0'
  match s with
  | '+' :: rest => '+' :: zeros ++ rest
  | '-' :: rest => '-' :: zeros ++ rest
  | s => zeros ++ s

/-- Whether letters of one case occur, and none of the other. -/
def isAllOf (wanted other : Char → Bool) (s : List Char) : Bool :=
  s.any wanted && !s.any other

/-- Whether upper-case letters stand where words begin, and only there. -/
def isTitled : Bool → Bool → List Char → Bool
  | _, seen, [] => seen
  | inWord, seen, c :: rest =>
    if isUpperChar c then !inWord && isTitled true true rest
    else if isLowerChar c then inWord && isTitled true true rest
    else isTitled false seen rest

/-- The questions about all characters of a text. -/
def question? (name : String) (s : List Char) : Option Bool :=
  let all := fun p : Char → Bool => some (!s.isEmpty && s.all p)
  match name with
  | "isdigit" => all fun c => isDigit c || detachedDigits.mem c
  | "isdecimal" => all isDigit
  | "isnumeric" => all isNumeric
  | "isalpha" => all isLetter
  | "isalnum" => all isAlphanumeric
  | "isspace" => all isBlank
  | "isupper" => some (isAllOf isUpperChar isLowerChar s)
  | "islower" => some (isAllOf isLowerChar isUpperChar s)
  | "istitle" => some (isTitled false false s)
  | "isidentifier" => some (isIdentifier s)
  | "isascii" => some (s.all fun c => c.toNat < 0x80)
  | _ => none

/-- The changes of a whole text that need nothing else. -/
def change? (name : String) (s : List Char) : Option (List Char) :=
  match name with
  | "upper" => some (upper s)
  | "lower" | "casefold" => some (lower s)
  | "title" => some (title s)
  | "capitalize" => some (capitalize s)
  | "swapcase" => some (swapCase s)
  | _ => none

/-- Cuts a text at a separator or at white space, counted from the left or right. -/
def split (fromRight : Bool) (s : List Char) (separator : Value) (limit : Int) :
    Eval (List (List Char)) := do
  let count := if limit < 0 then s.length + 1 else limit.toNat
  match separator with
  | .none =>
    if fromRight then
      return ((splitBlankWithin isBlank count s.reverse).map List.reverse).reverse
    else return splitBlankWithin isBlank count s
  | v =>
    let sep ← chars ("must be str or None, not " ++ v.typeName) v
    if sep.isEmpty then throw (.value "empty separator")
    return if fromRight then splitLastWithin sep count s else splitWithin sep count s

/-- The arguments of a cut: separator and limit, by position or name. -/
def splitArguments (name : String) (args : Arguments) : Eval (Value × Int) := do
  let n := args.positional.length + args.named.length
  if 2 < n then
    throw (.type (name ++ "() takes at most 2 arguments (" ++ toString n ++ " given)"))
  match args.named.find? fun e => e.1 != "sep" && e.1 != "maxsplit" with
  | some (k, _) =>
    throw (.type (Text.quoted k ++ " is an invalid keyword argument for " ++ name ++ "()"))
  | none =>
    let sep := (args.positional[0]? <|> named? args.named "sep").getD .none
    match args.positional[1]? <|> named? args.named "maxsplit" with
    | some v => return (sep, ← wanted v)
    | none => return (sep, -1)

/-- A list of results. -/
def results (r : Receiver) (pieces : List (List Char)) : Eval Value :=
  newList (pieces.map r.value)

/-- The items of a value joined by a text. -/
def joined (ev : Evaluator) (r : Receiver) (v : Value) : Eval Value := do
  let items ←
    match ← attempt (collect ev v) with
    | .ok items => pure items
    | .error f => if f.isOf [.typeError] then throw (.type "can only join an iterable") else throw f
  if r.isMarkup then
    let pieces ← items.mapM (escaped ev)
    return .markup ((String.ofList r.chars).intercalate pieces)
  match firstNoText 0 items with
  | some (i, x) =>
    throw (.type ("sequence item " ++ toString i ++ ": expected str instance, " ++ x.typeName
      ++ " found"))
  | none => return .text ((String.ofList r.chars).intercalate (items.filterMap Value.text?))

/-- Takes characters off the ends of a text. -/
def stripped (name : String) (r : Receiver) (args : List Value) : Eval Value := do
  let drops ←
    match args with
    | [] | [.none] => pure isBlank
    | v :: _ =>
      let cs ← chars (name ++ " arg must be None or str") (r.taken v)
      pure cs.contains
  return r.value (match name with
    | "lstrip" => trimLeftBy drops r.chars
    | "rstrip" => trimRightBy drops r.chars
    | _ => trimBy drops r.chars)

/-- Whether a text starts or ends with another, or with one of several. -/
def hasEnd (name : String) (s : List Char) (args : List Value) : Eval Value := do
  match args with
  | [] => return .none
  | v :: bounds =>
    let fault := fun (w : Value) =>
      name ++ " first arg must be str or a tuple of str, not " ++ w.typeName
    let parts ←
      match v with
      | .tuple items => items.mapM fun w => chars (fault w) w
      | v => do pure [← chars (fault v) v]
    match ← window s bounds with
    | none => return .bool false
    | some (_, w) =>
      return .bool (parts.any fun p =>
        if name == "startswith" then p.isPrefixOf w else p.isSuffixOf w)

/-- A text in the middle, on the left or on the right of a width. -/
def aligned (name : String) (r : Receiver) (args : List Value) : Eval Value := do
  let width ← wanted (args[0]?.getD .none)
  let fill ←
    match args[1]? with
    | none => pure ' '
    | some v =>
      let cs ← chars ("The fill character must be a unicode character, not " ++ v.typeName)
        (r.taken v)
      match cs with
      | [c] => pure c
      | _ => throw (.type "The fill character must be exactly one character long")
  let missing := width.toNat - r.chars.length
  let left := match name with
    | "ljust" => 0
    | "rjust" => missing
    | _ => missing / 2 + (if missing % 2 == 1 && width.toNat % 2 == 1 then 1 else 0)
  return r.value (filled fill left (missing - left) r.chars)

/-- A text cut in three at a separator. -/
def partitioned (fromRight : Bool) (r : Receiver) (v : Value) : Eval Value := do
  let sep ← plainChars v
  if sep.isEmpty then throw (.value "empty separator")
  let parts := match fromRight, if fromRight then cutLast? sep r.chars else cut? sep r.chars with
    | _, some (before, rest) => [before, sep, rest]
    | true, none => [[], [], r.chars]
    | false, none => [r.chars, [], []]
  return .tuple (parts.map r.value)

/-- A text with some text replaced. -/
def replaced (r : Receiver) (args : List Value) : Eval Value := do
  let arg := fun (i : Nat) => do
    let v := r.taken (args[i]?.getD .none)
    chars ("replace() argument " ++ toString (i + 1) ++ " must be str, not " ++ v.typeName) v
  let old ← arg 0
  let new ← arg 1
  let limit ←
    match args[2]? with
    | some v => wanted v
    | none => pure (-1)
  let count := if limit < 0 then r.chars.length + 1 else limit.toNat
  return r.value (replaceWithin old new count r.chars)

/-- A text without tabs: each is filled up to the next multiple of a width. -/
def untabbed (width : Nat) (column : Nat) : List Char → List Char
  | [] => []
  | '\t' :: rest =>
    let n := if width == 0 then 0 else width - column % width
    List.replicate n ' ' ++ untabbed width (column + n) rest
  | c :: rest => c :: untabbed width (if c == '\n' || c == '\r' then 0 else column + 1) rest

/-- A text without an affix that it may have. -/
def withoutAffix (name : String) (r : Receiver) (v : Value) : Eval Value := do
  let part ← chars (name ++ "() argument must be str, not " ++ v.typeName) (r.taken v)
  return r.value (
    if name == "removeprefix" then (after? part r.chars).getD r.chars
    else ((after? part.reverse r.chars.reverse).map List.reverse).getD r.chars)

/-- The lines of a text, by a flag that may be named. -/
def linesOf (r : Receiver) (ev : Evaluator) (args : Arguments) : Eval Value := do
  let n := args.positional.length + args.named.length
  if 1 < n then
    throw (.type ("splitlines() takes at most 1 argument (" ++ toString n ++ " given)"))
  let keep ← truth ev ((args.positional[0]? <|> named? args.named "keepends").getD (.bool false))
  results r (lines keep r.chars)

/-- Calls a method of a text. -/
def call (ev : Evaluator) (r : Receiver) (name : String) (args : Arguments) : Eval Value := do
  let label := "str." ++ name
  match change? name r.chars, question? name r.chars with
  | some s, _ =>
    nothing label args
    return r.value s
  | _, some b =>
    nothing label args
    return .bool b
  | none, none =>
    match name with
    | "replace" => replaced r (← between label name 2 3 args)
    | "split" | "rsplit" =>
      let (sep, limit) ← splitArguments name args
      results r (← split (name == "rsplit") r.chars sep limit)
    | "splitlines" => linesOf r ev args
    | "partition" => partitioned false r (← single label args)
    | "rpartition" => partitioned true r (← single label args)
    | "join" => joined ev r (← single label args)
    | "strip" | "lstrip" | "rstrip" => stripped name r (← between label name 0 1 args)
    | "startswith" | "endswith" => hasEnd name r.chars (← counted label name 1 3 args)
    | "find" | "rfind" | "index" | "rindex" =>
      let found ← position (name.startsWith "r") r.chars (← counted label name 1 3 args)
      match found with
      | some i => return .int i
      | none =>
        if name.endsWith "find" then return .int (-1) else throw (.value "substring not found")
    | "count" =>
      let vs ← counted label name 1 3 args
      let part ← plainChars (vs[0]?.getD .none)
      match ← window r.chars (vs.drop 1) with
      | some (_, w) => return .int (occurrences part w)
      | none => return .int 0
    | "zfill" => return r.value (zeroFilled (← wanted (← single label args)).toNat r.chars)
    | "center" | "ljust" | "rjust" => aligned name r (← between label name 1 2 args)
    | "format" =>
      let s ← Formatting.fields ev r.isMarkup (String.ofList r.chars) args
      return r.value s.toList
    | "removeprefix" | "removesuffix" => withoutAffix name r (← single label args)
    | "expandtabs" =>
      let width ←
        match args.positional[0]? <|> named? args.named "tabsize" with
        | some v => wanted v
        | none => pure 8
      return r.value (untabbed width.toNat 0 r.chars)
    | _ => throw (.raised .attributeError ("'str' object has no attribute " ++ Text.quoted name))

end TemplateTree.Template.TextMethods
