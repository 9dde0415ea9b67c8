import TemplateTree.Template.Filter.Basic
import TemplateTree.Text.Wrap

/-!
# Filters on text

Filters that make one text of another. A value that is no text is printed first; markup stays markup.
-/

namespace TemplateTree.Template.Filter

/-- A method of the text that a value prints as. -/
def textMethod (ev : Evaluator) (v : Value) (name : String) (args : List Value) : Eval Value := do
  callMethod ev (← asText ev v) name ⟨args, []⟩

/-- A filter that is a method of the value's text. -/
def method (label parameter name : String) : Filter :=
  plain label parameter fun ev v => textMethod ev v name []

/-- A text that keeps the kind of another. -/
def like (v : Value) (s : List Char) : Value :=
  match v with
  | .markup _ => .markup (String.ofList s)
  | _ => textOf s

/-- The characters of a value that is a text. -/
def charsOf (v : Value) : List Char :=
  (v.text?.getD "").toList

/-- Whether a character stands between words when they get capitals. -/
def separatesWords (c : Char) : Bool :=
  c == '-' || c == '(' || c == '\x7b' || c == '[' || c == '<' || Text.isBlank c

/-- Every word with a capital, the rest in lower case. -/
def capitals : Nat → List Char → List Char
  | 0, _ => []
  | _ + 1, [] => []
  | fuel + 1, c :: rest =>
    let isMark := separatesWords c
    let run := rest.takeWhile fun d => separatesWords d == isMark
    let piece := if isMark then c :: run else Text.upper [c] ++ Text.lower run
    piece ++ capitals fuel (rest.drop run.length)

/-- Words with capitals. -/
def titled : Filter :=
  plain "do_title" "s" fun ev v => do
    let cs := charsOf (← asText ev v)
    return textOf (capitals cs.length cs)

/-- A text in the middle of a width. -/
def centered : Filter :=
  of "do_center" 0 [needed "value", given "width" (.int 80)] fun ev _ vs =>
    textMethod ev (arg vs 0) "center" [arg vs 1]

/-- A text without blanks, or other characters, at its ends. -/
def trimmed : Filter :=
  of "do_trim" 0 [needed "value", given "chars" .none] fun ev _ vs =>
    textMethod ev (arg vs 0) "strip" [arg vs 1]

/-- A text with some text replaced. Where output is escaped, so is everything that is not markup. -/
def replaced : Filter :=
  of "do_replace" 1 [needed "s", needed "old", needed "new", given "count" .none]
    fun ev escapes vs => do
      let (s, old, new) := (arg vs 0, arg vs 1, arg vs 2)
      let count := match arg vs 3 with
        | .none => Value.int (-1)
        | v => v
      if !escapes then
        let receiver := Value.text (← printed ev s)
        callMethod ev receiver "replace"
          ⟨[.text (← printed ev old), .text (← printed ev new), count], []⟩
      else
        let s ← if isMarkup old || (isMarkup new && !isMarkup s)
          then do pure (.markup (← escaped ev s)) else asText ev s
        callMethod ev s "replace" ⟨[← asText ev old, ← asText ev new, count], []⟩

/-- The lines of a text, each of which but the first is moved to the right. -/
def indented : Filter :=
  of "do_indent" 0 [needed "s", given "width" (.int 4), given "first" (.bool false),
      given "blank" (.bool false)] fun ev _ vs => do
    let s := arg vs 0
    let indention ←
      match arg vs 1 with
      | .text w | .markup w => pure w.toList
      | v => do
        let r ← multiply (.text " ") v
        pure (charsOf r)
    let body ←
      match s with
      | .text t | .markup t => pure (t.toList ++ ['\n'])
      | .undefined message _ => throw (.undefined message)
      | v => throw (noOperation "+=" v (.text ""))
    let lines := Text.lines false body
    let rv ← if ← truth ev (arg vs 3) then pure ((('\n' :: indention)).intercalate lines)
      else
        match lines with
        | [] => pure []
        | first :: rest =>
          pure (['\n'].intercalate (first :: rest.map fun l =>
            if l.isEmpty then l else indention ++ l))
    return like s (if ← truth ev (arg vs 2) then indention ++ rv else rv)

/-- How far a text may be over its length before it is cut. -/
def cutLeeway : Int := 5

/-- The fault of a length that is too small. -/
def tooSmall (what : String) (least : Int) (given : Value) (ev : Evaluator) : Eval Fault := do
  return .raised .unresolved ("expected " ++ what ++ " >= " ++ toString least ++ ", got "
    ++ (← printed ev given))

/-- A text cut at a length, between words if possible, with a mark behind it. -/
def truncated : Filter :=
  of "do_truncate" 1 [needed "s", given "length" (.int 255), given "killwords" (.bool false),
      given "end" (.text "..."), given "leeway" .none] fun ev _ vs => do
    let (s, ending) := (arg vs 0, arg vs 3)
    let leeway := match arg vs 4 with
      | .none => Value.int cutLeeway
      | v => v
    let endLength ← length ev ending
    if !(← ordered .ge (arg vs 1) (.int endLength)) then
      throw (← tooSmall "length" endLength (arg vs 1) ev)
    if !(← ordered .ge leeway (.int 0)) then throw (← tooSmall "leeway" 0 leeway ev)
    let n ← length ev s
    if ← ordered .le (.int n) (← add ev (arg vs 1) leeway) then return s
    let cut ← subtract (arg vs 1) (.int endLength)
    let head ← subscript ev s (.slice .none cut .none)
    if ← truth ev (arg vs 2) then return ← add ev head ending
    let words ← callMethod ev head "rsplit" ⟨[.text " ", .int 1], []⟩
    add ev (← subscript ev words (.int 0)) ending

/-- The number of words of a text. -/
def wordCount : Filter :=
  plain "do_wordcount" "s" fun ev v => do
    let cs := charsOf (← asText ev v)
    let starts := (cs.zip (' ' :: cs)).filter fun (c, before) => Text.isWord c && !Text.isWord before
    return .int starts.length

/-- A text with its lines broken at a width. -/
def wrapped : Filter :=
  of "do_wordwrap" 1 [needed "s", given "width" (.int 79), given "break_long_words" (.bool true),
      given "wrapstring" .none, given "break_on_hyphens" (.bool true)] fun ev _ vs => do
    let s ←
      match arg vs 0 with
      | .text t | .markup t => pure t.toList
      | .undefined message _ => throw (.undefined message)
      | v =>
        throw (.raised .attributeError
          ("'" ++ v.typeName ++ "' object has no attribute 'splitlines'"))
    let mark ←
      match arg vs 3 with
      | .none => pure "\n"
      | v => printed ev v
    let breaks ← truth ev (arg vs 2)
    let hyphens ← truth ev (arg vs 4)
    let lines := Text.lines false s
    let width ← wanted (arg vs 1)
    if width ≤ 0 && lines.any (!·.isEmpty) then
      throw (.value ("invalid width " ++ toString width ++ " (must be > 0)"))
    let out := lines.map fun l =>
      mark.toList.intercalate (Text.Wrap.wrap breaks hyphens width.toNat l)
    return textOf (mark.toList.intercalate out)

/-- A text with values put in for its conversions. -/
def formatted : Filter :=
  ⟨true, fun ev _ v args => do
    let format ← asText ev v
    if !args.positional.isEmpty && !args.named.isEmpty then
      throw (.raised .filterArgument
        "can't handle positional and keyword arguments at the same time")
    let values ← if args.named.isEmpty then pure (Value.tuple args.positional)
      else newDict (args.named.map fun (k, w) => (.text k, w))
    let isSafe := isMarkup format
    let s ← Formatting.percent ev isSafe (format.text?.getD "") values
    return like format s.toList⟩

/-- The filters on text by name. -/
def ofText : List (String × Filter) :=
  [("upper", method "do_upper" "s" "upper"),
    ("lower", method "do_lower" "s" "lower"),
    ("capitalize", method "do_capitalize" "s" "capitalize"),
    ("title", titled),
    ("center", centered),
    ("trim", trimmed),
    ("replace", replaced),
    ("indent", indented),
    ("truncate", truncated),
    ("wordcount", wordCount),
    ("wordwrap", wrapped),
    ("format", formatted),
    ("string", plain "soft_str" "s" asText)]

end TemplateTree.Template.Filter
