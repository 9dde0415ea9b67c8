/-!
# What plain scalars mean

A plain scalar is a text, unless it has the form of something else: a truth value, a number, a time,
nothing, or one of the marks for merging and for a default value.

* `coreTag`: the tags of the language.
* `implicitTag`: the tag of a plain scalar.
-/

namespace TemplateTree.Yaml

/-- A tag of the language. -/
def coreTag (word : String) : List Char :=
  "tag:yaml.org,2002:".toList ++ word.toList

/-! ## Parts of forms -/

/-- Whether a character is a decimal digit. -/
def isDigitChar (c : Char) : Bool :=
  '0' ≤ c && c ≤ '9'

/-- Whether a character is a digit, or the underscore that may stand between digits. -/
def isGrouped (p : Char → Bool) (c : Char) : Bool :=
  c == '_' || p c

/-- A text without a sign in front of it. -/
def dropSign : List Char → List Char
  | '+' :: s | '-' :: s => s
  | s => s

/-- Whether a text is not empty and all its characters fulfil a test. -/
def isRun (p : Char → Bool) (s : List Char) : Bool :=
  !s.isEmpty && s.all p

/-- A text cut at every colon. -/
def splitColon : List Char → List (List Char)
  | [] => [[]]
  | c :: rest =>
    if c == ':' then [] :: splitColon rest
    else
      match splitColon rest with
      | part :: parts => (c :: part) :: parts
      | [] => [[c]]

/-- Whether a text counts sixtieths. -/
def isSixtieth : List Char → Bool
  | [c] => isDigitChar c
  | [c, d] => '0' ≤ c && c ≤ '5' && isDigitChar d
  | _ => false

/-- A text without the digits at its start, at least `low` and at most `high` of them. -/
def dropDigits? (low high : Nat) (s : List Char) : Option (List Char) :=
  let n := min high (s.takeWhile isDigitChar).length
  if low ≤ n then some (s.drop n) else none

/-- A text without a character at its start. -/
def dropChar? (c : Char) : List Char → Option (List Char)
  | x :: rest => if x == c then some rest else none
  | [] => none

/-! ## Forms -/

/-- The words for truth values. -/
def truthWords : List String :=
  ["yes", "Yes", "YES", "no", "No", "NO", "true", "True", "TRUE", "false", "False", "FALSE", "on", "On",
    "ON", "off", "Off", "OFF"]

/-- Whether a text has the form of an integer. -/
def isIntegerForm (s : List Char) : Bool :=
  match dropSign s with
  | '0' :: 'b' :: rest => isRun (isGrouped fun c => c == '0' || c == '1') rest
  | '0' :: 'x' :: rest =>
    isRun (isGrouped fun c => isDigitChar c || ('a' ≤ c && c ≤ 'f') || ('A' ≤ c && c ≤ 'F')) rest
  | '0' :: rest => rest.all (isGrouped fun c => '0' ≤ c && c ≤ '7')
  | c :: rest =>
    '1' ≤ c && c ≤ '9' &&
      match splitColon rest with
      | whole :: parts => whole.all (isGrouped isDigitChar) && parts.all isSixtieth
      | [] => false
  | [] => false

/-- Whether a text is an exponent, or nothing. -/
def isExponentForm : List Char → Bool
  | [] => true
  | e :: sign :: digits =>
    (e == 'e' || e == 'E') && (sign == '+' || sign == '-') && isRun isDigitChar digits
  | _ => false

/-- Whether a text is the part of a float behind the point. -/
def isFractionForm (s : List Char) : Bool :=
  isExponentForm (s.dropWhile (isGrouped isDigitChar))

/-- Whether a text has the form of a float. -/
def isFloatForm (s : List Char) : Bool :=
  let body := dropSign s
  let isSpecial := [".inf", ".Inf", ".INF"].contains (String.ofList body)
    || [".nan", ".NaN", ".NAN"].contains (String.ofList s)
  let isPointFirst := match s with
    | '.' :: c :: rest => isDigitChar c && isFractionForm rest
    | _ => false
  let whole := body.takeWhile (· != '.')
  let isUsual := match whole, body.drop whole.length with
    | c :: digits, '.' :: rest =>
      isDigitChar c && digits.all (isGrouped isDigitChar) && isFractionForm rest
    | _, _ => false
  let isSixties := match splitColon whole, body.drop whole.length with
    | (c :: digits) :: part :: parts, '.' :: rest =>
      isDigitChar c && digits.all (isGrouped isDigitChar) && (part :: parts).all isSixtieth
        && rest.all (isGrouped isDigitChar)
    | _, _ => false
  isSpecial || isPointFirst || isUsual || isSixties

/-- Whether a text is the offset of a time: nothing, `Z`, or hours and minutes. -/
def isOffsetForm (s : List Char) : Bool :=
  match s.dropWhile fun c => c == ' ' || c == '\t' with
  | [] => s.isEmpty
  | ['Z'] => true
  | c :: rest =>
    (c == '+' || c == '-') &&
      match dropDigits? 1 2 rest with
      | none => false
      | some [] => true
      | some rest => ((dropChar? ':' rest).bind (dropDigits? 2 2)).any List.isEmpty

/-- Whether a text is a time of day, with what stands between a date and it. -/
def isTimeForm (s : List Char) : Bool :=
  let rest := match s with
    | 'T' :: rest | 't' :: rest => some rest
    | ' ' :: rest | '\t' :: rest => some (rest.dropWhile fun c => c == ' ' || c == '\t')
    | _ => none
  let rest := do
    let rest ← dropDigits? 1 2 (← rest)
    let rest ← dropDigits? 2 2 (← dropChar? ':' rest)
    dropDigits? 2 2 (← dropChar? ':' rest)
  match rest with
  | none => false
  | some ('.' :: rest) => isOffsetForm (rest.dropWhile isDigitChar)
  | some rest => isOffsetForm rest

/-- Whether a text has the form of a date or a date with a time. A date alone has two digits for month
    and day. -/
def isTimestampForm (s : List Char) : Bool :=
  let date := fun (low : Nat) => do
    let rest ← dropChar? '-' (← dropDigits? 4 4 s)
    let rest ← dropChar? '-' (← dropDigits? low 2 rest)
    dropDigits? low 2 rest
  (date 2).any List.isEmpty || (date 1).any isTimeForm

/-- The tag of a plain scalar. -/
def implicitTag (text : List Char) : List Char :=
  let s := if text.getLast? == some '\n' then text.dropLast else text
  let word := String.ofList s
  if truthWords.contains word then coreTag "bool"
  else if isFloatForm s then coreTag "float"
  else if isIntegerForm s then coreTag "int"
  else if word == "<<" then coreTag "merge"
  else if ["", "~", "null", "Null", "NULL"].contains word then coreTag "null"
  else if isTimestampForm s then coreTag "timestamp"
  else if word == "=" then coreTag "value"
  else coreTag "str"

end TemplateTree.Yaml
