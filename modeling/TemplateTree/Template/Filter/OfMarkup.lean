import TemplateTree.Template.Filter.Basic
import TemplateTree.Template.Filter.JsonText
import TemplateTree.Text.Reference

/-!
# Filters for markup

Filters that escape, mark as safe, take tags off, and write values in the notations of markup, of
addresses and of JSON.
-/

namespace TemplateTree.Template.Filter

/-- Escapes a value unless it is markup. -/
def escape : Filter :=
  ⟨true, fun ev _ v args => do
    let n := 1 + args.positional.length
    if !args.named.isEmpty then throw (.type "escape() takes no keyword arguments")
    if n != 1 then
      throw (.type ("escape() takes exactly one argument (" ++ toString n ++ " given)"))
    return .markup (← escaped ev v)⟩

/-- Escapes a value even if it is markup. -/
def forceEscape : Filter :=
  plain "do_forceescape" "value" fun ev v => return .markup (Text.escapeHtml (← printed ev v))

/-- Marks a text as markup. -/
def safe : Filter :=
  plain "do_mark_safe" "value" fun ev v => return .markup (← printed ev v)

/-- A text without what stands between two marks. -/
def withoutBetween (opening closing : List Char) : Nat → List Char → List Char
  | 0, s => s
  | fuel + 1, s =>
    match Text.cut? opening s with
    | none => s
    | some (before, rest) =>
      match Text.cut? closing (opening ++ rest) with
      | none => s
      | some (_, behind) => withoutBetween opening closing fuel (before ++ behind)

/-- The text of markup: comments and tags taken off, runs of blanks made one, references replaced. -/
def withoutTags (s : List Char) : List Char :=
  let s := withoutBetween "<!--".toList "-->".toList s.length s
  let s := withoutBetween ['<'] ['>'] s.length s
  Text.unescapeHtml ([' '].intercalate (Text.words s))

/-- The text of markup. -/
def stripTags : Filter :=
  plain "do_striptags" "value" fun ev v => return textOf (withoutTags (← printed ev v).toList)

/-- A value as JSON that is safe inside markup. -/
def toJson : Filter :=
  of "do_tojson" 1 [needed "value", given "indent" .none] fun _ _ vs => do
    let indent ←
      match arg vs 1 with
      | .none => pure none
      | .text s | .markup s => pure (some s)
      | v => do
        let s ← multiply (.text " ") v
        pure s.text?
    return .markup (JsonText.safe (← JsonText.write indent (arg vs 0)))

/-- Whether a byte stands for itself in an address. -/
def isAddressByte (slashes : Bool) (b : UInt8) : Bool :=
  let c := Char.ofNat b.toNat
  b < 128 && (c.isAlphanum || ['_', '.', '-', '~'].contains c || (slashes && c == '/'))

/-- Bytes in an address. -/
def quoteAddress (inQuery : Bool) (bytes : List UInt8) : List Char :=
  bytes.flatMap fun b =>
    if isAddressByte (!inQuery) b then [Char.ofNat b.toNat]
    else if inQuery && b == 0x20 then ['+']
    else '%' :: (Text.hexDigits 2 b.toNat).map Char.toUpper

/-- A value in an address. -/
def addressText (ev : Evaluator) (inQuery : Bool) (v : Value) : Eval String := do
  let bytes ←
    match v with
    | .bytes b => pure b
    | v => do pure (← printed ev v).toUTF8.toList
  return String.ofList (quoteAddress inQuery bytes)

/-- A text in an address, or pairs as a query. -/
def urlEncode : Filter :=
  plain "do_urlencode" "value" fun ev v => do
    let isIterable ←
      match v with
      | .text _ | .markup _ => pure false
      | v => do pure (match ← attempt (iterate v) with | .ok _ => true | .error _ => false)
    if !isIterable then return .text (← addressText ev false v)
    let items ←
      match v with
      | .dict id => do pure (viewItems (← dictEntries id) .items)
      | v => collect ev v
    let parts ← items.mapM fun item => do
      match ← collect ev item with
      | [k, w] =>
        let key ← addressText ev true k
        return key ++ "=" ++ (← addressText ev true w)
      | [] | [_] =>
        let n := (← collect ev item).length
        throw (.value ("not enough values to unpack (expected 2, got " ++ toString n ++ ")"))
      | _ => throw (.value "too many values to unpack (expected 2)")
    return .text ("&".intercalate parts)

/-- Whether a character cannot stand in the name of an attribute. -/
def breaksName (c : Char) : Bool :=
  (9 ≤ c.toNat && c.toNat ≤ 13) || c == ' ' || c == '/' || c == '>' || c == '='

/-- A map as the attributes of a tag. -/
def xmlAttributes : Filter :=
  of "do_xmlattr" 1 [needed "d", given "autospace" (.bool true)] fun ev escapes vs => do
    let entries ←
      match arg vs 0 with
      | .dict id => dictEntries id
      | .undefined message _ => throw (.undefined message)
      | v =>
        throw (.raised .attributeError ("'" ++ v.typeName ++ "' object has no attribute 'items'"))
    let shownEntries := entries.filter fun (_, w) => !(w.isNone || w.isUndefined)
    let parts ← shownEntries.mapM fun (k, w) => do
      match k.text? with
      | none =>
        throw (.type ("expected string or bytes-like object, got '" ++ k.typeName ++ "'"))
      | some name =>
        if name.toList.any breaksName then
          throw (.value ("Invalid character in attribute name: " ++ (← shown ev k)))
        let key ← escaped ev k
        return key ++ "=\"" ++ (← escaped ev w) ++ "\""
    let s := " ".intercalate parts
    let s := if (← truth ev (arg vs 1)) && s != "" then " " ++ s else s
    return if escapes then .markup s else .text s

/-- The filters for markup by name. -/
def ofMarkup : List (String × Filter) :=
  [("e", escape),
    ("escape", escape),
    ("forceescape", forceEscape),
    ("safe", safe),
    ("striptags", stripTags),
    ("tojson", toJson),
    ("urlencode", urlEncode),
    ("xmlattr", xmlAttributes)]

end TemplateTree.Template.Filter
