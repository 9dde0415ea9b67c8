import TemplateTree.Datum
import TemplateTree.Decimal.Read
import TemplateTree.Text.Case
import TemplateTree.Text.Quoted

/-!
# Context values as text

A context value is written as a key, an equals sign and a value. The value's text decides its type:
`true` and `false` in any case, integers and decimals, and text otherwise. An empty value stands for
the removal of the key.

* `coerce`: the typed value of a text.
* `parse`: the key and the value of an entry, `none` for a removal.
* `sourceExtension?`: the suffix that a text names.
-/

namespace TemplateTree.KeyValue

open TemplateTree.Text

/-- Takes one line break off the end. -/
def dropFinalBreak (s : List Char) : List Char :=
  if s.getLast? == some '\n' then s.dropLast else s

/-- The digits of an integer text (`_INTEGER`): an optional minus sign and one or more decimal digits. -/
def integerText? (s : List Char) : Option (Bool × List Char) :=
  let (negative, ds) :=
    match s with
    | '-' :: rest => (true, rest)
    | _ => (false, s)
  if !ds.isEmpty && ds.all isDigit then some (negative, ds) else none

/-- The digits of a decimal text (`_DECIMAL`): digits on either side of one point. -/
def decimalText? (s : List Char) : Option (Bool × List Char × List Char) :=
  let (negative, body) :=
    match s with
    | '-' :: rest => (true, rest)
    | _ => (false, s)
  let whole := body.takeWhile (· != '.')
  let fraction := (body.dropWhile (· != '.')).drop 1
  if !whole.isEmpty && whole.all isDigit && !fraction.isEmpty && fraction.all isDigit then
    some (negative, whole, fraction)
  else none

/-- The typed value of a text (`coerce_value`). A number may be followed by one line break. -/
def coerce (raw : String) : Except Decimal.IntegerFault Datum :=
  let cs := raw.toList
  let low := lower cs
  let body := dropFinalBreak cs
  if low == "true".toList then .ok (.bool true)
  else if low == "false".toList then .ok (.bool false)
  else
    match integerText? body with
    | some (negative, ds) =>
      if Decimal.digitLimit < ds.length then .error (.tooLong ds.length)
      else
        let n : Int := (digitsValue ds : Nat)
        .ok (.int (if negative then -n else n))
    | none =>
      match decimalText? body with
      | some (negative, whole, fraction) =>
        .ok (.float ((Decimal.DecimalText.mk whole fraction 0).toFloat negative))
      | none => .ok (.text raw)

/-- Why an entry is refused. -/
inductive Fault
  | noEquals (entry : String)
  | emptyKey (entry : String)
  | number (fault : Decimal.IntegerFault)
  deriving DecidableEq, Repr

/-- The key and the typed value of an entry; the first equals sign parts them (`parse_value`). -/
def parse (entry : String) : Except Fault (String × Option Datum) :=
  let cs := entry.toList
  if !cs.contains '=' then .error (.noEquals entry)
  else
    let key := trim (cs.takeWhile (· != '='))
    let raw := (cs.dropWhile (· != '=')).drop 1
    if key.isEmpty then .error (.emptyKey entry)
    else if raw.isEmpty then .ok (String.ofList key, none)
    else
      match coerce (String.ofList raw) with
      | .ok d => .ok (String.ofList key, some d)
      | .error e => .error (.number e)

/-- The suffix that a text names, with its dot; none if the text is blank (`parse_extension`). -/
def sourceExtension? (value : String) : Option String :=
  match trim value.toList with
  | [] => none
  | '.' :: rest => some (String.ofList ('.' :: rest))
  | s => some (String.ofList ('.' :: s))

end TemplateTree.KeyValue
