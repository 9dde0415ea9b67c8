import TemplateTree.Template.Filter.OfMarkup
import TemplateTree.Template.Filter.OfNumber
import TemplateTree.Template.Filter.OfSequence
import TemplateTree.Template.Filter.OfText
import TemplateTree.Template.Operation

/-!
# Filters and tests by name

The filters of the template language, and the tests, which answer a question about a value.

* `filters`, `tests`: all of them.
-/

namespace TemplateTree.Template

/-- The filters by name. -/
def filters : List (String × Filter) :=
  Filter.ofText ++ Filter.ofNumber ++ Filter.ofMarkup ++ Filter.ofSequence

namespace Test

/-- A test: what it answers for a value and arguments. -/
abbrev Answer := Evaluator → Value → Arguments → Eval Value

/-- A test without arguments. -/
def question (name : String) (body : Evaluator → Value → Eval Bool) : Answer := fun ev v args => do
  let vs ← Formatting.lift
    ((Parameters.mk ("test_" ++ name) 0 [("value", none)]).fill
      { args with positional := v :: args.positional })
  return .bool (← body ev (vs[0]?.getD .none))

/-- A test that only looks at the kind of a value. -/
def kindOf (name : String) (body : Value → Bool) : Answer :=
  question name fun _ v => return body v

/-- A test with one argument. -/
def relation (name parameter : String) (body : Evaluator → Value → Value → Eval Bool) : Answer :=
  fun ev v args => do
    let vs ← Formatting.lift
      ((Parameters.mk ("test_" ++ name) 0 [("value", none), (parameter, none)]).fill
        { args with positional := v :: args.positional })
    return .bool (← body ev (vs[0]?.getD .none) (vs[1]?.getD .none))

/-- A test that is a comparison. -/
def compared (name : String) (op : CompareOp) : Answer := fun ev v args => do
  let vs ← between name name 2 2 { args with positional := v :: args.positional }
  return .bool (← comparison ev op (vs[0]?.getD .none) (vs[1]?.getD .none))

/-- Whether a value is a multiple of another. -/
def isMultiple (ev : Evaluator) (v n : Value) : Eval Bool := do
  same (← remainder ev v n) (.int 0)

/-- Whether a value can be called. -/
def isCallable : Value → Bool
  | .undefined .. | .builtin _ | .method .. => true
  | .object .joiner _ | .object .procedure _ | .object .loop _ | .object .block _ => true
  | _ => false

/-- Whether a value has a length and items by key. -/
def isSequence (v : Value) : Bool :=
  match v with
  | .dict _ => true
  | .undefined _ isStrict => !isStrict
  | v => (sequenceWord? v).isSome

/-- Whether a value can be gone through. -/
def isIterable (v : Value) : Eval Bool := do
  match ← attempt (iterate v) with
  | .ok _ => return true
  | .error f => if f.isOf [.typeError] then return false else throw f

/-- Whether two values are one. -/
def isOne (a b : Value) : Eval Bool := do
  if ← identical a b then return true
  match a, b with
  | .list _, _ | .dict _, _ | .object .., _ | .undefined .., _ | _, .undefined .. => return false
  | a, b => if a.typeName == b.typeName then same a b else return false

/-- Whether a value is the name of an entry. -/
def isEntry {α : Type} (entries : List (String × α)) (v : Value) : Eval Bool := do
  checkKey comparedLimit v
  return v.text?.any fun s => (named? entries s).isSome

/-- The tests by name, apart from the one that asks for tests. -/
def base : List (String × Answer) :=
  [("defined", kindOf "defined" (!·.isUndefined)),
    ("undefined", kindOf "undefined" Value.isUndefined),
    ("none", kindOf "none" Value.isNone),
    ("boolean", kindOf "boolean" fun | .bool _ => true | _ => false),
    ("true", kindOf "true" fun | .bool b => b | _ => false),
    ("false", kindOf "false" fun | .bool b => !b | _ => false),
    ("integer", kindOf "integer" fun | .int _ => true | _ => false),
    ("float", kindOf "float" fun | .float _ => true | _ => false),
    ("number", kindOf "number" fun v => v.number?.isSome),
    ("string", kindOf "string" fun v => v.text?.isSome),
    ("mapping", kindOf "mapping" fun | .dict _ => true | _ => false),
    ("sequence", kindOf "sequence" isSequence),
    ("callable", kindOf "callable" isCallable),
    ("escaped", kindOf "escaped" isMarkup),
    ("iterable", question "iterable" fun _ v => isIterable v),
    ("odd", question "odd" fun ev v => do same (← remainder ev v (.int 2)) (.int 1)),
    ("even", question "even" fun ev v => isMultiple ev v (.int 2)),
    ("divisibleby", relation "divisibleby" "num" isMultiple),
    ("sameas", relation "sameas" "other" fun _ a b => isOne a b),
    ("in", relation "in" "seq" fun ev v c => contains ev v c),
    ("lower", question "lower" fun ev v => do
      return TextMethods.isAllOf Text.isLowerChar Text.isUpperChar (← printed ev v).toList),
    ("upper", question "upper" fun ev v => do
      return TextMethods.isAllOf Text.isUpperChar Text.isLowerChar (← printed ev v).toList),
    ("filter", question "filter" fun _ v => isEntry filters v),
    ("==", compared "eq" .eq), ("eq", compared "eq" .eq), ("equalto", compared "eq" .eq),
    ("!=", compared "ne" .ne), ("ne", compared "ne" .ne),
    (">", compared "gt" .gt), ("gt", compared "gt" .gt), ("greaterthan", compared "gt" .gt),
    (">=", compared "ge" .gteq), ("ge", compared "ge" .gteq),
    ("<", compared "lt" .lt), ("lt", compared "lt" .lt), ("lessthan", compared "lt" .lt),
    ("<=", compared "le" .lteq), ("le", compared "le" .lteq)]

end Test

/-- The tests by name. -/
def tests : List (String × Test.Answer) :=
  ("test", Test.question "test" fun _ v =>
    Test.isEntry (("test", ()) :: Test.base.map fun e => (e.1, ())) v) :: Test.base

end TemplateTree.Template
