import TemplateTree.Template.Constant
import TemplateTree.Template.Variables

/-!
# Evaluating expressions

The value of an expression at a site. Operands are evaluated from left to right; conditions, `and` and
`or`, and chains of comparisons stop as soon as the result is known.

* `evaluate`: the value of an expression.
-/

namespace TemplateTree.Template

/-- Whether what is printed at a site is escaped. -/
def escapesAt (site : Site) : Eval Bool := do
  return (← contextAt site.context).escapes

/-- The name of the template at a site, for messages. -/
def templateName (site : Site) : Eval String := do
  return (← templateAt site.template).name

/-- What stands for a condition that is false and has no other branch. -/
def noBranch (site : Site) (line : Nat) : Eval Value := do
  return .undefined ("the inline if-expression on line " ++ toString line ++ " in "
    ++ Text.quoted (← templateName site) ++ " evaluated to false and no else section was defined.")
    false

/-- A part of a value by slice. Other than an item, what is not there is a fault. -/
def evaluateItem (ev : Evaluator) (v key : Value) : Eval Value :=
  match key with
  | .slice .. => do
    match v with
    | .dict _ => throw (.type "unhashable type: 'slice'")
    | v => subscript ev v key
  | key => getItem ev v key

/-- The arguments that follow a star. -/
def starred (ev : Evaluator) (label : String) (v : Value) : Eval (List Value) := do
  match ← attempt (collect ev v) with
  | .ok vs => return vs
  | .error f =>
    if f.isOf [.typeError] then
      throw (.type (label ++ " argument after * must be an iterable, not " ++ v.typeName))
    else throw f

/-- The named arguments that follow two stars. -/
def doubleStarred (label : String) (given : List (String × Value)) (v : Value) :
    Eval (List (String × Value)) := do
  match v with
  | .dict id =>
    (← dictEntries id).foldlM (fun acc (k, x) => do
      match k.text? with
      | none => throw (.type "keywords must be strings")
      | some s =>
        if (named? acc s).isSome then
          throw (.type (label ++ " got multiple values for keyword argument " ++ Text.quoted s))
        return acc ++ [(s, x)]) given
  | .undefined message true => throw (.undefined message)
  | v => throw (.type (label ++ " argument after ** must be a mapping, not " ++ v.typeName))

/-- Arguments from their parts. -/
def arguments (ev : Evaluator) (label : String) (args : List Value) (named : List (String × Value))
    (star starStar : Option Value) : Eval Arguments := do
  let more ←
    match star with
    | some v => starred ev label v
    | none => pure []
  let named ←
    match starStar with
    | some v => doubleStarred label named v
    | none => pure named
  return ⟨args ++ more, named⟩

/-- The label of a call in messages about its arguments. -/
def callLabel : String := "jinja2.runtime.Context.call()"

/-- The label of a filter or test in messages about its arguments. -/
def filterLabel (name : String) : String := "jinja2.filters.do_" ++ name ++ "()"

mutual

/-- The value of an expression. -/
def evaluate (ev : Evaluator) (site : Site) : Expr Ref → Eval Value
  | .literal _ l => valueOf l
  | .data _ s => do return if ← escapesAt site then .markup s else .text s
  | .name _ r => useVariable site r
  | .tuple _ es => return .tuple (← evaluateAll ev site es)
  | .list _ es => do newList (← evaluateAll ev site es)
  | .dict _ ps => do newDict (← storeAll [] (← evaluatePairs ev site ps))
  | .cond l test yes no => do
    if ← truth ev (← evaluate ev site test) then evaluate ev site yes
    else
      match ← evaluateOption ev site no with
      | some v => return v
      | none => noBranch site l
  | .both _ a b => do
    let v ← evaluate ev site a
    if ← truth ev v then evaluate ev site b else return v
  | .either _ a b => do
    let v ← evaluate ev site a
    if ← truth ev v then return v else evaluate ev site b
  | .not _ e => do return .bool (!(← truth ev (← evaluate ev site e)))
  | .binary _ op a b => do
    let v ← evaluate ev site a
    binary ev op v (← evaluate ev site b)
  | .negate _ e => do negate (← evaluate ev site e)
  | .plus _ e => do plus (← evaluate ev site e)
  | .concat _ escapes es => do concatenation ev escapes (← evaluateAll ev site es)
  | .compare _ e rest => do evaluateChain ev site (← evaluate ev site e) rest
  | .attribute _ e field => do getAttribute ev (← evaluate ev site e) field
  | .item _ e index => do
    let v ← evaluate ev site e
    evaluateItem ev v (← evaluate ev site index)
  | .slice _ a b c => do
    let start ← evaluateOption ev site a
    let stop ← evaluateOption ev site b
    let step ← evaluateOption ev site c
    return .slice (start.getD .none) (stop.getD .none) (step.getD .none)
  | .call _ f args named star starStar => do
    let f ← evaluate ev site f
    let args ← evaluateAll ev site args
    let star ← evaluateOption ev site star
    let named ← evaluateNamed ev site named
    let starStar ← evaluateOption ev site starStar
    ev.call (← escapesAt site) f (← arguments ev callLabel args named star starStar)
  | .filter _ e name args named star starStar => do
    let v := (← evaluateOption ev site e).getD site.captured
    let args ← evaluateAll ev site args
    let star ← evaluateOption ev site star
    let named ← evaluateNamed ev site named
    let starStar ← evaluateOption ev site starStar
    let given ← arguments ev (filterLabel name) args named star starStar
    match named? filters name with
    | some f => f.apply ev (← escapesAt site) v given
    | none => throw (.runtime ("No filter named " ++ Text.quoted name ++ " found."))
  | .test _ e name args named star starStar => do
    let v ← evaluate ev site e
    let args ← evaluateAll ev site args
    let star ← evaluateOption ev site star
    let named ← evaluateNamed ev site named
    let starStar ← evaluateOption ev site starStar
    let given ← arguments ev (filterLabel name) args named star starStar
    match named? tests name with
    | some t => t ev v given
    | none => throw (.runtime ("No test named " ++ Text.quoted name ++ " found."))

/-- The values of expressions. -/
def evaluateAll (ev : Evaluator) (site : Site) : List (Expr Ref) → Eval (List Value)
  | [] => return []
  | e :: es => do
    let v ← evaluate ev site e
    return v :: (← evaluateAll ev site es)

/-- The values of pairs of expressions. -/
def evaluatePairs (ev : Evaluator) (site : Site) :
    List (Expr Ref × Expr Ref) → Eval (List (Value × Value))
  | [] => return []
  | (k, e) :: ps => do
    let key ← evaluate ev site k
    let v ← evaluate ev site e
    return (key, v) :: (← evaluatePairs ev site ps)

/-- The values of named arguments. -/
def evaluateNamed (ev : Evaluator) (site : Site) :
    List (String × Expr Ref) → Eval (List (String × Value))
  | [] => return []
  | (k, e) :: es => do
    let v ← evaluate ev site e
    return (k, v) :: (← evaluateNamed ev site es)

/-- The value of an expression that may be left out. -/
def evaluateOption (ev : Evaluator) (site : Site) : Option (Expr Ref) → Eval (Option Value)
  | none => return none
  | some e => return some (← evaluate ev site e)

/-- Whether a chain of comparisons holds. -/
def evaluateChain (ev : Evaluator) (site : Site) (v : Value) :
    List (CompareOp × Expr Ref) → Eval Value
  | [] => return .bool true
  | (op, e) :: rest => do
    let w ← evaluate ev site e
    if ← comparison ev op v w then evaluateChain ev site w rest else return .bool false

end

theorem evaluate_name (ev : Evaluator) (site : Site) (line : Nat) (r : Ref) :
    evaluate ev site (.name line r) = useVariable site r := by
  unfold evaluate
  rfl

end TemplateTree.Template
