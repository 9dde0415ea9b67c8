import TemplateTree.Template.Methods

/-!
# Filters

A filter makes a value of a value. It takes further arguments by position or name. Some filters need to
know more than their arguments, and cannot be applied before a template is evaluated.

* `Filter`: a filter.
* `Filter.of`: a filter with fixed parameters.
* `itemStep`: what filters over sequences take of an item.
-/

namespace TemplateTree.Template

/-- A filter. `isEarly` says whether it can be applied to constants before evaluation; `apply` is told
    whether output is escaped. -/
structure Filter where
  isEarly : Bool
  apply : Evaluator → Bool → Value → Arguments → Eval Value

namespace Filter

/-- A parameter that has to be given. -/
def needed (name : String) : String × Option Value := (name, none)

/-- A parameter with a default. -/
def given (name : String) (default : Value) : String × Option Value := (name, some default)

/-- A filter with fixed parameters, the first of which is the value. -/
def of (label : String) (hidden : Nat) (params : List (String × Option Value))
    (body : Evaluator → Bool → List Value → Eval Value) : Filter :=
  ⟨true, fun ev escapes v args => do
    let vs ← Formatting.lift
      ((Parameters.mk label hidden params).fill { args with positional := v :: args.positional })
    body ev escapes vs⟩

/-- A filter that only takes the value. -/
def plain (label parameter : String) (body : Evaluator → Value → Eval Value) : Filter :=
  of label 0 [needed parameter] fun ev _ vs => body ev (vs[0]?.getD .none)

/-- An argument by its place. -/
def arg (vs : List Value) (i : Nat) : Value :=
  vs[i]?.getD .none

end Filter

/-! ## Parts of items -/

/-- The path of keys that an attribute stands for: nothing, a number, or names and numbers with points
    between them. -/
def attributeParts (path : Value) : List Value :=
  match path with
  | .none => []
  | .text s | .markup s =>
    (Text.splitWithin ['.'] s.length s.toList).map fun part =>
      if !part.isEmpty && part.all Text.isDigit then .int (Text.digitsValue part) else textOf part
  | v => [v]

/-- The paths of several attributes with commas between them. -/
def attributePaths (path : Value) : List (List Value) :=
  match path with
  | .text s | .markup s =>
    (Text.splitWithin [','] s.length s.toList).map fun part => attributeParts (textOf part)
  | v => [attributeParts v]

/-- A text in lower case; other values as they are. -/
def withoutCase (v : Value) : Value :=
  match v with
  | .text s => .text (String.ofList (Text.lower s.toList))
  | .markup s => .markup (String.ofList (Text.lower s.toList))
  | v => v

/-- What a sequence is ordered by: a part of each item, in lower case unless case matters. -/
def sortKey (ev : Evaluator) (caseMatters : Bool) (parts : List Value) (default v : Value) :
    Eval Value := do
  let x ← getPart ev parts default v
  return if caseMatters then x else withoutCase x

/-- What is taken of an item. -/
def itemStep (ev : Evaluator) (escapes : Bool) (step : ItemStep) (v : Value) : Eval Value := do
  match step with
  | .attribute parts default => getPart ev parts default v
  | .filter name args =>
    match name.text? with
    | some s => ev.filter escapes s v args
    | none => throw (.runtime ("No filter named " ++ (← shown ev name) ++ "."))

/-- Whether an item fulfils a test. -/
def itemTest (ev : Evaluator) (test : ItemTest) (v : Value) : Eval Bool := do
  match test with
  | .truth => truth ev v
  | .test name args =>
    match name.text? with
    | some s => truth ev (← ev.test s v args)
    | none => throw (.runtime ("No test named " ++ (← shown ev name) ++ "."))

end TemplateTree.Template
