import TemplateTree.Template.Comparison

/-!
# Parameters of built-in operations

How arguments are matched with what a built-in operation takes, and the faults when they do not fit.
Methods take arguments by position; filters and tests take them by position or name, and have defaults.

* `nothing`, `single`, `between`, `counted`: arguments of methods.
* `Parameters.fill`: arguments of filters and tests.
-/

namespace TemplateTree.Template

/-! ## Arguments by position -/

/-- A count of arguments in words. -/
def argumentCount (n : Nat) : String :=
  toString n ++ (if n == 1 then " argument" else " arguments")

/-- Refuses named arguments. `label` is the method with its type. -/
def noNames (label : String) (args : Arguments) : Eval Unit :=
  if args.named.isEmpty then return ()
  else throw (.type (label ++ "() takes no keyword arguments"))

/-- Refuses all arguments. -/
def nothing (label : String) (args : Arguments) : Eval Unit := do
  noNames label args
  match args.positional.length with
  | 0 => return ()
  | n => throw (.type (label ++ "() takes no arguments (" ++ toString n ++ " given)"))

/-- The only argument. -/
def single (label : String) (args : Arguments) : Eval Value := do
  noNames label args
  match args.positional with
  | [v] => return v
  | vs =>
    throw (.type (label ++ "() takes exactly one argument (" ++ toString vs.length ++ " given)"))

/-- Between `low` and `high` arguments. `name` is the method without its type. -/
def between (label name : String) (low high : Nat) (args : Arguments) : Eval (List Value) := do
  noNames label args
  let n := args.positional.length
  if low == high && n != low then
    throw (.type (name ++ " expected " ++ argumentCount low ++ ", got " ++ toString n))
  if n < low then
    throw (.type (name ++ " expected at least " ++ argumentCount low ++ ", got " ++ toString n))
  if high < n then
    throw (.type (name ++ " expected at most " ++ argumentCount high ++ ", got " ++ toString n))
  return args.positional

/-- Between `low` and `high` arguments, worded as for an operation with places. -/
def counted (label name : String) (low high : Nat) (args : Arguments) : Eval (List Value) := do
  noNames label args
  let n := args.positional.length
  let given := " (" ++ toString n ++ " given)"
  if n < low then
    throw (.type (name ++ "() takes at least " ++ argumentCount low ++ given))
  if high < n then
    throw (.type (name ++ "() takes at most " ++ argumentCount high ++ given))
  return args.positional

/-- An argument that has to be an integer. -/
def wanted (v : Value) : Eval Int :=
  match v, v.integer? with
  | _, some n => return n
  | v, none => throw (.type ("'" ++ v.typeName ++ "' object cannot be interpreted as an integer"))

/-! ## Arguments by position or name -/

/-- What a filter or test takes: the name that it has in messages, how many values it is given before
    the arguments in the template, and its parameters with their defaults. The first parameter is the
    value that the filter or test is applied to. -/
structure Parameters where
  label : String
  hidden : Nat
  params : List (String × Option Value)
  deriving Inhabited

/-- Names in a sentence. -/
def inSentence (names : List String) : String :=
  match names with
  | [] => ""
  | [a] => a
  | [a, b] => a ++ " and " ++ b
  | names => ", ".intercalate names.dropLast ++ ", and " ++ names.getLast?.getD ""

namespace Parameters

/-- The fault of too many positional arguments. -/
def tooMany (p : Parameters) (given : Nat) : Fault :=
  let all := p.hidden + p.params.length
  let least := p.hidden + (p.params.filter fun q => q.2.isNone).length
  let takes := if least == all then toString all
    else "from " ++ toString least ++ " to " ++ toString all
  .type (p.label ++ "() takes " ++ takes ++ " positional argument"
    ++ (if all == 1 then "" else "s") ++ " but " ++ toString (p.hidden + given)
    ++ (if p.hidden + given == 1 then " was given" else " were given"))

/-- The fault of missing arguments. -/
def missing (p : Parameters) (names : List String) : Fault :=
  .type (p.label ++ "() missing " ++ toString names.length ++ " required positional argument"
    ++ (if names.length == 1 then "" else "s") ++ ": " ++ inSentence (names.map Text.quoted))

/-- One value for every parameter. -/
def fill (p : Parameters) (args : Arguments) : Except Fault (List Value) := do
  let positional := args.positional
  let named ← args.named.foldlM (fun acc (name, v) =>
    match (p.params.map (·.1)).idxOf? name with
    | none =>
      throw (.type (p.label ++ "() got an unexpected keyword argument " ++ Text.quoted name))
    | some i =>
      if i < positional.length then
        throw (.type (p.label ++ "() got multiple values for argument " ++ Text.quoted name))
      else pure ((name, v) :: acc)) ([] : List (String × Value))
  if p.params.length < positional.length then throw (p.tooMany positional.length)
  let rest := p.params.drop positional.length
  let absent := rest.filter fun (name, default) => (named? named name).isNone && default.isNone
  if !absent.isEmpty then throw (p.missing (absent.map (·.1)))
  pure (positional ++ rest.map fun (name, default) =>
    (named? named name).getD (default.getD .none))

end Parameters

end TemplateTree.Template
