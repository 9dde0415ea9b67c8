import TemplateTree.Template.Test

/-!
# Constant expressions

Expressions without variables and calls have their value before a template is evaluated. They are
replaced by it, unless finding it fails: then the fault is left to evaluation, where it may not be
reached. Some faults cannot wait: to ask whether an undefined value is true, to print one, and to use
as a key what cannot be one.

* `valueOf`: the value of a literal.
* `constant?`: the value of a constant expression.
* `fold`: an expression with its constant parts replaced.
-/

namespace TemplateTree.Template

/-! ## Literals -/

mutual

/-- The value of a literal. A literal float that is no number has no name. -/
def valueOf : Literal → Eval Value
  | .none => return .none
  | .bool b => return .bool b
  | .int n => return .int n
  | .float x =>
    if x.isNaN then throw (.raised .unknownName "name 'nan' is not defined")
    else if !Decimal.isFinite x then throw (.raised .unknownName "name 'inf' is not defined")
    else return .float x
  | .text s => return .text s
  | .markup s => return .markup s
  | .range start stop step => return .range start stop step
  | .tuple items => return .tuple (← valuesOf items)
  | .list items => do newList (← valuesOf items)
  | .dict pairs => do newDict (← storeAll [] (← pairsOfLiterals pairs))

/-- The values of literals. -/
def valuesOf : List Literal → Eval (List Value)
  | [] => return []
  | l :: rest => return (← valueOf l) :: (← valuesOf rest)

/-- The values of pairs of literals. -/
def pairsOfLiterals : List (Literal × Literal) → Eval (List (Value × Value))
  | [] => return []
  | (k, v) :: rest => return (← valueOf k, ← valueOf v) :: (← pairsOfLiterals rest)

end

/-- The value of a literal that is part of a constant; here every float is a value. -/
def constantOf (l : Literal) : Eval Value :=
  match l with
  | .float x => return .float x
  | l => valueOf l

mutual

/-- Whether a literal has no integer with too many digits. -/
def Literal.canBeWritten : Literal → Bool
  | .int n => !Decimal.isTooLong n
  | .tuple items | .list items => allCanBeWritten items
  | .dict pairs => pairsCanBeWritten pairs
  | _ => true

/-- Whether no literal has an integer with too many digits. -/
def allCanBeWritten : List Literal → Bool
  | [] => true
  | l :: rest => l.canBeWritten && allCanBeWritten rest

/-- Whether no literal of some pairs has an integer with too many digits. -/
def pairsCanBeWritten : List (Literal × Literal) → Bool
  | [] => true
  | (k, v) :: rest => k.canBeWritten && v.canBeWritten && pairsCanBeWritten rest

end

/-- Fails for a literal that cannot be written down. -/
def checkLiteral (l : Literal) : Eval Unit :=
  if l.canBeWritten then return () else throw (.value Decimal.tooLongToWrite)

/-- The literal for a value, if there is one. -/
def literalOf? : Nat → Value → Eval (Option Literal)
  | 0, _ => return none
  | fuel + 1, v => do
    let all := fun vs => do
      let ls ← List.mapM (literalOf? fuel) vs
      return ls.mapM id
    match v with
    | .none => return some .none
    | .bool b => return some (.bool b)
    | .int n => return some (.int n)
    | .float x => return some (.float x)
    | .text s => return some (.text s)
    | .markup s => return some (.markup s)
    | .range start stop step => return some (.range start stop step)
    | .tuple vs => return (← all vs).map .tuple
    | .list id => return (← all (← listItems id).toList).map .list
    | .dict id =>
      let entries ← dictEntries id
      match ← all (entries.map (·.1)), ← all (entries.map (·.2)) with
      | some ks, some ls => return some (.dict (ks.zip ls))
      | _, _ => return none
    | _ => return none

/-! ## Values of constant expressions -/

/-- What is known about escaping where an expression stands: nothing, if it depends on the evaluation. -/
structure EscapeState where
  isKnown : Bool
  escapes : Bool
  deriving DecidableEq, Repr, Inhabited

/-- A value, unless finding it fails. -/
def orLater (act : Eval (Option Value)) : Eval (Option Value) := do
  match ← attempt act with
  | .ok v => return v
  | .error _ => return none

/-- A chain of comparisons between constants. -/
def chain (ev : Evaluator) : Value → List (CompareOp × Value) → Eval Value
  | _, [] => return .bool true
  | a, (op, b) :: rest => do
    if ← comparison ev op a b then chain ev b rest else return .bool false

/-- The filter under a name, if it can be applied early. -/
def earlyFilter? (name : String) : Option Filter :=
  (named? filters name).filter (·.isEarly)

/-- Positional and named arguments from their parts; the last two may be left out. -/
def gather (ev : Evaluator) (args : List Value) (named : List (String × Value))
    (star starStar : Option Value) : Eval Arguments := do
  let more ←
    match star with
    | none => pure []
    | some v => collect ev v
  let others ←
    match starStar with
    | some (.dict id) => (← dictEntries id).mapM fun (k, v) => do
      match k.text? with
      | some s => return (s, v)
      | none => throw (.type "keywords must be strings")
    | some v => throw (.type ("argument after ** must be a mapping, not " ++ v.typeName))
    | none => pure []
  return ⟨args ++ more, others.foldl (fun acc (k, v) => setNamed k v acc) named⟩

/-- Constant arguments, if all their parts are constant and they can be gathered. -/
def gathered? (ev : Evaluator) (args : Option (List Value)) (named : Option (List (String × Value)))
    (star starStar : Option (Option Value)) : Eval (Option Arguments) := do
  match args, named, star, starStar with
  | some vs, some ns, some x, some y => do
    match ← attempt (gather ev vs ns x y) with
    | .ok given => return some given
    | .error _ => return none
  | _, _, _, _ => return none

mutual

/-- The value of a constant expression. -/
def constant? (ev : Evaluator) (st : EscapeState) : Expr String → Eval (Option Value)
  | .literal _ l => return some (← constantOf l)
  | .data _ s =>
    if !st.isKnown then return none
    else return some (if st.escapes then .markup s else .text s)
  | .name .. | .call .. => return none
  | .tuple _ es => do return (← constants? ev st es).map .tuple
  | .list _ es => do
    match ← constants? ev st es with
    | some vs => return some (← newList vs)
    | none => return none
  | .dict _ ps => do
    match ← constantPairs? ev st ps with
    | some pairs => return some (← newDict (← storeAll [] pairs))
    | none => return none
  | .cond _ test yes no => do
    match ← constant? ev st test with
    | none => return none
    | some t => if ← truth ev t then constant? ev st yes else constantOption? ev st no
  | .both _ a b => do
    match ← constant? ev st a with
    | none => return none
    | some v => if ← truth ev v then constant? ev st b else return some v
  | .either _ a b => do
    match ← constant? ev st a with
    | none => return none
    | some v => if ← truth ev v then return some v else constant? ev st b
  | .not _ e => orLater do
    match ← constant? ev st e with
    | none => return none
    | some v => return some (.bool (!(← truth ev v)))
  | .binary _ op a b => orLater do
    match ← constant? ev st a with
    | none => return none
    | some v =>
      match ← constant? ev st b with
      | none => return none
      | some w => return some (← binary ev op v w)
  | .negate _ e => orLater do
    match ← constant? ev st e with
    | none => return none
    | some v => return some (← negate v)
  | .plus _ e => orLater do
    match ← constant? ev st e with
    | none => return none
    | some v => return some (← plus v)
  | .concat _ _ es => do
    match ← constants? ev st es with
    | none => return none
    | some vs => return some (.text (String.join (← vs.mapM (printed ev))))
  | .compare _ e rest => do
    match ← constant? ev st e with
    | none => return none
    | some v => orLater do
      match ← constantRest? ev st rest with
      | none => return none
      | some ws => return some (← chain ev v ws)
  | .attribute _ e field => orLater do
    match ← constant? ev st e with
    | none => return none
    | some v => return some (← getAttribute ev v field)
  | .item _ e index => orLater do
    match ← constant? ev st e with
    | none => return none
    | some v =>
      match ← constant? ev st index with
      | none => return none
      | some k => return some (← getItem ev v k)
  | .slice _ a b c => do
    match ← constantBound? ev st a, ← constantBound? ev st b, ← constantBound? ev st c with
    | some x, some y, some z => return some (.slice x y z)
    | _, _, _ => return none
  | .filter _ e name args named star starStar => do
    match st.isKnown, earlyFilter? name with
    | true, some f =>
      let vs ← constants? ev st args
      let ns ← constantNamed? ev st named
      let x ← constantSpread? ev st star
      let y ← constantSpread? ev st starStar
      match ← gathered? ev vs ns x y, ← constantOption? ev st e with
      | some given, some v => orLater do return some (← f.apply ev st.escapes v given)
      | _, _ => return none
    | _, _ => return none
  | .test _ e name args named star starStar => do
    match st.isKnown, named? tests name with
    | true, some t =>
      let vs ← constants? ev st args
      let ns ← constantNamed? ev st named
      let x ← constantSpread? ev st star
      let y ← constantSpread? ev st starStar
      match ← gathered? ev vs ns x y, ← constant? ev st e with
      | some given, some v => orLater do return some (← t ev v given)
      | _, _ => return none
    | _, _ => return none

/-- The values of constant expressions, if all are constant. -/
def constants? (ev : Evaluator) (st : EscapeState) :
    List (Expr String) → Eval (Option (List Value))
  | [] => return some []
  | e :: es => do
    match ← constant? ev st e with
    | none => return none
    | some v => return (← constants? ev st es).map (v :: ·)

/-- The values of pairs of constant expressions. -/
def constantPairs? (ev : Evaluator) (st : EscapeState) :
    List (Expr String × Expr String) → Eval (Option (List (Value × Value)))
  | [] => return some []
  | (k, e) :: ps => do
    match ← constant? ev st k with
    | none => return none
    | some a =>
      match ← constant? ev st e with
      | none => return none
      | some b => return (← constantPairs? ev st ps).map ((a, b) :: ·)

/-- The values of constant named arguments. -/
def constantNamed? (ev : Evaluator) (st : EscapeState) :
    List (String × Expr String) → Eval (Option (List (String × Value)))
  | [] => return some []
  | (k, e) :: es => do
    match ← constant? ev st e with
    | none => return none
    | some v => return (← constantNamed? ev st es).map ((k, v) :: ·)

/-- The values of the rest of a comparison. -/
def constantRest? (ev : Evaluator) (st : EscapeState) :
    List (CompareOp × Expr String) → Eval (Option (List (CompareOp × Value)))
  | [] => return some []
  | (op, e) :: es => do
    match ← constant? ev st e with
    | none => return none
    | some v => return (← constantRest? ev st es).map ((op, v) :: ·)

/-- The value of an expression that may be left out; there is none if it is. -/
def constantOption? (ev : Evaluator) (st : EscapeState) :
    Option (Expr String) → Eval (Option Value)
  | none => return none
  | some e => constant? ev st e

/-- The value of an expression that stands for nothing if it is left out. -/
def constantBound? (ev : Evaluator) (st : EscapeState) :
    Option (Expr String) → Eval (Option Value)
  | none => return some .none
  | some e => constant? ev st e

/-- The value of arguments that may be left out. -/
def constantSpread? (ev : Evaluator) (st : EscapeState) :
    Option (Expr String) → Eval (Option (Option Value))
  | none => return some none
  | some e => do return (← constant? ev st e).map some

end

theorem constant?_name (ev : Evaluator) (st : EscapeState) (line : Nat) (name : String) :
    constant? ev st (.name line name) = pure none := by
  unfold constant?
  rfl

/-! ## Folding -/

/-- A literal in place of an expression that is constant. -/
def settle (ev : Evaluator) (st : EscapeState) (e : Expr String) : Eval (Expr String) := do
  match e with
  | .literal .. | .name .. | .data .. => return e
  | e =>
    match ← constant? ev st e with
    | none => return e
    | some v =>
      match ← literalOf? shownLimit v with
      | some l => return .literal e.line l
      | none => return e

mutual

/-- An expression with its constant parts replaced, inner ones first. -/
def fold (ev : Evaluator) (st : EscapeState) : Expr String → Eval (Expr String)
  | .literal l v => return .literal l v
  | .data l s => return .data l s
  | .name l s => return .name l s
  | .tuple l es => do settle ev st (.tuple l (← foldAll ev st es))
  | .list l es => do settle ev st (.list l (← foldAll ev st es))
  | .dict l ps => do settle ev st (.dict l (← foldPairs ev st ps))
  | .cond l a b c => do
    let a ← fold ev st a
    let b ← fold ev st b
    settle ev st (.cond l a b (← foldOption ev st c))
  | .both l a b => do
    let a ← fold ev st a
    settle ev st (.both l a (← fold ev st b))
  | .either l a b => do
    let a ← fold ev st a
    settle ev st (.either l a (← fold ev st b))
  | .not l e => do settle ev st (.not l (← fold ev st e))
  | .binary l op a b => do
    let a ← fold ev st a
    settle ev st (.binary l op a (← fold ev st b))
  | .negate l e => do settle ev st (.negate l (← fold ev st e))
  | .plus l e => do settle ev st (.plus l (← fold ev st e))
  | .concat l escapes es => do settle ev st (.concat l escapes (← foldAll ev st es))
  | .compare l e rest => do
    let e ← fold ev st e
    settle ev st (.compare l e (← foldRest ev st rest))
  | .attribute l e field => do settle ev st (.attribute l (← fold ev st e) field)
  | .item l e index => do
    let e ← fold ev st e
    settle ev st (.item l e (← fold ev st index))
  | .slice l a b c => do
    let a ← foldOption ev st a
    let b ← foldOption ev st b
    settle ev st (.slice l a b (← foldOption ev st c))
  | .call l f args named star starStar => do
    let f ← fold ev st f
    let args ← foldAll ev st args
    let named ← foldNamed ev st named
    let star ← foldOption ev st star
    return .call l f args named star (← foldOption ev st starStar)
  | .filter l e name args named star starStar => do
    let e ← foldOption ev st e
    let args ← foldAll ev st args
    let named ← foldNamed ev st named
    let star ← foldOption ev st star
    settle ev st (.filter l e name args named star (← foldOption ev st starStar))
  | .test l e name args named star starStar => do
    let e ← fold ev st e
    let args ← foldAll ev st args
    let named ← foldNamed ev st named
    let star ← foldOption ev st star
    settle ev st (.test l e name args named star (← foldOption ev st starStar))

/-- Expressions with their constant parts replaced. -/
def foldAll (ev : Evaluator) (st : EscapeState) : List (Expr String) → Eval (List (Expr String))
  | [] => return []
  | e :: es => return (← fold ev st e) :: (← foldAll ev st es)

/-- Pairs with their constant parts replaced. -/
def foldPairs (ev : Evaluator) (st : EscapeState) :
    List (Expr String × Expr String) → Eval (List (Expr String × Expr String))
  | [] => return []
  | (k, e) :: ps => return (← fold ev st k, ← fold ev st e) :: (← foldPairs ev st ps)

/-- Named arguments with their constant parts replaced. -/
def foldNamed (ev : Evaluator) (st : EscapeState) :
    List (String × Expr String) → Eval (List (String × Expr String))
  | [] => return []
  | (k, e) :: es => return (k, ← fold ev st e) :: (← foldNamed ev st es)

/-- The rest of a comparison with its constant parts replaced. -/
def foldRest (ev : Evaluator) (st : EscapeState) :
    List (CompareOp × Expr String) → Eval (List (CompareOp × Expr String))
  | [] => return []
  | (op, e) :: es => return (op, ← fold ev st e) :: (← foldRest ev st es)

/-- An expression that may be left out, with its constant parts replaced. -/
def foldOption (ev : Evaluator) (st : EscapeState) :
    Option (Expr String) → Eval (Option (Expr String))
  | none => return none
  | some e => return some (← fold ev st e)

end

end TemplateTree.Template
