import TemplateTree.Template.Constant
import TemplateTree.Template.Symbols

/-!
# Names in expressions

Replaces the names in an expression by the variables that they mean, after its constant parts have been
replaced by their values. Filters and tests that do not exist are found here, unless the expression
belongs to a condition: then they are a fault only when evaluation comes to them.

* `Expr.resolve`: the variables in place of the names.
* `Expr.prepare`: the same after constants have been replaced.
-/

namespace TemplateTree.Template

/-! ## Variables in place of names -/

/-- What is known where an expression stands: its variables, whether printed values are escaped, and
    whether unknown filters and tests are left to evaluation. -/
structure View where
  symbols : Symbols
  escapes : Bool
  isLenient : Bool
  deriving Inhabited

namespace View

/-- The same place inside a condition. -/
def lenient (w : View) : View :=
  { w with isLenient := true }

/-- The variable that a name means. -/
def meaning (w : View) (name : String) : Eval Ref :=
  match w.symbols.find? name with
  | some r => return r
  | none =>
    throw (.raised .unresolved ("Tried to resolve a name to a reference that was unknown to the frame ("
      ++ Text.quoted name ++ ")"))

/-- Fails for a filter or test that has to exist and does not. -/
def check {α : Type} (w : View) (what : String) (table : List (String × α)) (line : Nat)
    (name : String) : Eval Unit :=
  if w.isLenient || (named? table name).isSome then return ()
  else throw (.assertionAt line ("No " ++ what ++ " named " ++ Text.quoted name ++ "."))

end View

mutual

/-- An expression with variables in place of names. -/
def Expr.resolve (w : View) : Expr String → Eval (Expr Ref)
  | .literal l v => do
    checkLiteral v
    return .literal l v
  | .data l s => return .data l s
  | .name l s => return .name l (← w.meaning s)
  | .tuple l es => return .tuple l (← resolveAll w es)
  | .list l es => return .list l (← resolveAll w es)
  | .dict l ps => return .dict l (← resolvePairs w ps)
  | .cond l test yes no => do
    let yes ← yes.resolve w.lenient
    let test ← test.resolve w.lenient
    return .cond l test yes (← resolveOption w.lenient no)
  | .both l a b => return .both l (← a.resolve w) (← b.resolve w)
  | .either l a b => return .either l (← a.resolve w) (← b.resolve w)
  | .not l e => return .not l (← e.resolve w)
  | .binary l op a b => return .binary l op (← a.resolve w) (← b.resolve w)
  | .negate l e => return .negate l (← e.resolve w)
  | .plus l e => return .plus l (← e.resolve w)
  | .concat l _ es => return .concat l w.escapes (← resolveAll w es)
  | .compare l e rest => return .compare l (← e.resolve w) (← resolveRest w rest)
  | .attribute l e field => return .attribute l (← e.resolve w) field
  | .item l e index => return .item l (← e.resolve w) (← index.resolve w)
  | .slice l a b c =>
    return .slice l (← resolveOption w a) (← resolveOption w b) (← resolveOption w c)
  | .call l f args named star starStar =>
    return .call l (← f.resolve w) (← resolveAll w args) (← resolveNamed w named)
      (← resolveOption w star) (← resolveOption w starStar)
  | .filter l e name args named star starStar => do
    w.check "filter" filters l name
    return .filter l (← resolveOption w e) name (← resolveAll w args) (← resolveNamed w named)
      (← resolveOption w star) (← resolveOption w starStar)
  | .test l e name args named star starStar => do
    w.check "test" tests l name
    return .test l (← e.resolve w) name (← resolveAll w args) (← resolveNamed w named)
      (← resolveOption w star) (← resolveOption w starStar)

/-- Expressions with variables in place of names. -/
def resolveAll (w : View) : List (Expr String) → Eval (List (Expr Ref))
  | [] => return []
  | e :: es => return (← e.resolve w) :: (← resolveAll w es)

/-- Pairs with variables in place of names. -/
def resolvePairs (w : View) : List (Expr String × Expr String) → Eval (List (Expr Ref × Expr Ref))
  | [] => return []
  | (k, e) :: ps => return (← k.resolve w, ← e.resolve w) :: (← resolvePairs w ps)

/-- Named arguments with variables in place of names. -/
def resolveNamed (w : View) : List (String × Expr String) → Eval (List (String × Expr Ref))
  | [] => return []
  | (k, e) :: es => return (k, ← e.resolve w) :: (← resolveNamed w es)

/-- The rest of a comparison with variables in place of names. -/
def resolveRest (w : View) : List (CompareOp × Expr String) → Eval (List (CompareOp × Expr Ref))
  | [] => return []
  | (op, e) :: es => return (op, ← e.resolve w) :: (← resolveRest w es)

/-- An expression that may be left out, with variables in place of names. -/
def resolveOption (w : View) : Option (Expr String) → Eval (Option (Expr Ref))
  | none => return none
  | some e => return some (← e.resolve w)

end

mutual

/-- A target with variables in place of names. -/
def Target.resolve (w : View) : Target String → Eval (Target Ref)
  | .name l s => return .name l (← w.meaning s)
  | .field l s field => return .field l (← w.meaning s) field
  | .tuple l ts => return .tuple l (← resolveTargets w ts)

/-- Targets with variables in place of names. -/
def resolveTargets (w : View) : List (Target String) → Eval (List (Target Ref))
  | [] => return []
  | t :: ts => return (← t.resolve w) :: (← resolveTargets w ts)

end

/-! ## Constants first -/

mutual

/-- An expression with its constant parts replaced; a tuple, list or map that is the whole expression
    stays one. -/
def Expr.simplify (ev : Evaluator) (st : EscapeState) : Expr String → Eval (Expr String)
  | .tuple l es => return .tuple l (← simplifyAll ev st es)
  | .list l es => return .list l (← simplifyAll ev st es)
  | .dict l ps => return .dict l (← simplifyPairs ev st ps)
  | e => fold ev st e

/-- Expressions with their constant parts replaced. -/
def simplifyAll (ev : Evaluator) (st : EscapeState) :
    List (Expr String) → Eval (List (Expr String))
  | [] => return []
  | e :: es => return (← e.simplify ev st) :: (← simplifyAll ev st es)

/-- Pairs with their constant parts replaced. -/
def simplifyPairs (ev : Evaluator) (st : EscapeState) :
    List (Expr String × Expr String) → Eval (List (Expr String × Expr String))
  | [] => return []
  | (k, e) :: ps => return (← k.simplify ev st, ← e.simplify ev st) :: (← simplifyPairs ev st ps)

end

/-- An expression ready for evaluation. Nothing is known to be constant where escaping depends on the
    evaluation. -/
def Expr.prepare (ev : Evaluator) (st : EscapeState) (w : View) (e : Expr String) :
    Eval (Expr Ref) := do
  let e ← if st.isKnown then e.simplify ev st else pure e
  e.resolve w

end TemplateTree.Template
