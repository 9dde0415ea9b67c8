import TemplateTree.Decimal.Binary
import TemplateTree.Text.Search
import TemplateTree.Template.Sequence

/-!
# Comparing values

Truth, equality, order and membership. Numbers compare by their exact values, texts by code points, lists
and tuples by the first item that differs. Values of different kinds are unequal, and have no order. To
use an undefined value here is a fault, unless it is a lenient one and only asked for truth or equality.

* `truth`, `same`, `ordered`, `contains`: the four questions.
* `lookup`, `store`, `remove`: maps by key.
* `sorted`: a stable order.
-/

namespace TemplateTree.Template

/-- The operators of order. -/
inductive OrderOp
  | lt
  | le
  | gt
  | ge
  deriving DecidableEq, Repr

namespace OrderOp

/-- How an operator is written. -/
def text : OrderOp → String
  | .lt => "<"
  | .le => "<="
  | .gt => ">"
  | .ge => ">="

/-- Whether an operator accepts an outcome. -/
def accepts : OrderOp → Ordering → Bool
  | .lt, o => o == .lt
  | .le, o => o != .gt
  | .gt, o => o == .gt
  | .ge, o => o != .lt

end OrderOp

/-- Whether a value counts as true. -/
def truth (ev : Evaluator) (v : Value) : Eval Bool := do
  match v with
  | .none => return false
  | .bool b => return b
  | .int n => return n != 0
  | .float x => return x != 0
  | .undefined message isStrict => if isStrict then throw (.undefined message) else return false
  | .project _ => return true
  | .object .loop id => return (← loopLength ev id) != 0
  | v => return (← plainLength? v).all (· != 0)

/-! ## Equality -/

/-- Goes through two lists side by side as long as a step says yes. -/
def allBoth {α β : Type} (step : α → β → Eval Bool) : List α → List β → Eval Bool
  | [], [] => return true
  | a :: as, b :: bs => do
    if ← step a b then allBoth step as bs else return false
  | _, _ => return false

/-- The first result of a step over a list. -/
def firstOf {α β : Type} (step : α → Eval (Option β)) : List α → Eval (Option β)
  | [] => return none
  | a :: rest => do
    match ← step a with
    | some b => return some b
    | none => firstOf step rest

/-- Whether a step says yes for all items. -/
def allOf {α : Type} (step : α → Eval Bool) : List α → Eval Bool
  | [] => return true
  | a :: rest => do
    if ← step a then allOf step rest else return false

/-- Whether a step says yes for an item. -/
def anyOf {α : Type} (step : α → Eval Bool) : List α → Eval Bool
  | [] => return false
  | a :: rest => do
    if ← step a then return true else anyOf step rest

/-- Whether two values are one and the same. -/
def identical : Value → Value → Eval Bool
  | .none, .none => return true
  | .bool a, .bool b => return a == b
  | .int a, .int b => return a == b
  | .text a, .text b => return a == b
  | .list a, .list b | .dict a, .dict b => isCell a b
  | .object k a, .object l b => if k == l then isCell a b else return false
  | .builtin f, .builtin g => return f == g
  | .tuple [], .tuple [] => return true
  | _, _ => return false

/-- Equality of values that are nested at most so deep. -/
def sameWithin : Nat → Value → Value → Eval Bool
  | 0, _, _ => throw (.raised .recursion "maximum recursion depth exceeded in comparison")
  | fuel + 1, a, b => do
    let within := fun x y => do if ← identical x y then return true else sameWithin fuel x y
    match a, b with
    | .undefined message true, _ | _, .undefined message true => throw (.undefined message)
    | .undefined .., .undefined .. => return true
    | .none, .none => return true
    | .text s, .text t | .text s, .markup t | .markup s, .text t | .markup s, .markup t =>
      return s == t
    | .bytes s, .bytes t => return s == t
    | .date d, .date e => return d == e
    | .dateTime s, .dateTime t => return (Scalar.dateTime s).same (.dateTime t)
    | .set s, .set t =>
      if s.length != t.length then return false
      allOf (fun x => anyOf (within x) t) s
    | .range s t u, .range s' t' u' =>
      let n := rangeLength s t u
      return n == rangeLength s' t' u' && (n == 0 || (s == s' && (n == 1 || u == u')))
    | .slice s t u, .slice s' t' u' => allBoth within [s, t, u] [s', t', u']
    | .project p, .project q => return p == q
    | .path p, .path q => return p == q
    | .list x, .list y => allBoth within (← listItems x).toList (← listItems y).toList
    | .dict x, .dict y =>
      let xs ← dictEntries x
      let ys ← dictEntries y
      if xs.length != ys.length then return false
      allOf (fun (k, v) => do
        match ← firstOf (fun (l, w) => do return if ← within k l then some w else none) ys with
        | some w => within v w
        | none => return false) xs
    | .object k x, .object l y => if k == l then isCell x y else return false
    | .builtin f, .builtin g => return f == g
    | a, b =>
      match a.tuple?, b.tuple? with
      | some xs, some ys => allBoth within xs ys
      | _, _ =>
        match a.number?, b.number? with
        | some m, some n => return Scalar.sameNumber m n
        | _, _ => return false

/-- How deep values that are compared may be nested. -/
def comparedLimit : Nat := 900

/-- Whether two values are equal. -/
def same (a b : Value) : Eval Bool :=
  sameWithin comparedLimit a b

/-- Whether two values are the same item of a collection. -/
def sameItem (a b : Value) : Eval Bool := do
  if ← identical a b then return true else same a b

/-! ## Order -/

/-- The order of two numbers; there is none if one is not a number. -/
def compareNumbers : Int ⊕ Float → Int ⊕ Float → Option Ordering
  | .inl a, .inl b => some (compare a b)
  | .inl a, .inr y => if y.isNaN then none else some (Decimal.compareIntFloat a y)
  | .inr x, .inl b => if x.isNaN then none else some (Decimal.compareIntFloat b x).swap
  | .inr x, .inr y => if x < y then some .lt else if x > y then some .gt
    else if x == y then some .eq else none

/-- The fault of comparing values that have no order. -/
def noOrder (op : OrderOp) (a b : Value) : Fault :=
  .type ("'" ++ op.text ++ "' not supported between instances of '" ++ a.typeName ++ "' and '"
    ++ b.typeName ++ "'")

/-- Compares two sequences by the first items that differ. -/
def orderedItems (step : Value → Value → Eval Bool) (op : OrderOp) :
    List Value → List Value → Eval Bool
  | [], [] => return op.accepts .eq
  | [], _ :: _ => return op.accepts .lt
  | _ :: _, [] => return op.accepts .gt
  | a :: as, b :: bs => do
    if ← sameItem a b then orderedItems step op as bs else step a b

/-- Whether an operator of order holds between values that are nested at most so deep. -/
def orderedWithin (op : OrderOp) : Nat → Value → Value → Eval Bool
  | 0, _, _ => throw (.raised .recursion "maximum recursion depth exceeded in comparison")
  | fuel + 1, a, b => do
    match a, b with
    | .undefined message _, _ | _, .undefined message _ => throw (.undefined message)
    | .bytes s, .bytes t => return op.accepts (List.compareLex compare s t)
    | .date d, .date e => return op.accepts (compare (Calendar.ordinal d) (Calendar.ordinal e))
    | .dateTime s, .dateTime t =>
      if s.offset.isSome != t.offset.isSome then
        throw (.type "can't compare offset-naive and offset-aware datetimes")
      let (x, m) := Calendar.instant s
      let (y, n) := Calendar.instant t
      return op.accepts ((compare x y).then (compare m n))
    | .set s, .set t =>
      let below := fun s t => allOf (fun x => anyOf (sameItem x) t) s
      match op with
      | .lt => return (← below s t) && s.length != t.length
      | .le => below s t
      | .gt => return (← below t s) && s.length != t.length
      | .ge => below t s
    | .list x, .list y =>
      orderedItems (orderedWithin op fuel) op (← listItems x).toList (← listItems y).toList
    | a, b =>
      match a.tuple?, b.tuple? with
      | some xs, some ys => orderedItems (orderedWithin op fuel) op xs ys
      | _, _ =>
        match a.text?, b.text? with
        | some s, some t => return op.accepts (compareOfLessAndEq s t)
        | _, _ =>
          match a.number?, b.number? with
          | some m, some n => return ((compareNumbers m n).map op.accepts).getD false
          | _, _ => throw (noOrder op a b)

/-- Whether an operator of order holds. -/
def ordered (op : OrderOp) (a b : Value) : Eval Bool :=
  orderedWithin op comparedLimit a b

/-! ## Sorting -/

/-- Where an item belongs in sorted ones, behind those that are not greater: halves the range
    between `low` and `high`. -/
def placeFor {α : Type} (less : α → α → Eval Bool) (items : Array α) (x : α) :
    Nat → Nat → Nat → Eval Nat
  | 0, low, _ => return low
  | fuel + 1, low, high => do
    if low < high then
      let middle := (low + high) / 2
      match items[middle]? with
      | some y =>
        if ← less x y then placeFor less items x fuel low middle
        else placeFor less items x fuel (middle + 1) high
      | none => return low
    else return low

/-- The items at the start that are already in order: ascending, or strictly descending, and then
    turned around; and the rest. -/
def leadingRun {α : Type} (less : α → α → Eval Bool) : List α → Eval (List α × List α)
  | a :: b :: rest => do
    let descending ← less b a
    let (run, rest) ← repeatUntil (fun (run, rest) => do
      match run, rest with
      | last :: _, x :: more =>
        if (← less x last) == descending then return .inl (x :: run, more)
        else return .inr (run, rest)
      | _, _ => return .inr (run, rest)) ([b, a], rest)
    return (if descending then run else run.reverse, rest)
  | items => return (items, [])

/-- Puts items in order; equal ones keep theirs. -/
def sortBy {α : Type} (less : α → α → Eval Bool) (items : List α) : Eval (List α) := do
  let (run, rest) ← leadingRun less items
  let sorted ← rest.foldlM (fun (acc : Array α) x => do
    let i ← placeFor less acc x (acc.size + 1) 0 acc.size
    return acc.insertIdxIfInBounds i x) run.toArray
  return sorted.toList

/-- Puts items in the order of their keys, or the other way round; equal ones keep their order. -/
def sorted (reversed : Bool) (items : List (Value × Value)) : Eval (List Value) := do
  let items := if reversed then items.reverse else items
  let items ← sortBy (fun a b => ordered .lt a.1 b.1) items
  return (if reversed then items.reverse else items).map (·.2)

/-! ## Keys -/

/-- Fails for a value that cannot be a key. -/
def checkKey : Nat → Value → Eval Unit
  | 0, _ => return ()
  | fuel + 1, v => do
    match v with
    | .undefined message true => throw (.undefined message)
    | .list _ | .dict _ | .set _ | .slice .. | .view .. =>
      throw (.type ("unhashable type: '" ++ v.typeName ++ "'"))
    | .tuple items => items.forM (checkKey fuel)
    | .group key members => [key, members].forM (checkKey fuel)
    | _ => return ()

/-- The value under a key. -/
def lookup (entries : List (Value × Value)) (key : Value) : Eval (Option Value) := do
  checkKey comparedLimit key
  firstOf (fun (k, v) => do return if ← sameItem k key then some v else none) entries

/-- Binds a key: in place if it is there, at the end otherwise. -/
def storeIn (key value : Value) : List (Value × Value) → Eval (List (Value × Value))
  | [] => return [(key, value)]
  | (k, v) :: rest => do
    if ← sameItem k key then return (k, value) :: rest
    else return (k, v) :: (← storeIn key value rest)

/-- Binds a key. -/
def store (entries : List (Value × Value)) (key value : Value) : Eval (List (Value × Value)) := do
  checkKey comparedLimit key
  storeIn key value entries

/-- The entries that pairs describe: a later pair with the same key wins. -/
def storeAll (entries pairs : List (Value × Value)) : Eval (List (Value × Value)) :=
  pairs.foldlM (fun acc (k, v) => store acc k v) entries

/-- The entries without a key. -/
def remove (entries : List (Value × Value)) (key : Value) : Eval (List (Value × Value)) :=
  entries.filterM fun (k, _) => do return !(← sameItem k key)

/-! ## Membership -/

/-- Whether a value is in a container. -/
def contains (ev : Evaluator) (item container : Value) : Eval Bool := do
  match container with
  | .text s | .markup s =>
    match item.text? with
    | some t => return Text.occursIn t.toList s.toList
    | none =>
      throw (.type ("'in <string>' requires string as left operand, not " ++ item.typeName))
  | .undefined message true => throw (.undefined message)
  | .dict id | .view .keys id => return (← lookup (← dictEntries id) item).isSome
  | .set members =>
    checkKey comparedLimit item
    anyOf (sameItem item) members
  | .list _ | .view .. | .tuple _ | .group .. | .range .. | .bytes _ | .project _
  | .undefined .. | .object .iterator _ | .object .loop _ =>
    let source ← iterate container
    repeatUntil (fun () => do
      match ← ev.pull source with
      | some v => if ← sameItem v item then return .inr true else return .inl ()
      | none => return .inr false) ()
  | _ => throw (.type ("argument of type '" ++ container.typeName ++ "' is not iterable"))

end TemplateTree.Template
