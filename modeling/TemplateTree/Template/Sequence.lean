import TemplateTree.Template.Machine

/-!
# Sequences

What values consist of when they are gone through one by one. Lists are read live: what is appended
during a loop is still reached. Everything else is read as it was at the start, and iterators are used
up.

* `iterate`: an iterator over a value.
* `collect`: all the items of a value.
* `length`: how many items a value has.
-/

namespace TemplateTree.Template

/-- A text cut into its characters. -/
def characters (s : String) : List Value :=
  s.toList.map fun c => .text c.toString

/-- The items of a view. -/
def viewItems (entries : List (Value × Value)) : DictPart → List Value
  | .keys => entries.map (·.1)
  | .values => entries.map (·.2)
  | .items => entries.map fun (k, v) => .tuple [k, v]

/-- The parts of a project with their names. -/
def projectParts (p : Project) : List (String × Value) :=
  [("name", .text p.name), ("root_dir", .path p.rootDir), ("version", .text p.version)]

/-- The items of a value that does not have to be read step by step. -/
def items? (v : Value) : Eval (Option (List Value)) := do
  match v with
  | .list id => return some (← listItems id).toList
  | .tuple items => return some items
  | .group key members => return some [key, members]
  | .text s | .markup s => return some (characters s)
  | .bytes b => return some (b.map fun x => .int x.toNat)
  | .set members => return some members
  | .dict id => return some (viewItems (← dictEntries id) .keys)
  | .view part id => return some (viewItems (← dictEntries id) part)
  | .project p => return some ((projectParts p).map fun (k, v) => .tuple [.text k, v])
  | .undefined _ false => return some []
  | _ => return none

/-- An iterator over a value. -/
def iterate (v : Value) : Eval CellId := do
  match v with
  | .list id => alloc (.iterator (.live id 0))
  | .range start stop step => alloc (.iterator (.range start stop step))
  | .object .iterator id | .object .loop id => return id
  | .undefined message true => throw (.undefined message)
  | v =>
    match ← items? v with
    | some items => alloc (.iterator (.items items))
    | none => throw (.type ("'" ++ v.typeName ++ "' object is not iterable"))

/-- How many numbers a range has. -/
def rangeLength (start stop step : Int) : Nat :=
  if 0 < step then ((stop - start + step - 1) / step).toNat
  else if step < 0 then ((start - stop - step - 1) / (-step)).toNat
  else 0

/-- Everything that an iterator still has. -/
def drain (ev : Evaluator) (id : CellId) : Eval (List Value) := do
  let items ← repeatUntil (fun acc => do
    match ← ev.pull id with
    | some v => return .inl (v :: acc)
    | none => return .inr acc) []
  return items.reverse

/-- All the items of a value. -/
def collect (ev : Evaluator) (v : Value) : Eval (List Value) := do
  match v, ← items? v with
  | .range start stop step, _ =>
    return (List.range (rangeLength start stop step)).map fun i : Nat => .int (start + i * step)
  | _, some items => return items
  | _, none => drain ev (← iterate v)

/-! ## Lengths -/

/-- The state of a loop. -/
def loopAt (id : CellId) : Eval LoopState := do
  match ← cell id with
  | .loop l => return l
  | _ => return default

/-- How many items a value has, if it can tell without being read. -/
def plainLength? (v : Value) : Eval (Option Nat) := do
  match v with
  | .text s | .markup s => return some s.length
  | .range start stop step => return some (rangeLength start stop step)
  | .project _ => return none
  | v => return (← items? v).map List.length

/-- How many rounds a loop has. A sequence that cannot tell is read to its end. -/
def loopLength (ev : Evaluator) (id : CellId) : Eval Int := do
  let l ← loopAt id
  match l.length with
  | some n => return n
  | none =>
    match ← plainLength? l.iterable with
    | some n =>
      setCell id (.loop { l with length := some n })
      return n
    | none =>
      let rest ← drain ev l.source
      let source ← alloc (.iterator (.items rest))
      let l ← loopAt id
      let n : Int := rest.length + (l.index + 1) + (if l.after.isSome then 1 else 0)
      setCell id (.loop { l with source, length := some n })
      return n

/-- How many items a value has. -/
def length? (ev : Evaluator) (v : Value) : Eval (Option Int) := do
  match v with
  | .undefined message true => throw (.undefined message)
  | .object .loop id => return some (← loopLength ev id)
  | v => return (← plainLength? v).map Int.ofNat

/-- How many items a value has; a fault if it has none to count. -/
def length (ev : Evaluator) (v : Value) : Eval Int := do
  match ← length? ev v with
  | some n => return n
  | none => throw (.type ("object of type '" ++ v.typeName ++ "' has no len()"))

end TemplateTree.Template
