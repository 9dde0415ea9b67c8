import TemplateTree.FileSystem.Resolve
import TemplateTree.Template.Value

/-!
# The machine that evaluates templates

The state of an evaluation: the cells of values that change and of the templates loaded so far, the lines at
which evaluation stands, and the text printed so far. A fault leaves the state as it is, so that the
lines show where it happened. What is outside of the machine, files and the library of templates, a
computation can only ask about.

* `Script`: a computation up to its end or its next question.
* `Eval`: computations on the machine.
* `Evaluator`: the operations that refer to each other without end.
-/

namespace TemplateTree.Template

/-- A block of a loaded template. -/
structure BlockRef where
  template : TemplateId
  name : String
  deriving DecidableEq, Repr, Inhabited

/-- A scope: its variables, and the scope around it. A variable of a construct that has not been given a
    value, or has been left, has none. `parent` is the template that is extended. -/
structure Scope where
  vars : List (Ref × Option Value)
  outer : Option CellId
  parent : Option TemplateId
  deriving Inhabited

/-- A context: the values a template was given, those it has set itself, the names of those that it
    exports, for every block the versions from the template itself to its last ancestor, and whether
    what is printed is escaped. -/
structure Context where
  template : String
  given : List (String × Value)
  own : List (String × Value)
  exported : List String
  blocks : List (String × List BlockRef)
  escapes : Bool
  deriving Inhabited

/-- Where a piece of a template is evaluated: its scope, its context, its template and the file of that, and
    the text that a filter around statements applies to. -/
structure Site where
  scope : CellId
  context : CellId
  template : TemplateId
  file : String
  captured : Value
  deriving Inhabited

/-- A macro: its parameters, its body, and where it was defined. -/
structure Procedure where
  signature : Signature
  body : List Code
  site : Site
  deriving Inhabited

/-- A part of a template that a loop calls again for nested values. -/
structure Recursion where
  head : LoopHead
  body : List Code
  hasOtherwise : Bool
  otherwise : List Code
  site : Site
  deriving Inhabited

/-- The state of a loop, as the loop itself sees it. `index` counts from 0, and is -1 before the first
    round. -/
structure LoopState where
  iterable : Value
  source : CellId
  index : Int
  before : Option Value
  current : Option Value
  after : Option Value
  length : Option Int
  depth : Nat
  lastChecked : Option (List Value)
  recursion : Option Recursion
  deriving Inhabited

/-- The values of a template that was evaluated for what it exports, and what it printed. -/
structure Module where
  name : String
  output : List Value
  exports : List (String × Value)
  deriving Inhabited

/-- What is taken of an item: an attribute, found step by step, with a value for where there is none, or
    the result of a filter. -/
inductive ItemStep
  | attribute (parts : List Value) (default : Value)
  | filter (name : Value) (args : Arguments)
  deriving Inhabited

/-- What an item has to fulfil: a test, or to be true. -/
inductive ItemTest
  | test (name : Value) (args : Arguments)
  | truth
  deriving Inhabited

/-- What is still to come of a sequence that is read once. -/
inductive Iter
  | done
  | items (rest : List Value)
  | live (list : CellId) (position : Nat)
  | range (next stop step : Int)
  | deferred (filter : String) (escapes : Bool) (value : Value) (args : Arguments)
  | mapped (source : CellId) (escapes : Bool) (step : ItemStep)
  | selected (source : CellId) (wanted : Bool) (part : Option Value) (test : ItemTest)
  | distinct (source : CellId) (step : ItemStep) (ignoresCase : Bool) (seen : List Value)
  | tested (source : CellId) (site : Site) (target : Target Ref) (line : Nat) (test : Expr Ref)
  deriving Inhabited

/-- A loaded template. -/
structure Loaded where
  name : String
  file : String
  program : Program
  deriving Inhabited

/-- What a cell holds. -/
inductive Cell
  | list (items : Array Value)
  | dict (entries : List (Value × Value))
  | fields (entries : List (String × Value))
  | cycler (items : List Value) (position : Nat)
  | joiner (separator : Value) (used : Bool)
  | procedure (p : Procedure)
  | moduleOf (m : Module)
  | loop (l : LoopState)
  | iterator (i : Iter)
  | block (name : String) (context : CellId) (versions : List BlockRef)
  | blocks (context : CellId)
  | scope (s : Scope)
  | context (c : Context)
  | template (l : Loaded)
  deriving Inhabited

/-- A place at which evaluation stands. -/
structure Frame where
  file : String
  line : Nat
  deriving DecidableEq, Repr, Inhabited

/-- The state of an evaluation. The innermost frame and the innermost buffer come first; a buffer holds
    what was printed, the last piece first. `strict` says whether use of what is undefined is a fault;
    `graphs` says where the cells of a graph begin that has been put into the machine. The cells from
    `own` on belong to what is evaluated here, those before may also be those of modules. -/
structure Machine where
  cells : Array Cell
  own : CellId
  graphs : List (Graph × CellId)
  strict : Bool
  frames : List Frame
  buffers : List (List Value)

/-! ## Computations -/

/-- What the evaluation of a template for what it exports comes to: the number of its module, or a fault and
    the places at which it happened; and all cells that there are then. -/
structure Made where
  result : Except (Fault × List Frame) CellId
  cells : Array Cell
  deriving Inhabited

/-- What a computation asks the world outside of the machine, or tells it. A template that is asked for gets the
    number `id`; its module, for which it is asked by its name, is what it exports when it sees no context, and is
    made with regard to the cells that there are. A change of a cell is told. -/
inductive Question
  | content (p : Path)
  | template (id : TemplateId) (name shownName : String)
  | isKeyed
  | isSame (a b : CellId)
  | changes (id : CellId)
  | module (id : TemplateId) (name : String) (cells : Array Cell)

/-- What is answered: what a file holds, or nothing for a directory; the template under a name; whether
    templates are kept by a key; whether two numbers stand for one object; which other numbers stand for the
    cell that is changed; the module of a template. -/
abbrev Question.Answer : Question → Type
  | .content _ => Except SystemError (Option ByteArray)
  | .template .. => Except Fault Loaded
  | .isKeyed => Bool
  | .isSame .. => Bool
  | .changes _ => List CellId
  | .module .. => Made

/-- A computation that has come to its end, or to a question on whose answer it goes on. -/
inductive Script (α : Type)
  | ok (a : α) (m : Machine)
  | error (f : Fault) (m : Machine)
  | ask (q : Question) (next : q.Answer → Script α)

namespace Script

variable {α β : Type}

/-- One computation after another. -/
def andThen : Script α → (α → Machine → Script β) → Script β
  | .ok a m, f => f a m
  | .error e m, _ => .error e m
  | .ask q next, f => .ask q fun answer => (next answer).andThen f

/-- A computation that goes on after a fault. -/
def orElse : Script α → (Fault → Machine → Script α) → Script α
  | .ok a m, _ => .ok a m
  | .error e m, f => f e m
  | .ask q next, f => .ask q fun answer => (next answer).orElse f

/-- The result of a computation as a value, or its fault, after which places and buffers are the given
    ones. -/
def caught (frames : List Frame) (buffers : List (List Value)) :
    Script α → Script (Except Fault α)
  | .ok a m => .ok (.ok a) m
  | .error f m => .ok (.error f) { m with frames, buffers }
  | .ask q next => .ask q fun answer => (next answer).caught frames buffers

end Script

/-- Computations on the machine. -/
def Eval (α : Type) : Type := Machine → Script α

namespace Eval

variable {α β : Type}

/-- One computation after another. -/
@[always_inline, inline]
def andThen (x : Eval α) (f : α → Eval β) : Eval β := fun m =>
  match x m with
  | .ok a m => f a m
  | .error e m => .error e m
  | .ask q next => .ask q fun answer => (next answer).andThen f

instance : Monad Eval where
  pure a := fun m => .ok a m
  bind := andThen

instance : MonadStateOf Machine Eval where
  get := fun m => .ok m m
  set m := fun _ => .ok () m
  modifyGet f := fun m => let (a, m) := f m; .ok a m

instance : MonadExceptOf Fault Eval where
  throw f := fun m => .error f m
  tryCatch x handle := fun m => (x m).orElse handle

instance : Inhabited (Eval α) := ⟨throw default⟩

/-- The answer to a question. -/
def ask (q : Question) : Eval q.Answer := fun m => .ask q fun answer => .ok answer m

end Eval

/-- The operations that refer to each other: reading on in a sequence, calling a value, applying a filter
    or test by name, and evaluating a template or a block of one in a context. -/
structure Evaluator where
  pull : CellId → Eval (Option Value)
  call : Bool → Value → Arguments → Eval Value
  filter : Bool → String → Value → Arguments → Eval Value
  test : String → Value → Arguments → Eval Value
  root : TemplateId → CellId → Eval Unit
  block : BlockRef → CellId → Eval Unit

/-! ## Cells -/

/-- A new cell. -/
def alloc (c : Cell) : Eval CellId :=
  modifyGet fun m => (m.cells.size, { m with cells := m.cells.push c })

/-- What a cell holds. -/
def cell (id : CellId) : Eval Cell := do
  return (← get).cells[id]?.getD (.list #[])

/-- Changes a cell. What belongs to a module can have other numbers, too. -/
def setCell (id : CellId) (c : Cell) : Eval Unit := do
  let others ← if id < (← get).own then Eval.ask (.changes id) else pure []
  modify fun m =>
    { m with cells := others.foldl (·.setIfInBounds · c) (m.cells.setIfInBounds id c) }

/-- Whether two numbers stand for the same cell. -/
def isCell (a b : CellId) : Eval Bool := do
  if a == b then return true
  let own := (← get).own
  if a < own && b < own then Eval.ask (.isSame a b) else return false

/-- Whether a cell is one of some cells. -/
def isAmong (id : CellId) : List CellId → Eval Bool
  | [] => return false
  | a :: rest => do
    if ← isCell id a then return true else isAmong id rest

/-- A new list. -/
def newList (items : List Value) : Eval Value := do
  return .list (← alloc (.list items.toArray))

/-- A new map. -/
def newDict (entries : List (Value × Value)) : Eval Value := do
  return .dict (← alloc (.dict entries))

/-- A new sequence that is read once. -/
def newIter (i : Iter) : Eval Value := do
  return .object .iterator (← alloc (.iterator i))

/-- The items of a list. -/
def listItems (id : CellId) : Eval (Array Value) := do
  match ← cell id with
  | .list items => return items
  | _ => return #[]

/-- The entries of a map. -/
def dictEntries (id : CellId) : Eval (List (Value × Value)) := do
  match ← cell id with
  | .dict entries => return entries
  | _ => return []

/-- The fields of a namespace. -/
def fieldsOf (id : CellId) : Eval (List (String × Value)) := do
  match ← cell id with
  | .fields entries => return entries
  | _ => return []

/-- A context. -/
def contextAt (id : CellId) : Eval Context := do
  match ← cell id with
  | .context c => return c
  | _ => return default

/-- Changes a context. -/
def modifyContext (id : CellId) (f : Context → Context) : Eval Unit := do
  setCell id (.context (f (← contextAt id)))

/-- A scope. -/
def scopeAt (id : CellId) : Eval Scope := do
  match ← cell id with
  | .scope s => return s
  | _ => return default

/-- Changes a scope. -/
def modifyScope (id : CellId) (f : Scope → Scope) : Eval Unit := do
  setCell id (.scope (f (← scopeAt id)))

/-- A loaded template. -/
def templateAt (id : TemplateId) : Eval Loaded := do
  match ← cell id with
  | .template l => return l
  | _ => return default

/-! ## Entries by name -/

/-- The value under a name. -/
def named? {α : Type} (entries : List (String × α)) (name : String) : Option α :=
  (entries.find? fun e => e.1 == name).map (·.2)

/-- Binds a name: in place if it is there, at the end otherwise. -/
def setNamed {α : Type} (name : String) (value : α) : List (String × α) → List (String × α)
  | [] => [(name, value)]
  | e :: rest => if e.1 == name then (name, value) :: rest else e :: setNamed name value rest

/-! ## Faults and lines -/

/-- A value for what is not there. -/
def undefinedValue (message : String) : Eval Value := do
  return .undefined message (← get).strict

/-- The innermost place is at a line. -/
def atLine (line : Nat) : Eval Unit :=
  modify fun m =>
    match m.frames with
    | f :: rest => { m with frames := { f with line } :: rest }
    | [] => m

/-- Evaluates inside a file. After a fault the place stays. -/
def inFile {α : Type} (file : String) (line : Nat) (act : Eval α) : Eval α := do
  modify fun m => { m with frames := ⟨file, line⟩ :: m.frames }
  let a ← act
  modify fun m => { m with frames := m.frames.drop 1 }
  return a

/-- The result of a computation, or its fault; a fault leaves places and buffers as they were. -/
def attempt {α : Type} (act : Eval α) : Eval (Except Fault α) := fun m =>
  (act m).caught m.frames m.buffers

/-- Repeats a step as long as it asks for more. -/
def repeatWithin {α β : Type} (step : α → Eval (α ⊕ β)) (overrun : Eval β) : Nat → α → Eval β
  | 0, _ => overrun
  | fuel + 1, a => do
    match ← step a with
    | .inl a => repeatWithin step overrun fuel a
    | .inr b => return b

/-- How many rounds a repetition has at most. -/
def roundLimit : Nat := Nat.pow 2 62

/-- Repeats a step until it has a result. -/
def repeatUntil {α β : Type} (step : α → Eval (α ⊕ β)) (a : α) : Eval β :=
  repeatWithin step (throw (.raised .recursion "too many rounds")) roundLimit a

/-! ## Printing -/

/-- Adds to the innermost buffer. -/
def write (v : Value) : Eval Unit :=
  modify fun m =>
    match m.buffers with
    | b :: rest => { m with buffers := (v :: b) :: rest }
    | [] => m

/-- Adds to the buffer at a depth. -/
def writeAt (depth : Nat) (v : Value) : Eval Unit :=
  modify fun m => { m with buffers := m.buffers.modify depth (v :: ·) }

/-- What a computation prints. -/
def captured (act : Eval Unit) : Eval (List Value) := do
  modify fun m => { m with buffers := [] :: m.buffers }
  act
  let m ← get
  set { m with buffers := m.buffers.drop 1 }
  return (m.buffers.head?.getD []).reverse

/-- Where the first printed piece stands that is no text, and that piece. -/
def firstNoText : Nat → List Value → Option (Nat × Value)
  | _, [] => none
  | i, v :: rest =>
    match v.text? with
    | some _ => firstNoText (i + 1) rest
    | none => some (i, v)

/-- Printed pieces as one text. -/
def concat (pieces : List Value) : Eval String :=
  match firstNoText 0 pieces with
  | some (i, v) =>
    throw (.type ("sequence item " ++ toString i ++ ": expected str instance, " ++ v.typeName
      ++ " found"))
  | none => return String.join (pieces.filterMap Value.text?)

end TemplateTree.Template
