import TemplateTree.Template.Access

/-!
# Variables of scopes

Reading and setting variables, and what assignments do. Inside a macro or a recursive loop the variables
around it can be read, and every variable that is set belongs to the scope itself.

* `readVariable`, `setVariable`: single variables.
* `enterWith`, `leaveWith`: all variables of a construct.
* `bindTarget`: assignment to a target.
-/

namespace TemplateTree.Template

/-! ## Contexts -/

/-- The value that a context has under a name: one it has set itself, or one it was given. -/
def Context.find? (c : Context) (name : String) : Option Value :=
  match named? c.own name with
  | some v => some v
  | none => named? c.given name

/-- Everything a context holds. -/
def Context.all (c : Context) : List (String × Value) :=
  c.own.foldl (fun acc (k, v) => setNamed k v acc) c.given

/-! ## Single variables -/

/-- Sets a variable among variables. -/
def setIn (r : Ref) (v : Option Value) :
    List (Ref × Option Value) → List (Ref × Option Value)
  | [] => [(r, v)]
  | e :: rest => if e.1 == r then (r, v) :: rest else e :: setIn r v rest

/-- A step outwards in search of a variable. -/
def lookIn (r : Ref) (id : CellId) : Eval (CellId ⊕ Option Value) := do
  let s ← scopeAt id
  match s.vars.find? fun e => e.1 == r, s.outer with
  | some e, _ => return .inr e.2
  | none, some outer => return .inl outer
  | none, none => return .inr none

/-- The value of a variable, if it has one. -/
def readVariable (site : Site) (r : Ref) : Eval (Option Value) :=
  repeatUntil (lookIn r) site.scope

/-- Sets a variable. -/
def setVariable (site : Site) (r : Ref) (v : Option Value) : Eval Unit :=
  modifyScope site.scope fun s => { s with vars := setIn r v s.vars }

/-- The value of a variable in an expression. -/
def useVariable (site : Site) (r : Ref) : Eval Value := do
  match ← readVariable site r with
  | some v => return v
  | none => undefinedValue (Text.quoted r.name ++ " is undefined")

/-! ## Constructs -/

/-- Gives a variable what it holds at the start of its construct. -/
def enterWith (site : Site) : List (Ref × Load) → Eval Unit
  | [] => return ()
  | (r, load) :: rest => do
    match load with
    | .parameter => pure ()
    | .resolve name => setVariable site r ((← contextAt site.context).find? name)
    | .outer source => setVariable site r (← readVariable site source)
    | .missing => setVariable site r none
    enterWith site rest

/-- Takes the values of the variables of a construct away. -/
def leaveWith (site : Site) (refs : List Ref) : Eval Unit :=
  refs.forM fun r => setVariable site r none

/-- A scope inside another. -/
def innerSite (site : Site) : Eval Site := do
  let scope ← alloc (.scope ⟨[], some site.scope, none⟩)
  return { site with scope }

/-- A step outwards in search of the template that is extended. -/
def parentIn (id : CellId) : Eval (CellId ⊕ Option TemplateId) := do
  let s ← scopeAt id
  match s.parent, s.outer with
  | some t, _ => return .inr (some t)
  | none, some outer => return .inl outer
  | none, none => return .inr none

/-- The template that has been extended here. -/
def parentOf (site : Site) : Eval (Option TemplateId) :=
  repeatUntil parentIn site.scope

/-! ## Assignment -/

/-- Sets a field of a namespace, or an entry of another value with entries. -/
def setField (v : Option Value) (field : String) (new : Value) : Eval Unit := do
  match v with
  | some (.object .namespaceOf id) =>
    setCell id (.fields (setNamed field new (← fieldsOf id)))
  | some (.dict id) => setCell id (.dict (← store (← dictEntries id) (.text field) new))
  | some (.list _) => throw (.type "list indices must be integers or slices, not str")
  | some v => throw (.type ("'" ++ v.typeName ++ "' object does not support item assignment"))
  | none => throw (.type "'MissingType' object does not support item assignment")

/-- At most a number of items that come next. -/
def pullUpTo (ev : Evaluator) (id : CellId) : Nat → Eval (List Value)
  | 0 => return []
  | n + 1 => do
    match ← ev.pull id with
    | some v => return v :: (← pullUpTo ev id n)
    | none => return []

/-- The parts of a value that is assigned to `n` targets. -/
def unpack (ev : Evaluator) (n : Nat) (v : Value) : Eval (List Value) := do
  let id ←
    match ← attempt (iterate v) with
    | .ok id => pure id
    | .error f =>
      if f.isOf [.typeError] then
        throw (.type ("cannot unpack non-iterable " ++ v.typeName ++ " object"))
      else throw f
  let parts ← pullUpTo ev id (n + 1)
  if n < parts.length then
    throw (.value ("too many values to unpack (expected " ++ toString n ++ ")"))
  if parts.length < n then
    throw (.value ("not enough values to unpack (expected " ++ toString n ++ ", got "
      ++ toString parts.length ++ ")"))
  return parts

mutual

/-- Assigns a value to a target. -/
def bindTarget (ev : Evaluator) (site : Site) : Target Ref → Value → Eval Unit
  | .name _ r, v => setVariable site r (some v)
  | .field _ r field, v => do setField (← readVariable site r) field v
  | .tuple _ ts, v => do bindTargets ev site ts (← unpack ev ts.length v)

/-- Assigns values to targets. -/
def bindTargets (ev : Evaluator) (site : Site) : List (Target Ref) → List Value → Eval Unit
  | t :: ts, v :: vs => do
    bindTarget ev site t v
    bindTargets ev site ts vs
  | _, _ => return ()

end

mutual

/-- The value that a target has been assigned. -/
def targetValue (site : Site) : Target Ref → Eval Value
  | .name _ r | .field _ r _ => useVariable site r
  | .tuple _ ts => return .tuple (← targetValues site ts)

/-- The values that targets have been assigned. -/
def targetValues (site : Site) : List (Target Ref) → Eval (List Value)
  | [] => return []
  | t :: ts => return (← targetValue site t) :: (← targetValues site ts)

end

end TemplateTree.Template
