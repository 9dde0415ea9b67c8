import TemplateTree.Template.Naming

/-!
# Programs

Turns a parsed template into the steps that evaluate it. Every statement becomes steps over variables;
constants are printed as text; and every step gets the line that its faults are reported with: that of
the last construct before it that has a line of its own.

A template that extends another prints nothing outside of its blocks from there on. Whether it does is
known here if it happens outside of all conditions.

* `Stmt.steps`: the steps of a statement.
* `Program.ofTemplate`: the program of a template.
-/

namespace TemplateTree.Template

/-- How far a template has been turned into steps: the line for the next step, how many times the
    template has been extended, whether it is certain to be, and what is known about escaping. -/
structure Progress where
  line : Nat
  extensions : Nat
  isExtended : Bool
  escape : EscapeState
  deriving Inhabited

/-- Turning templates into steps. -/
abbrev Build := StateT Progress Eval

/-- Where a statement stands: its variables, whether it is outside of all constructs but conditions,
    outside of conditions, too, or directly in a condition, whether it prints only if the template has
    not been extended, and how many buffers are open around it. -/
structure Setting where
  symbols : Symbols
  isTop : Bool
  isRoot : Bool
  isConditional : Bool
  checksExtension : Bool
  buffers : Nat
  deriving Inhabited

namespace Setting

/-- Inside a construct with variables of its own. -/
def inner (s : Setting) (symbols : Symbols) : Setting :=
  { s with symbols, isTop := false, isRoot := false, isConditional := false }

/-- Inside a condition. -/
def conditional (s : Setting) : Setting :=
  { s with isRoot := false, isConditional := true }

/-- Inside a construct that collects what is printed. -/
def collecting (s : Setting) : Setting :=
  { s with buffers := s.buffers + 1 }

/-- Inside a construct that is evaluated apart and collects what is printed. -/
def apart (s : Setting) : Setting :=
  { s with buffers := 1 }

/-- Where printing does not depend on whether the template has been extended. -/
def unchecked (s : Setting) : Setting :=
  { s with checksExtension := false }

/-- The variables that an included template sees, if it sees any. -/
def shared (s : Setting) (withContext : Bool) : Shared :=
  if withContext then some s.symbols.stored else none

/-- The view of an expression here. -/
def view (s : Setting) (escape : EscapeState) : View :=
  ⟨s.symbols, escape.isKnown && escape.escapes, s.isConditional⟩

end Setting

/-! ## Parts of statements -/

/-- The next step is on a line. -/
def startLine (line : Nat) : Build Unit :=
  modify fun p => { p with line }

/-- An expression of a statement. -/
def expression (ev : Evaluator) (s : Setting) (e : Expr String) : Build (Expr Ref) := do
  let p ← get
  e.prepare ev p.escape (s.view p.escape)

/-- An expression of a statement that may be left out. -/
def expression? (ev : Evaluator) (s : Setting) : Option (Expr String) → Build (Option (Expr Ref))
  | none => return none
  | some e => return some (← expression ev s e)

/-- A target of a statement. -/
def assigned (s : Setting) (t : Target String) : Build (Target Ref) := do
  t.resolve (s.view (← get).escape)

/-- The variable of a name that a statement assigns to. -/
def variableOf (s : Setting) (name : String) : Build Ref := do
  (s.view (← get).escape).meaning name

/-- How printed values are escaped. -/
def EscapeState.escaping (st : EscapeState) : Escaping :=
  if !st.isKnown then .dynamic else if st.escapes then .on else .off

/-- What a constant prints. -/
def constantText? (ev : Evaluator) (st : EscapeState) (e : Expr String) : Eval (Option String) := do
  match ← constant? ev st e with
  | none => return none
  | some v => return some (← if st.escapes then escaped ev v else printed ev v)

/-- Neighbouring texts as one. -/
def joinTexts {α : Type} : List (String ⊕ α) → List (String ⊕ α)
  | [] => []
  | .inr a :: rest => .inr a :: joinTexts rest
  | .inl s :: rest =>
    match joinTexts rest with
    | .inl t :: rest => .inl (s ++ t) :: rest
    | rest => .inl s :: rest

/-- What is printed as a constant text, or has to be evaluated. -/
def partOf (ev : Evaluator) (st : EscapeState) (e : Expr String) : Build (String ⊕ Expr String) := do
  match ← constantText? ev st e with
  | some text => return .inl text
  | none => return .inr e

/-- The step that prints a part. -/
def printPart (ev : Evaluator) (s : Setting) (st : EscapeState) : String ⊕ Expr String → Build Code
  | .inl text => return .emit text
  | .inr e => do
    startLine e.line
    return .print e.line st.escaping (← expression ev s e)

/-- The steps that print some items. -/
def printing (ev : Evaluator) (s : Setting) (items : List (Expr String)) : Build (List Code) := do
  let st := (← get).escape
  let parts ← items.mapM (partOf ev st)
  (joinTexts parts).mapM (printPart ev s st)

/-- Steps that are left out once the template has been extended. -/
def untilExtended (checked : Bool) (steps : List Code) : List Code :=
  if checked then [.unlessExtended steps] else steps

/-- The steps that a construct with variables of its own consists of. -/
def scopedSteps (symbols : Symbols) (steps : List Code) : List Code :=
  .enter symbols.layer.loads :: (steps ++ [.leave symbols.refs])

/-- What a macro is besides its body, and where its body stands. Arguments without a parameter have
    variables if the body uses their names before it binds them. -/
def openMacro (ev : Evaluator) (s : Setting) (line : Nat) (name : Option String)
    (params : List (Nat × String)) (defaults : List (Expr String)) (body : List Stmt) :
    Build (Signature × Setting) := do
  let names := params.map (·.2)
  let wanted := unbound ["caller", "kwargs", "varargs"] body
  let wants := fun word => wanted.contains word && !names.contains word
  let symbols := s.symbols.inner
  let symbols := (names.foldl Symbols.parameter symbols).loadAll (namesOfAll defaults)
  let symbols := symbols.visitAll body
  if wanted.contains "caller" && (names.idxOf "caller") + defaults.length < names.length then
    throw (.assertionAt line ("When defining macros or call blocks the special \"caller\" argument "
      ++ "must be omitted or be given a default."))
  let extra := ["caller", "kwargs", "varargs"].filter wants
  let symbols := extra.foldl Symbols.parameter symbols
  let inside := (s.inner symbols).unchecked.apart
  startLine line
  let defaults ← defaults.mapM (expression ev inside)
  let refs ← names.mapM (variableOf inside)
  let refOf := fun word => if extra.contains word then symbols.find? word else none
  return (⟨line, name, refs, defaults, symbols.layer.loads, wanted.contains "caller",
    refOf "caller", refOf "kwargs", refOf "varargs"⟩, inside)

/-- The names that are assigned to outside of all constructs, with their variables. -/
def published (s : Setting) (t : Target String) : Build (List Code) := do
  let names := (t.assigned.map (·.2)).eraseDups
  if !s.isTop || names.isEmpty then return []
  return [.publish (← names.mapM fun name => return (name, ← variableOf s name))]

/-- Fails where a loop assigns to the variable of loops. -/
def checkLoopVariable (mentions : List Mention) : Build Unit := do
  let found := mentions.findSome? fun m =>
    match m with
    | .assign l "loop" => some l
    | _ => none
  match found with
  | some l =>
    throw (.assertionAt l "Can't assign to special loop variable in for-loop target")
  | none => return ()

/-- The variables of the parts of a loop: of its body, of what comes instead of it, and of its test. -/
def loopSymbols (s : Symbols) (target : Target String) (isExtended : Bool)
    (body otherwise : List Stmt) (test : Option (Expr String)) : Symbols × Symbols × Symbols :=
  let inside := if isExtended then s.inner.parameter "loop" else s.inner
  ((inside.targetParameters target).visitAll body, s.inner.visitAll otherwise,
    (s.inner.targetParameters target).loadAll (namesOfOption test))

/-- Whether a loop keeps its state as a variable. -/
def keepsLoop (body otherwise : List Stmt) (recursive : Bool) : Bool :=
  recursive || !(unbound ["loop"] body).isEmpty
    || (blocksIn body ++ blocksIn otherwise).any (·.isScoped)

/-- The test of a loop. -/
def loopTest (ev : Evaluator) (s : Setting) (symbols : Symbols) :
    Option (Expr String) → Build (Option (Nat × List (Ref × Load) × Expr Ref))
  | none => return none
  | some e => do
    startLine e.line
    return some (e.line, symbols.layer.loads, ← expression ev (s.inner symbols) e)

/-! ## Statements -/

/-- Whether a statement extends a template. -/
def Stmt.isExtends : Stmt → Bool
  | .extends .. => true
  | _ => false

mutual

/-- The steps of a statement. -/
def Stmt.steps (ev : Evaluator) (s : Setting) : Stmt → Build (List Code)
  | .output _ items => do
    if s.checksExtension && (← get).isExtended then return []
    return untilExtended s.checksExtension (← printing ev s items)
  | .forLoop line target iter body otherwise test recursive => do
    let isExtended := keepsLoop body otherwise recursive
    let (inBody, inOtherwise, inTest) :=
      loopSymbols s.symbols target isExtended body otherwise test
    let loop := if recursive then (s.inner inBody).apart else s.inner inBody
    let test' ← loopTest ev s inTest test
    if recursive then startLine line
    checkLoopVariable (target.mentions ++ mentionsOfAll true body ++ mentionsOfAll true otherwise)
    startLine line
    let before ← if recursive then pure none else expression? ev s (some iter)
    let target ← assigned loop target
    let inside ← stepsOf ev loop body
    let instead ← stepsOf ev { loop with symbols := inOtherwise } otherwise
    if recursive then startLine line
    let iter ← match before with
      | some e => pure e
      | none => expression ev s iter
    let leaves := if recursive && otherwise.isEmpty then [] else inBody.refs
    let variable' := if isExtended then inBody.find? "loop" else none
    let head := ⟨line, target, iter, variable', test', inBody.layer.loads, leaves, recursive,
      (← get).escape.escaping⟩
    return [.forLoop head inside (!otherwise.isEmpty) (scopedSteps inOtherwise instead)]
  | .ifElse line test body elifs otherwise => do
    let s := s.conditional
    startLine line
    let test ← expression ev s test
    let yes ← stepsOf ev s body
    let branches ← branchSteps ev s elifs
    let no ← stepsOf ev s otherwise
    return [.ifElse line test yes
      (branches.foldr (fun (l, test, body) no => [.ifElse l test body no]) no)]
  | .withScope _ bindings body => do
    let symbols := (bindings.foldl (fun t b => t.targetParameters b.1) s.symbols.inner).visitAll body
    let inside := s.inner symbols
    let binds ← bindings.mapM fun (t, e) => do
      let t ← assigned inside t
      return Code.bind (← get).line t (← expression ev s e)
    return scopedSteps symbols (binds ++ (← stepsOf ev inside body))
  | .autoescape _ option body => do
    let symbols := (s.symbols.inner.loadAll option.names).visitAll body
    let inside := s.inner symbols
    let p ← get
    let e ← expression ev inside option
    match ← constant? ev p.escape option with
    | some v =>
      let escapes ← truth ev v
      modify fun q => { q with escape := { q.escape with escapes } }
    | none => modify fun q => { q with escape := { q.escape with isKnown := false } }
    let body ← stepsOf ev inside body
    modify fun q => { q with escape := p.escape }
    return scopedSteps symbols [.escapeIf p.line e body]
  | .block line name isScoped isRequired _ => do
    let p ← get
    if s.isTop && p.isExtended then return []
    startLine line
    return untilExtended (s.isTop && p.extensions != 0)
      [.block line name (s.shared isScoped) isRequired]
  | .extends line template => do
    if !s.isTop then throw (.assertionAt line "cannot use extend from a non top-level scope")
    let p ← get
    if p.isExtended then return [.failIfExtended]
    startLine line
    let e ← expression ev s template
    modify fun q => { q with extensions := q.extensions + 1, isExtended := s.isRoot }
    return (if p.extensions == 0 then [] else [.failIfExtended]) ++ [.extend line e]
  | .inclusion line template ignoreMissing withContext => do
    startLine line
    let e ← expression ev s template
    return [.inclusion line e ignoreMissing (s.shared withContext) s.buffers]
  | .importAs line template name withContext => do
    startLine line
    let e ← expression ev s template
    let r ← variableOf s name
    return .importAs line e r (s.shared withContext) ::
      (if s.isTop then [.conceal [(name, r)]] else [])
  | .importNames line template names withContext => do
    startLine line
    let e ← expression ev s template
    let refs ← names.mapM fun (name, variable') => return (name, ← variableOf s variable')
    return .importNames line e refs (s.shared withContext) ::
      (if s.isTop then [.conceal (refs.map fun (_, r) => (r.name, r))] else [])
  | .macroDef line name params defaults body => do
    let (signature, inside) ← openMacro ev s line (some name) params defaults body
    let body ← stepsOf ev inside body
    let r ← variableOf s name
    return .defineMacro r signature body :: (if s.isTop then [.publish [(name, r)]] else [])
  | .callBlock line params defaults call body => do
    let (signature, inside) ← openMacro ev s line none params defaults body
    let body ← stepsOf ev inside body
    startLine line
    return [.callMacro line (← expression ev s call) signature body]
  | .filterBlock line filter body => do
    let symbols := (s.symbols.inner.visitAll body).loadAll filter.names
    let inside := (s.inner symbols).collecting
    let body ← stepsOf ev inside body
    startLine line
    let e ← expression ev inside filter
    return scopedSteps symbols [.filtered line e (← get).escape.escaping body]
  | .set line target value => do
    let checked := (target.namespaces).eraseDups
    let refs ← checked.mapM (variableOf s)
    startLine line
    let t ← assigned s target
    let bind := Code.bind line t (← expression ev s value)
    return (if refs.isEmpty then [] else [.requireNamespaces refs]) ++ bind :: (← published s target)
  | .setBlock line target filter body => do
    let symbols := s.symbols.inner.visitAll body
    let inside := (s.inner symbols).unchecked.collecting
    let body ← stepsOf ev inside body
    startLine line
    let t ← assigned s target
    let e ← expression? ev inside filter
    return scopedSteps symbols
      (.capture line t e (← get).escape.escaping body :: (← published s target))

/-- The steps of statements. Nothing follows what extends a template that has been extended. -/
def stepsOf (ev : Evaluator) (s : Setting) : List Stmt → Build (List Code)
  | [] => return []
  | x :: rest => do
    let p ← get
    let first ← x.steps ev s
    if x.isExtends && p.isExtended then return first
    return first ++ (← stepsOf ev s rest)

/-- The steps of branches. -/
def branchSteps (ev : Evaluator) (s : Setting) :
    List (Nat × Expr String × List Stmt) → Build (List (Nat × Expr Ref × List Code))
  | [] => return []
  | (line, test, body) :: rest => do
    startLine line
    let test ← expression ev s test
    let body ← stepsOf ev s body
    return (line, test, body) :: (← branchSteps ev s rest)

end

theorem steps_inclusion (ev : Evaluator) (s : Setting) (line : Nat) (template : Expr String)
    (ignoreMissing withContext : Bool) :
    (Stmt.inclusion line template ignoreMissing withContext).steps ev s = (do
      startLine line
      return [.inclusion line (← expression ev s template) ignoreMissing (s.shared withContext) s.buffers]) := by
  unfold Stmt.steps
  rfl

/-! ## Templates -/

/-- The first block that has the name of one before it. -/
def duplicate? : List String → List BlockStmt → Option BlockStmt
  | _, [] => none
  | seen, b :: rest => if seen.contains b.name then some b else duplicate? (b.name :: seen) rest

/-- The variables and steps of the whole of a template or block. -/
def sectionOf (ev : Evaluator) (isRoot checksExtension : Bool) (line : Nat)
    (special : List String) (body : List Stmt) : Build Section := do
  let wanted := special.filter (unbound special body).contains
  let symbols := (wanted.foldl Symbols.parameter Symbols.empty).visitAll body
  let steps ← stepsOf ev ⟨symbols, isRoot, isRoot, false, checksExtension, 0⟩ body
  let refOf := fun name => if wanted.contains name then symbols.find? name else none
  return ⟨line, symbols.layer.loads, refOf "super", refOf "self", steps⟩

/-- The program of a template. -/
def Program.ofTemplate (ev : Evaluator) (body : List Stmt) : Eval Program := do
  let blocks := blocksIn body
  match duplicate? [] blocks with
  | some b =>
    throw (.assertionAt b.line ("block " ++ Text.quoted b.name ++ " defined twice"))
  | none => pure ()
  let build : Build Program := do
    let extending := extendsIn body
    let root ← sectionOf ev true extending 1 ["self"] body
    let p ← get
    let ending := if p.isExtended then .extended else if extending then .whenExtended else .plain
    let parts ← blocks.mapM fun b => do
      startLine b.line
      return (b.name, ← sectionOf ev false false b.line ["self", "super"] b.body)
    return ⟨root, ending, p.line, parts⟩
  let (program, _) ← build.run ⟨1, 0, false, ⟨true, false⟩⟩
  return program

end TemplateTree.Template
