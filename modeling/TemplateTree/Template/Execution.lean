import TemplateTree.Template.Evaluation
import TemplateTree.Template.Loader

/-!
# Executing steps

What the steps of a program do: they print, set variables, run loops, define and call macros, and bring
other templates in.

* `runLoop`: the rounds of a loop.
* `execute`: one step.
-/

namespace TemplateTree.Template

/-! ## Loops -/

/-- The next item of a loop. -/
def nextRound (ev : Evaluator) (id : CellId) : Eval (Option Value) := do
  let next ← peekNext ev id
  match next with
  | none => return none
  | some v =>
    let l ← loopAt id
    setCell id (.loop { l with
      after := none, index := l.index + 1, before := l.current, current := some v })
    return some v

/-- An iterator over what a loop goes through: all items, or those that pass its test. -/
def loopSource (site : Site) (head : LoopHead) (iterable : Value) :
    Eval (CellId × Value) := do
  match head.test with
  | none => return (← iterate iterable, iterable)
  | some (line, loads, test) =>
    let inside ← innerSite site
    let source ← inFile site.file line do
      enterWith inside loads
      iterate iterable
    let id ← alloc (.iterator (.tested source inside head.target line test))
    return (id, .object .iterator id)

/-- Runs the rounds of a loop, and says whether there were any. -/
def runLoop (ev : Evaluator) (site : Site) (head : LoopHead) (recursion : Option Recursion)
    (iterable : Value) (depth : Nat) (body : Eval Unit) : Eval Bool := do
  atLine head.line
  let (source, counted) ← loopSource site head iterable
  let state ← match head.loopVariable with
    | none => pure none
    | some r =>
      let id ← alloc (.loop ⟨counted, source, -1, none, none, none, none, depth, none, recursion⟩)
      pure (some (r, id))
  let any ← repeatUntil (fun any => do
    atLine head.line
    let next ← match state with
      | some (_, id) => nextRound ev id
      | none => ev.pull source
    match next with
    | none => return .inr any
    | some v =>
      bindTarget ev site head.target v
      match state with
      | some (r, id) => setVariable site r (some (.object .loop id))
      | none => pure ()
      enterWith site head.loads
      body
      return .inl true) false
  leaveWith site head.leaves
  return any

/-- A text, marked as escaped where the step says so. -/
def asEscaping (site : Site) (escaping : Escaping) (text : String) : Eval Value := do
  match escaping with
  | .off => return .text text
  | .on => return .markup text
  | .dynamic => return if ← escapesAt site then .markup text else .text text

/-- Runs a recursive loop over values, and gives what it prints. `body` and `otherwise` execute its parts
    at a site. -/
def runRecursion (ev : Evaluator) (r : Recursion) (body otherwise : Site → Eval Unit)
    (iterable : Value) (depth : Nat) : Eval Value := do
  let site ← innerSite r.site
  inFile site.file r.head.line do
    let pieces ← captured do
      let any ← runLoop ev site r.head (some r) iterable depth (body site)
      if !any && r.hasOtherwise then otherwise site
    asEscaping site r.head.escaping (← concat pieces)

/-! ## Names of the context -/

/-- Sets names of the context from variables. -/
def publish (site : Site) (exporting : Bool) (vars : List (String × Ref)) : Eval Unit :=
  vars.forM fun (name, r) => do
    match ← readVariable site r with
    | none => return ()
    | some v =>
      modifyContext site.context fun c =>
        let others := c.exported.filter (· != name)
        let isPrivate := name.startsWith "_"
        let exported := if isPrivate then c.exported else if exporting then name :: others else others
        { c with own := setNamed name v c.own, exported }

/-- The context of a block that sees the variables around it. -/
def derivedContext (site : Site) (locals : Shared) : Eval CellId := do
  match locals with
  | none => return site.context
  | some vars =>
    let given ← visibleAt site vars
    let c ← contextAt site.context
    alloc (.context { c with given, own := [], exported := [] })

/-- Puts the blocks of a template behind those of a context. -/
def inherit (context : CellId) (id : TemplateId) : Eval Unit := do
  let parts := (← templateAt id).program.blocks
  modifyContext context fun c =>
    { c with blocks := parts.foldl (fun acc (name, _) =>
        setNamed name ((named? acc name).getD [] ++ [⟨id, name⟩]) acc) c.blocks }

/-- Binds the names that are imported from a module. -/
def bindImports (site : Site) (line : Nat) (module' : Module) (names : List (String × Ref)) :
    Eval Unit :=
  names.forM fun (name, r) => do
    match named? module'.exports name with
    | some v => setVariable site r (some v)
    | none =>
      let v ← undefinedValue ("the template " ++ Text.quoted module'.name ++ " (imported on line "
        ++ toString line ++ " in " ++ Text.quoted (← templateName site)
        ++ ") does not export the requested name " ++ Text.quoted name)
      setVariable site r (some v)

/-- The template that an inclusion names, if it is there or has to be. -/
def includedTemplate (ev : Evaluator) (ignoreMissing : Bool) (name : Eval Value) :
    Eval (Option TemplateId) := do
  let load := do chooseTemplate ev (← name)
  if !ignoreMissing then return some (← load)
  match ← attempt load with
  | .ok id => return some id
  | .error f => if f.isOf [.notFound, .noneFound] then return none else throw f

/-- Prints an included template. -/
def printTemplate (ev : Evaluator) (site : Site) (id : TemplateId) (locals : Shared) (depth : Nat) :
    Eval Unit := do
  match locals with
  | some vars =>
    let context ← newContext id (← visibleAt site vars)
    ev.root id context
  | none =>
    match ← cell (← defaultModule id) with
    | .moduleOf m => m.output.forM (writeAt depth)
    | _ => return ()

/-- Fails unless a variable is a namespace. -/
def requireNamespace (site : Site) (r : Ref) : Eval Unit := do
  match ← readVariable site r with
  | some (.object .namespaceOf _) => return ()
  | _ => throw (.runtime "cannot assign attribute on non-namespace object")

/-- Calls what a call with a block of statements asks for, and passes the block on as a macro. -/
def callWith (ev : Evaluator) (site : Site) (block : Value) : Expr Ref → Eval Value
  | .call _ f args named star starStar => do
    let f ← evaluate ev site f
    let args ← evaluateAll ev site args
    let star ← evaluateOption ev site star
    let named ← evaluateNamed ev site named
    let starStar ← evaluateOption ev site starStar
    let given ← arguments ev callLabel args (named ++ [("caller", block)]) star starStar
    ev.call (← escapesAt site) f given
  | e => evaluate ev site e

/-! ## Steps -/

mutual

/-- Executes a step. -/
def execute (ev : Evaluator) (site : Site) : Code → Eval Unit
  | .enter loads => enterWith site loads
  | .leave refs => leaveWith site refs
  | .emit text => write (.text text)
  | .print line escaping e => do
    atLine line
    let v ← evaluate ev site e
    let escapes ← match escaping with
      | .off => pure false
      | .on => pure true
      | .dynamic => escapesAt site
    write (.text (← if escapes then escaped ev v else printed ev v))
  | .unlessExtended body => do
    if (← parentOf site).isNone then executeAll ev site body
  | .failIfExtended => do
    if (← parentOf site).isSome then throw (.runtime "extended multiple times")
  | .extend line template => do
    atLine line
    let id ← templateOf ev (← evaluate ev site template)
    modifyScope site.scope fun s => { s with parent := some id }
    inherit site.context id
  | .block line name locals isRequired => do
    atLine line
    let versions := (named? (← contextAt site.context).blocks name).getD []
    if isRequired && versions.length ≤ 1 then
      throw (.runtime ("Required block " ++ Text.quoted name ++ " not found"))
    let context ← derivedContext site locals
    match versions with
    | first :: _ => ev.block first context
    | [] => return ()
  | .ifElse line test yes no => do
    atLine line
    if ← truth ev (← evaluate ev site test) then executeAll ev site yes
    else executeAll ev site no
  | .forLoop head body hasOtherwise otherwise => do
    atLine head.line
    let iterable ← evaluate ev site head.iter
    if head.recursive then
      write (← runRecursion ev ⟨head, body, hasOtherwise, otherwise, site⟩
        (fun s => executeAll ev s body) (fun s => executeAll ev s otherwise) iterable 0)
    else
      let any ← runLoop ev site head none iterable 0 (executeAll ev site body)
      if !any && hasOtherwise then executeAll ev site otherwise
  | .bind line target value => do
    atLine line
    bindTarget ev site target (← evaluate ev site value)
  | .requireNamespaces refs => refs.forM (requireNamespace site)
  | .publish vars => publish site true vars
  | .conceal vars => publish site false vars
  | .capture line target filter escaping body => do
    let pieces ← captured (executeAll ev site body)
    atLine line
    let text ← concat pieces
    let v ← match filter with
      | some e => do evaluate ev { site with captured := ← asEscaping site escaping text } e
      | none => pure (.text text)
    let v ← if ← escapesAt site then pure (.markup (← printed ev v)) else pure v
    bindTarget ev site target v
  | .filtered line filter escaping body => do
    let pieces ← captured (executeAll ev site body)
    atLine line
    let text ← concat pieces
    write (← evaluate ev { site with captured := ← asEscaping site escaping text } filter)
  | .defineMacro target signature body => do
    let id ← alloc (.procedure ⟨signature, body, site⟩)
    setVariable site target (some (.object .procedure id))
  | .callMacro line call signature body => do
    let id ← alloc (.procedure ⟨signature, body, site⟩)
    atLine line
    write (← callWith ev site (.object .procedure id) call)
  | .inclusion line template ignoreMissing locals depth => do
    atLine line
    match ← includedTemplate ev ignoreMissing (evaluate ev site template) with
    | some id => printTemplate ev site id locals depth
    | none => return ()
  | .importAs line template target locals => do
    atLine line
    let id ← templateOf ev (← evaluate ev site template)
    let cell ← importedModule ev site id locals
    setVariable site target (some (.object .moduleOf cell))
  | .importNames line template names locals => do
    atLine line
    let id ← templateOf ev (← evaluate ev site template)
    match ← cell (← importedModule ev site id locals) with
    | .moduleOf m => bindImports site line m names
    | _ => return ()
  | .escapeIf line option body => do
    atLine line
    let escapes ← truth ev (← evaluate ev site option)
    let before ← escapesAt site
    modifyContext site.context fun c => { c with escapes }
    executeAll ev site body
    modifyContext site.context fun c => { c with escapes := before }

/-- Executes steps one after the other. -/
def executeAll (ev : Evaluator) (site : Site) : List Code → Eval Unit
  | [] => return ()
  | c :: rest => do
    execute ev site c
    executeAll ev site rest

end

theorem execute_emit (ev : Evaluator) (site : Site) (text : String) :
    execute ev site (.emit text) = write (.text text) := by
  unfold execute
  rfl

end TemplateTree.Template
