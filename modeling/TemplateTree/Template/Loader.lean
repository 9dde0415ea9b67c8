import TemplateTree.Template.Variables

/-!
# Templates that others refer to

A template refers to others by their names. The library gives the templates; every one that it gives gets
a number of its own in the machine, also when it has been given before.

* `templateOf`: the template that a value names.
* `chooseTemplate`: the first template there is of several.
* `defaultModule`: what a template exports when it sees no context.
-/

namespace TemplateTree.Template

/-! ## Templates -/

/-- Puts a template into the machine. -/
def addTemplate (l : Loaded) : Eval TemplateId :=
  alloc (.template l)

/-- The template under a name. -/
def loadTemplate (name shownName : String) : Eval TemplateId := do
  match ← Eval.ask (.template (← get).cells.size name shownName) with
  | .ok l => addTemplate l
  | .error f => throw f

/-- Fails for a value that is no text. Where templates are kept, one that can be no key fails as such. -/
def refuseName (v : Value) : Eval TemplateId := do
  match ← attempt (checkKey comparedLimit v) with
  | .ok _ => pure ()
  | .error f => if ← Eval.ask .isKeyed then throw f
  throw (.raised .attributeError ("'" ++ v.typeName ++ "' object has no attribute 'split'"))

/-- The template that a value names. -/
def templateOf (ev : Evaluator) (v : Value) : Eval TemplateId := do
  match v, v.text? with
  | .undefined message _, _ => throw (.undefined message)
  | v, some name => loadTemplate name (← shown ev v)
  | v, none => refuseName v

/-- What a value is called in the message that no template was found. -/
def soughtName (ev : Evaluator) (v : Value) : Eval String := do
  match v with
  | .undefined message _ => return message
  | v => printed ev v

/-- The first template there is of some names. -/
def firstTemplate (ev : Evaluator) (names : List Value) : List Value → Eval TemplateId
  | [] => do
    let sought ← names.mapM (soughtName ev)
    throw (.raised .noneFound ("none of the templates given were found: " ++ ", ".intercalate sought))
  | v :: rest => do
    match ← attempt (templateOf ev v) with
    | .ok id => return id
    | .error f =>
      if f.isOf [.notFound, .noneFound, .undefined] then firstTemplate ev names rest else throw f

/-- The template that a name or a sequence of names stands for. -/
def chooseTemplate (ev : Evaluator) (v : Value) : Eval TemplateId := do
  match v, v.text? with
  | .undefined .., _ | _, some _ => templateOf ev v
  | v, none =>
    if !(← truth ev v) then
      throw (.raised .noneFound "Tried to select from an empty list of templates.")
    let names ← collect ev v
    firstTemplate ev names names

/-! ## Contexts of templates -/

/-- What every template can use. -/
def globalValues : List (String × Value) :=
  [("range", .builtin .range), ("dict", .builtin .dict), ("cycler", .builtin .cycler),
    ("joiner", .builtin .joiner), ("namespace", .builtin .namespaceOf)]

/-- A new context for a template. -/
def newContext (id : TemplateId) (given : List (String × Value)) : Eval CellId := do
  let l ← templateAt id
  alloc (.context ⟨l.name, given, [], [], l.program.blocks.map fun b => (b.1, [⟨id, b.1⟩]), false⟩)

/-- What an included or imported template sees of a site. -/
def visibleAt (site : Site) (vars : List (String × Ref)) : Eval (List (String × Value)) := do
  let c ← contextAt site.context
  vars.foldlM (fun acc (name, r) => do
    match ← readVariable site r with
    | some v => return setNamed name v acc
    | none => return acc) c.all

/-- Evaluates a template for what it exports. -/
def makeModule (ev : Evaluator) (id : TemplateId) (given : List (String × Value)) :
    Eval CellId := do
  let context ← newContext id given
  let output ← captured (ev.root id context)
  let c ← contextAt context
  alloc (.moduleOf ⟨c.template, output, c.own.filter fun e => c.exported.contains e.1⟩)

/-- What a template exports when it sees no context. -/
def defaultModule (id : TemplateId) : Eval CellId := do
  let made ← Eval.ask (.module id (← templateAt id).name (← get).cells)
  modify fun m => { m with cells := made.cells, own := made.cells.size }
  match made.result with
  | .ok cell => return cell
  | .error (f, frames) =>
    modify fun m => { m with frames := frames ++ m.frames }
    throw f

/-- What a template exports, evaluated as an import asks for. -/
def importedModule (ev : Evaluator) (site : Site) (id : TemplateId) (locals : Shared) :
    Eval CellId := do
  match locals with
  | some vars => makeModule ev id (← visibleAt site vars)
  | none => defaultModule id

end TemplateTree.Template
