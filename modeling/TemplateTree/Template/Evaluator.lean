import TemplateTree.Template.Execution

/-!
# The evaluator

The operations that refer to each other without end: reading on in a sequence, calling a value, applying
filters and tests by name, and evaluating templates and blocks. Each uses the others one level deeper;
at the last level every one of them is a fault.

* `callProcedure`: calls of macros.
* `pullFrom`: reading on.
* `evaluator`: all operations, for a number of levels.
-/

namespace TemplateTree.Template

/-! ## Calls of macros -/

/-- The name of a macro in messages. -/
def Signature.shownName (s : Signature) : String :=
  (s.name.map Text.quoted).getD "None"

/-- What the parameters of a macro are given: values by position, and after them by name. -/
def givenParameters : List Ref → List Value → List (String × Value) →
    List (Ref × Option Value)
  | [], _, _ => []
  | r :: rest, v :: vs, named => (r, some v) :: givenParameters rest vs named
  | r :: rest, [], named => (r, named? named r.name) :: givenParameters rest [] named

/-- The block of a call, as the macro sees it. -/
def callerValue (named : List (String × Value)) : Eval Value := do
  match named? named "caller" with
  | some .none | none => undefinedValue "No caller defined"
  | some v => return v

/-- What the variables of a macro hold when it is called. -/
def bindArguments (s : Signature) (args : Arguments) : Eval (List (Ref × Option Value)) := do
  let count := s.params.length
  let positional := args.positional
  let params := givenParameters s.params positional args.named
  let byName := (s.params.drop positional.length).map (·.name)
  let hasCaller := (s.params.map (·.name)).contains "caller"
    && (byName.contains "caller" || byName.isEmpty)
  let rest := args.named.filter fun e => !byName.contains e.1
  let takesCaller := s.usesCaller && !hasCaller
  let caller ← if takesCaller then some <$> callerValue rest else pure none
  let rest := if takesCaller then rest.filter (·.1 != "caller") else rest
  let named ← match s.kwargs, rest with
    | some r, rest => pure [(r, some (← newDict (rest.map fun (k, v) => (.text k, v))))]
    | none, [] => pure []
    | none, (k, _) :: _ =>
      if (named? rest "caller").isSome then
        throw (.type ("macro " ++ s.shownName ++ " was invoked with two values for the special caller "
          ++ "argument. This is most likely a bug."))
      throw (.type ("macro " ++ s.shownName ++ " takes no keyword argument " ++ Text.quoted k))
  let more ← match s.varargs with
    | some r => pure [(r, some (.tuple (positional.drop count)))]
    | none =>
      if count < positional.length then
        throw (.type ("macro " ++ s.shownName ++ " takes not more than " ++ toString count
          ++ " argument(s)"))
      pure []
  let block := match s.caller, caller with
    | some r, some v => [(r, some v)]
    | _, _ => []
  return params ++ block ++ named ++ more

/-- Gives the parameters that have no value yet their defaults, in order. -/
def fillDefaults (ev : Evaluator) (site : Site) (defaults : List (Expr Ref)) :
    List Ref → Eval Unit
  | [] => return ()
  | r :: rest => do
    match ← readVariable site r with
    | some _ => pure ()
    | none =>
      let default := if rest.length < defaults.length
        then defaults[defaults.length - rest.length - 1]? else none
      match default with
      | some e => setVariable site r (some (← evaluate ev site e))
      | none =>
        setVariable site r (some (← undefinedValue
          ("parameter " ++ Text.quoted r.name ++ " was not provided")))
    fillDefaults ev site defaults rest

/-- Calls a macro. Its result is marked as escaped if what is printed where it is called is. -/
def callProcedure (ev : Evaluator) (p : Procedure) (escapes : Bool) (args : Arguments) :
    Eval Value := do
  let s := p.signature
  let given ← bindArguments s args
  let site ← innerSite p.site
  given.forM fun (r, v) => setVariable site r v
  inFile site.file s.line do
    enterWith site s.loads
    fillDefaults ev site s.defaults s.params
    let text ← concat (← captured (executeAll ev site p.body))
    return if escapes then .markup text else .text text

/-! ## Calls -/

/-- Refuses the arguments of a call that takes none. -/
def refuseArguments (label : String) (args : Arguments) : Eval Unit := do
  match args.named, args.positional.length with
  | [], 0 => return ()
  | (k, _) :: _, _ =>
    throw (.type (label ++ "() got an unexpected keyword argument " ++ Text.quoted k))
  | [], n =>
    throw (.type (label ++ "() takes 1 positional argument but " ++ toString (n + 1)
      ++ " were given"))

/-- Evaluates the first of the versions of a block, and gives what it prints. -/
def callBlock (ev : Evaluator) (id : CellId) : Eval Value := do
  match ← cell id with
  | .block _ context (first :: _) =>
    let text ← concat (← captured (ev.block first context))
    return if (← contextAt context).escapes then .markup text else .text text
  | _ => return .text ""

/-- Calls a loop for values further down. -/
def callLoop (ev : Evaluator) (id : CellId) (args : Arguments) : Eval Value := do
  let vs ← Formatting.lift
    ((Parameters.mk "LoopContext.__call__" 1 [("iterable", none)]).fill args)
  let l ← loopAt id
  match l.recursion with
  | none =>
    throw (.type "The loop must have the 'recursive' marker to be called recursively.")
  | some r =>
    runRecursion ev r (fun s => executeAll ev s r.body) (fun s => executeAll ev s r.otherwise)
      (vs[0]?.getD .none) (l.depth + 1)

/-- Calls a value. -/
def callValue (ev : Evaluator) (escapes : Bool) (f : Value) (args : Arguments) : Eval Value := do
  match f with
  | .object .procedure id =>
    match ← cell id with
    | .procedure p => callProcedure ev p escapes args
    | _ => return .none
  | .object .block id =>
    refuseArguments "BlockReference.__call__" args
    callBlock ev id
  | .object .loop id => callLoop ev id args
  | .object .joiner id =>
    refuseArguments "Joiner.__call__" args
    callJoiner id
  | .builtin b => callBuiltin ev b args
  | .method receiver name => callMethod ev receiver name args
  | .undefined message _ => throw (.undefined message)
  | v => throw (.type ("'" ++ v.typeName ++ "' object is not callable"))

/-! ## Filters and tests by name -/

/-- Applies a filter by its name. -/
def applyFilter (ev : Evaluator) (escapes : Bool) (name : String) (v : Value) (args : Arguments) :
    Eval Value := do
  match named? filters name with
  | some f => f.apply ev escapes v args
  | none => throw (.runtime ("No filter named " ++ Text.quoted name ++ "."))

/-- Applies a test by its name. -/
def applyTest (ev : Evaluator) (name : String) (v : Value) (args : Arguments) : Eval Value := do
  match named? tests name with
  | some t => t ev v args
  | none => throw (.runtime ("No test named " ++ Text.quoted name ++ "."))

/-! ## Sequences -/

/-- The next item that fulfils a test, or of which a part does. -/
def nextSelected (ev : Evaluator) (source : CellId) (wanted : Bool) (part : Option Value)
    (test : ItemTest) : Eval (Option Value) :=
  repeatUntil (fun _ => do
    match ← ev.pull source with
    | none => return .inr none
    | some v =>
      let x ← match part with
        | some path => getPart ev (attributeParts path) .none v
        | none => pure v
      return if (← itemTest ev test x) == wanted then .inr (some v) else .inl ()) ()

/-- The next item with a key that has not come before, and the keys that have come by then. -/
def nextDistinct (ev : Evaluator) (source : CellId) (step : ItemStep) (ignoresCase : Bool)
    (seen : List Value) : Eval (Option (Value × List Value)) :=
  repeatUntil (fun _ => do
    match ← ev.pull source with
    | none => return .inr none
    | some v =>
      let x ← itemStep ev false step v
      let key := if ignoresCase then withoutCase x else x
      match ← lookup (seen.map fun k => (k, k)) key with
      | some _ => return .inl ()
      | none => return .inr (some (v, key :: seen))) ()

/-- The next item of a loop that passes the loop's test. -/
def nextTested (ev : Evaluator) (source : CellId) (site : Site) (target : Target Ref) (line : Nat)
    (test : Expr Ref) : Eval (Option Value) := do
  inFile site.file line do
    repeatUntil (fun _ => do
      match ← ev.pull source with
      | none => return .inr none
      | some v =>
        bindTarget ev site target v
        if ← truth ev (← evaluate ev site test) then return .inr (some (← targetValue site target))
        else return .inl ()) ()

/-- The next item of an iterator. -/
def nextOf (ev : Evaluator) (id : CellId) : Iter → Eval (Option Value)
  | .done | .items [] => return none
  | .items (v :: rest) => do
    setCell id (.iterator (.items rest))
    return some v
  | .live list position => do
    match (← listItems list)[position]? with
    | some v =>
      setCell id (.iterator (.live list (position + 1)))
      return some v
    | none =>
      setCell id (.iterator .done)
      return none
  | .range next stop step => do
    if (0 < step && next < stop) || (step < 0 && stop < next) then
      setCell id (.iterator (.range (next + step) stop step))
      return some (.int next)
    return none
  | .deferred name escapes v args => do
    setCell id (.iterator (← Filter.begin ev name escapes v args))
    ev.pull id
  | .mapped source escapes step => do
    match ← ev.pull source with
    | some v => return some (← itemStep ev escapes step v)
    | none => return none
  | .selected source wanted part test => nextSelected ev source wanted part test
  | .distinct source step ignoresCase seen => do
    match ← nextDistinct ev source step ignoresCase seen with
    | some (v, seen) =>
      setCell id (.iterator (.distinct source step ignoresCase seen))
      return some v
    | none => return none
  | .tested source site target line test => nextTested ev source site target line test

/-- The next item of a sequence that is read step by step. A loop that is read gives its items together
    with itself. -/
def pullFrom (ev : Evaluator) (id : CellId) : Eval (Option Value) := do
  match ← cell id with
  | .iterator i => nextOf ev id i
  | .loop _ => return (← nextRound ev id).map fun v => .tuple [v, .object .loop id]
  | _ => return none

/-! ## Templates and blocks -/

/-- The versions of a block that come after the given one. -/
def olderVersions (ref : BlockRef) : List BlockRef → Eval (List BlockRef)
  | [] => return []
  | v :: rest => do
    if v.name == ref.name && (← Eval.ask (.isSame v.template ref.template)) then return rest
    else olderVersions ref rest

/-- The block that a block replaces, or what stands for it if there is none. -/
def parentBlock (ref : BlockRef) (context : CellId) : Eval Value := do
  let versions := (named? (← contextAt context).blocks ref.name).getD []
  match ← olderVersions ref versions with
  | [] => undefinedValue ("there is no parent block called " ++ Text.quoted ref.name ++ ".")
  | others => return .object .block (← alloc (.block ref.name context others))

/-- Evaluates the steps of a template or block. -/
def runSection (ev : Evaluator) (site : Site) (s : Section) (parent : Eval Value) : Eval Unit := do
  match s.selfRef with
  | some r => setVariable site r (some (.object .blocks (← alloc (.blocks site.context))))
  | none => pure ()
  match s.superRef with
  | some r => setVariable site r (some (← parent))
  | none => pure ()
  enterWith site s.loads
  executeAll ev site s.body

/-- Evaluates a template in a context, and after it the template that it extends. -/
def runTemplate (ev : Evaluator) (id : TemplateId) (context : CellId) : Eval Unit := do
  let l ← templateAt id
  let site : Site := ⟨← alloc (.scope default), context, id, l.file, .none⟩
  inFile l.file l.program.root.line do
    runSection ev site l.program.root (return .none)
    if l.program.ending != .plain then
      match ← parentOf site with
      | some parent =>
        atLine l.program.endLine
        ev.root parent context
      | none => return ()

/-- Evaluates a block in a context. -/
def runBlock (ev : Evaluator) (ref : BlockRef) (context : CellId) : Eval Unit := do
  let l ← templateAt ref.template
  match named? l.program.blocks ref.name with
  | none => return ()
  | some s =>
    let site : Site := ⟨← alloc (.scope default), context, ref.template, l.file, .none⟩
    inFile l.file s.line (runSection ev site s (parentBlock ref context))

/-! ## All operations -/

/-- The fault of an evaluation that is nested too deep. -/
def tooDeep {α : Type} : Eval α :=
  throw (.raised .recursion "maximum recursion depth exceeded")

/-- The operations for a number of levels. -/
def evaluator : Nat → Evaluator
  | 0 => ⟨fun _ => tooDeep, fun _ _ _ => tooDeep, fun _ _ _ _ => tooDeep, fun _ _ _ => tooDeep,
      fun _ _ => tooDeep, fun _ _ => tooDeep⟩
  | n + 1 =>
    let ev := evaluator n
    ⟨pullFrom ev, callValue ev, applyFilter ev, applyTest ev, runTemplate ev, runBlock ev⟩

/-- How deep evaluation can be nested. -/
def depthLimit : Nat := 250

end TemplateTree.Template
