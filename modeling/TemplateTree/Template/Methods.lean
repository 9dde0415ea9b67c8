import TemplateTree.Template.TextMethods
import TemplateTree.Text.Utf8

/-!
# Methods and functions

What a call means for everything that is no macro and no block: the methods of texts, lists, maps, paths
and loops, and the functions that every template knows.

* `callMethod`: a method of a value.
* `callBuiltin`: a function.
-/

namespace TemplateTree.Template

/-! ## Lists and tuples -/

/-- The first place of an item between two bounds. -/
def indexOf (items : List Value) (args : List Value) (absent : Eval Nat) : Eval Value := do
  let n : Int := items.length
  let bound := fun (i : Nat) (default : Int) => do
    match args[i]? with
    | none => return default
    | some v =>
      match v.integer? with
      | some i => return if i < 0 then max (i + n) 0 else i
      | none => throw (.type "slice indices must be integers or have an __index__ method")
  let start ← bound 1 0
  let stop ← bound 2 n
  let wanted := args[0]?.getD .none
  let found ← firstOf (fun (x, i) => do
    let inside := start ≤ Int.ofNat i && Int.ofNat i < stop
    if !inside then return none
    return if ← sameItem x wanted then some i else none) items.zipIdx
  match found with
  | some i => return .int i
  | none => return .int (← absent)

/-- How often an item occurs. -/
def countOf (items : List Value) (v : Value) : Eval Value := do
  let hits ← items.filterM fun x => sameItem x v
  return .int hits.length

/-- Takes an item out of a list. -/
def popFrom (id : CellId) (items : List Value) (args : List Value) : Eval Value := do
  let i ←
    match args with
    | [] => pure (-1)
    | v :: _ => wanted v
  if items.isEmpty then throw (.raised .indexError "pop from empty list")
  match place? items.length i with
  | some k =>
    setCell id (.list (items.eraseIdx k).toArray)
    return items[k]?.getD .none
  | none => throw (.raised .indexError "pop index out of range")

/-- Calls a method of a list. -/
def callListMethod (ev : Evaluator) (id : CellId) (name : String) (args : Arguments) : Eval Value := do
  let label := "list." ++ name
  let items := (← listItems id).toList
  let become := fun (new : List Value) => setCell id (.list new.toArray)
  match name with
  | "append" =>
    let v ← single label args
    setCell id (.list ((← listItems id).push v))
    return .none
  | "extend" =>
    let more ← collect ev (← single label args)
    become (items ++ more)
    return .none
  | "insert" =>
    match ← between label name 2 2 args with
    | [at_, v] =>
      let i ← wanted at_
      let i := if i < 0 then (i + items.length).toNat else i.toNat
      become (items.take i ++ v :: items.drop i)
      return .none
    | _ => return .none
  | "pop" => popFrom id items (← between label name 0 1 args)
  | "remove" =>
    let v ← single label args
    let i ← indexOf items [v] (throw (.value "list.remove(x): x not in list"))
    become (items.eraseIdx (i.integer?.getD 0).toNat)
    return .none
  | "index" =>
    let vs ← between label name 1 3 args
    let absent := do throw (.value ((← shown ev (vs[0]?.getD .none)) ++ " is not in list"))
    indexOf items vs absent
  | "count" => countOf items (← single label args)
  | "reverse" =>
    nothing label args
    become items.reverse
    return .none
  | "clear" =>
    nothing label args
    become []
    return .none
  | _ =>
    nothing label args
    newList items

/-- Calls a method of a tuple or range. -/
def callTupleMethod (ev : Evaluator) (v : Value) (name : String) (args : Arguments) : Eval Value := do
  let type := match v with
    | .range .. => "range"
    | _ => "tuple"
  let items ← collect ev v
  match name with
  | "count" => countOf items (← single (type ++ ".count") args)
  | _ =>
    let vs ← between (type ++ ".index") name 1 3 args
    indexOf items vs (do
      if type == "range" then
        throw (.value ((← shown ev (vs[0]?.getD .none)) ++ " is not in range"))
      else throw (.value "tuple.index(x): x not in tuple"))

/-! ## Maps -/

/-- The pairs of a value that maps are made from. -/
def pairsOf (ev : Evaluator) (v : Value) : Eval (List (Value × Value)) := do
  match v with
  | .dict id => dictEntries id
  | v =>
    let items ← collect ev v
    items.zipIdx.mapM fun (item, i) => do
      match ← attempt (collect ev item) with
      | .ok [k, w] => return (k, w)
      | .ok parts =>
        throw (.value ("dictionary update sequence element #" ++ toString i ++ " has length "
          ++ toString parts.length ++ "; 2 is required"))
      | .error f =>
        if f.isOf [.typeError] then
          throw (.type ("cannot convert dictionary update sequence element #" ++ toString i
            ++ " to a sequence"))
        else throw f

/-- The pairs that a positional and named arguments give. -/
def givenPairs (ev : Evaluator) (name : String) (args : Arguments) :
    Eval (List (Value × Value)) := do
  let n := args.positional.length
  if 1 < n then
    throw (.type (name ++ " expected at most 1 argument, got " ++ toString n))
  let first ←
    match args.positional with
    | [] => pure []
    | v :: _ => pairsOf ev v
  return first ++ args.named.map fun (k, v) => (.text k, v)

/-- Calls a method of a map. -/
def callDictMethod (ev : Evaluator) (id : CellId) (name : String) (args : Arguments) : Eval Value := do
  let label := "dict." ++ name
  let entries ← dictEntries id
  let become := fun new => setCell id (.dict new)
  match name with
  | "items" =>
    nothing label args
    return .view .items id
  | "keys" =>
    nothing label args
    return .view .keys id
  | "values" =>
    nothing label args
    return .view .values id
  | "get" =>
    let vs ← between label name 1 2 args
    return (← lookup entries (vs[0]?.getD .none)).getD (vs[1]?.getD .none)
  | "setdefault" =>
    let vs ← between label name 1 2 args
    let key := vs[0]?.getD .none
    let default := vs[1]?.getD .none
    match ← lookup entries key with
    | some v => return v
    | none =>
      become (← store entries key default)
      return default
  | "pop" =>
    let vs ← between label name 1 2 args
    let key := vs[0]?.getD .none
    match ← lookup entries key, vs[1]? with
    | some v, _ =>
      become (← remove entries key)
      return v
    | none, some default => return default
    | none, none => noKey ev key
  | "update" =>
    let pairs ← givenPairs ev "update" args
    become (← storeAll entries pairs)
    return .none
  | "clear" =>
    nothing label args
    become []
    return .none
  | _ =>
    nothing label args
    newDict entries

/-! ## Paths -/

/-- A failed look at the file system. -/
def orSystem {α : Type} : Except SystemError α → Eval α
  | .ok a => return a
  | .error e => throw (.ofSystem e)

/-- What a path leads to: the content of a file, nothing for a directory. That there is nothing at the
    path is no failure here. -/
def contentUnless {α : Type} (p : Path) (absent : α) (f : Option ByteArray → α) : Eval α := do
  match ← Eval.ask (.content p) with
  | .ok content => return f content
  | .error e => if e.saysAbsent then return absent else throw (.ofSystem e)

/-- The text of a file. -/
def readText (p : Path) : Eval Value := do
  match ← orSystem (← Eval.ask (.content p)) with
  | none => throw (.ofSystem (.about .isDirectory p.text))
  | some bytes =>
    match Text.decodeFile bytes with
    | .ok s => return .text s
    | .error f => throw (.raised .undecodable f.message)

/-- Calls a method of a path. -/
def callPathMethod (p : Path) (name : String) (args : Arguments) : Eval Value := do
  let textual := fun (v : Value) =>
    match v, v.text? with
    | .path q, _ => return q
    | _, some s => return Path.parse s
    | _, none =>
      throw (.type ("expected str, bytes or os.PathLike object, not " ++ v.typeName))
  match name with
  | "read_text" => readText p
  | "exists" => return .bool (← contentUnless p false fun _ => true)
  | "is_file" => return .bool (← contentUnless p false Option.isSome)
  | "is_dir" => return .bool (← contentUnless p false Option.isNone)
  | "joinpath" => return .path (← args.positional.foldlM (fun q v => return q.join (← textual v)) p)
  | "as_posix" => return .text p.text
  | "is_absolute" => return .bool p.isAbsolute
  | "with_name" => return .path (p.parent.join (← textual (← single "with_name" args)))
  | _ =>
    let suffix := ((← single "with_suffix" args).text?).getD ""
    return .path (p.parent.child (p.stem ++ suffix))

/-! ## Loops and other objects -/

/-- Calls a method of a loop. -/
def callLoopMethod (id : CellId) (name : String) (args : Arguments) : Eval Value := do
  let l ← loopAt id
  match name with
  | "cycle" =>
    match args.positional with
    | [] => throw (.type "no items for cycling given")
    | vs => return (vs[(l.index.emod vs.length).toNat]?).getD .none
  | _ =>
    let isSame ←
      match l.lastChecked with
      | none => pure false
      | some old => allBoth sameItem old args.positional
    if isSame then return .bool false
    setCell id (.loop { l with lastChecked := some args.positional })
    return .bool true

/-- Calls a method of a cycler. -/
def callCyclerMethod (id : CellId) (name : String) : Eval Value := do
  match ← cell id with
  | .cycler items position =>
    let next := if name == "reset" then 0 else (position + 1) % items.length
    setCell id (.cycler items next)
    return if name == "reset" then .none else items[position]?.getD .none
  | _ => return .none

/-- The bits that an integer needs. -/
def bitLength (n : Int) : Nat :=
  if n == 0 then 0 else n.natAbs.log2 + 1

/-- Calls a method of a value. -/
def callMethod (ev : Evaluator) (receiver : Value) (name : String) (args : Arguments) :
    Eval Value := do
  match receiver with
  | .text s => TextMethods.call ev ⟨false, s.toList⟩ name args
  | .markup s => TextMethods.call ev ⟨true, s.toList⟩ name args
  | .list id => callListMethod ev id name args
  | .dict id => callDictMethod ev id name args
  | .tuple _ | .group .. | .range .. => callTupleMethod ev receiver name args
  | .path p => callPathMethod p name args
  | .object .loop id => callLoopMethod id name args
  | .object .cycler id => callCyclerMethod id name
  | .bool b =>
    nothing "int.bit_length" args
    return .int (bitLength (if b then 1 else 0))
  | .int n =>
    nothing "int.bit_length" args
    return .int (bitLength n)
  | .float x =>
    nothing "float.is_integer" args
    return .bool (Decimal.isIntegral x)
  | .date d => return .text (Calendar.dateText d)
  | .dateTime t => return .text (Calendar.dateTimeText "T" t)
  | .bytes b =>
    if name == "hex" then
      return .text (String.ofList (b.flatMap fun x => Text.hexDigits 2 x.toNat))
    match Text.decode ⟨b.toArray⟩ with
    | .ok s => return .text s
    | .error f => throw (.raised .undecodable f.message)
  | v => throw (.type ("'" ++ v.typeName ++ "' object is not callable"))

/-! ## Functions -/

/-- The bounds of a range. -/
def callRange (args : Arguments) : Eval Value := do
  let vs ← between "range" "range" 1 3 args
  let ns ← vs.mapM wanted
  match ns with
  | [stop] => return .range 0 stop 1
  | [start, stop] => return .range start stop 1
  | [start, stop, step] =>
    if step == 0 then throw (.value "range() arg 3 must not be zero")
    return .range start stop step
  | _ => return .none

/-- Calls a function that every template knows. -/
def callBuiltin (ev : Evaluator) (f : Builtin) (args : Arguments) : Eval Value := do
  match f with
  | .range => callRange args
  | .dict => newDict (← storeAll [] (← givenPairs ev "dict" args))
  | .namespaceOf =>
    let pairs ← storeAll [] (← givenPairs ev "dict" args)
    let fields := pairs.filterMap fun (k, v) => k.text?.map fun s => (s, v)
    return .object .namespaceOf (← alloc (.fields fields))
  | .cycler =>
    if args.positional.isEmpty then throw (.raised .stopped "at least one item has to be provided")
    return .object .cycler (← alloc (.cycler args.positional 0))
  | .joiner =>
    let vs ← (Formatting.lift
      ((Parameters.mk "Joiner.__init__" 1 [("sep", some (.text ", "))]).fill args))
    return .object .joiner (← alloc (.joiner (vs[0]?.getD .none) false))

/-- Calls a joiner: nothing the first time, its separator from then on. -/
def callJoiner (id : CellId) : Eval Value := do
  match ← cell id with
  | .joiner separator used =>
    setCell id (.joiner separator true)
    return if used then separator else .text ""
  | _ => return .none

end TemplateTree.Template
