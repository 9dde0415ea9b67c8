import TemplateTree.Template.Filter.Basic

/-!
# Filters on sequences

Filters that choose, order, group and sum the items of a sequence. Those that give one item after the
other are iterators: they do their work when they are read.

* `ofSequence`: the filters by name.
* `begin`: how the work of a filter that is an iterator begins.
-/

namespace TemplateTree.Template.Filter

/-! ## Single results -/

/-- The number of items. -/
def count : Filter :=
  ⟨true, fun ev _ v args => do
    let n := 1 + args.positional.length
    if !args.named.isEmpty then throw (.type "len() takes no keyword arguments")
    if n != 1 then
      throw (.type ("len() takes exactly one argument (" ++ toString n ++ " given)"))
    return .int (← length ev v)⟩

/-- The first item. -/
def first : Filter :=
  of "sync_do_first" 1 [needed "seq"] fun ev _ vs => do
    match ← ev.pull (← iterate (arg vs 0)) with
    | some v => return v
    | none => undefinedValue "No first item, sequence was empty."

/-- The items of a value that can be read backwards, last item first. -/
def backwards? (v : Value) : Eval (Option (List Value)) := do
  match v with
  | .undefined message true => throw (.undefined message)
  | .set _ | .project _ | .object .. => return none
  | .range start stop step =>
    let n := rangeLength start stop step
    return some ((List.range n).map fun i : Nat => .int (start + (n - 1 - i : Int) * step))
  | v => return (← items? v).map List.reverse

/-- The last item. -/
def last : Filter :=
  of "do_last" 1 [needed "seq"] fun _ _ vs => do
    match ← backwards? (arg vs 0) with
    | some (v :: _) => return v
    | some [] => undefinedValue "No last item, sequence was empty."
    | none => throw (.type ("'" ++ (arg vs 0).typeName ++ "' object is not reversible"))

/-- A value in place of an undefined one, or of one that is not true. -/
def default : Filter :=
  of "do_default" 0 [needed "value", given "default_value" (.text ""), given "boolean" (.bool false)]
    fun ev _ vs => do
      let v := arg vs 0
      if v.isUndefined then return arg vs 1
      if ← truth ev (arg vs 2) then
        return if ← truth ev v then v else arg vs 1
      return v

/-- A new list of the items. -/
def toList : Filter :=
  plain "sync_do_list" "value" fun ev v => do newList (← collect ev v)

/-- The items in the opposite order. -/
def reversed : Filter :=
  plain "do_reverse" "value" fun ev v => do
    match v with
    | .text s => return textOf s.toList.reverse
    | .markup s => return .markup (String.ofList s.toList.reverse)
    | v =>
      match ← backwards? v with
      | some items => newIter (.items items)
      | none =>
        match ← attempt (collect ev v) with
        | .ok items => newList items.reverse
        | .error f =>
          if f.isOf [.typeError] then
            throw (.raised .filterArgument "argument must be iterable")
          else throw f

/-- The sum of the items, or of a part of them. -/
def sum : Filter :=
  of "sync_do_sum" 1 [needed "iterable", given "attribute" .none, given "start" (.int 0)]
    fun ev _ vs => do
      let items ← collect ev (arg vs 0)
      let items ← if (arg vs 1).isNone then pure items
        else items.mapM (getPart ev (attributeParts (arg vs 1)) .none)
      match arg vs 2 with
      | .text _ | .markup _ =>
        throw (.type "sum() can't sum strings [use ''.join(seq) instead]")
      | start => items.foldlM (add ev) start

/-- The items as one text with a separator between them. -/
def join : Filter :=
  of "sync_do_join" 1 [needed "value", given "d" (.text ""), given "attribute" .none]
    fun ev escapes vs => do
      let items ← collect ev (arg vs 0)
      let items ← if (arg vs 2).isNone then pure items
        else items.mapM (getPart ev (attributeParts (arg vs 2)) .none)
      let separator := arg vs 1
      if !escapes then
        let pieces ← items.mapM (printed ev)
        return .text ((← printed ev separator).intercalate pieces)
      if isMarkup separator || items.any isMarkup then
        let pieces ← items.mapM (escaped ev)
        return .markup ((← escaped ev separator).intercalate pieces)
      return .text ((← printed ev separator).intercalate (← items.mapM (printed ev)))

/-- An attribute by its name alone. -/
def attributeOf : Filter :=
  of "do_attr" 1 [needed "obj", needed "name"] fun ev _ vs => do
    match (arg vs 1).text? with
    | some name =>
      match ← attribute? ev (arg vs 0) name with
      | some v => return v
      | none => lacking ev (arg vs 0) (arg vs 1)
    | none =>
      throw (.type ("attribute name must be string, not '" ++ (arg vs 1).typeName ++ "'"))

/-! ## Order -/

/-- The least or greatest item. -/
def extreme (label : String) (op : OrderOp) : Filter :=
  of label 1 [needed "value", given "case_sensitive" (.bool false), given "attribute" .none]
    fun ev _ vs => do
      let items ← collect ev (arg vs 0)
      let caseMatters ← truth ev (arg vs 1)
      let keyed ← items.mapM fun v => do
        return (← sortKey ev caseMatters (attributeParts (arg vs 2)) .none v, v)
      match keyed with
      | [] => undefinedValue "No aggregated item, sequence was empty."
      | best :: rest =>
        let best ← rest.foldlM (fun best x => do
          return if ← ordered op x.1 best.1 then x else best) best
        return best.2

/-- The items in order. -/
def sort : Filter :=
  of "do_sort" 1 [needed "value", given "reverse" (.bool false),
      given "case_sensitive" (.bool false), given "attribute" .none] fun ev _ vs => do
    let items ← collect ev (arg vs 0)
    let caseMatters ← truth ev (arg vs 2)
    let paths := attributePaths (arg vs 3)
    let keyed ← items.mapM fun v => do
      return (Value.tuple (← paths.mapM fun parts => sortKey ev caseMatters parts .none v), v)
    newList (← sorted (← truth ev (arg vs 1)) keyed)

/-- The entries of a map in order. -/
def dictSort : Filter :=
  of "do_dictsort" 0 [needed "value", given "case_sensitive" (.bool false),
      given "by" (.text "key"), given "reverse" (.bool false)] fun ev _ vs => do
    let byValue ←
      match (arg vs 2).text? with
      | some "key" => pure false
      | some "value" => pure true
      | _ =>
        throw (.raised .filterArgument "You can only sort by either \"key\" or \"value\"")
    let entries ←
      match arg vs 0 with
      | .dict id => dictEntries id
      | .undefined message _ => throw (.undefined message)
      | v =>
        throw (.raised .attributeError ("'" ++ v.typeName ++ "' object has no attribute 'items'"))
    let caseMatters ← truth ev (arg vs 1)
    let keyed := entries.map fun (k, v) =>
      let part := if byValue then v else k
      (if caseMatters then part else withoutCase part, Value.tuple [k, v])
    newList (← sorted (← truth ev (arg vs 3)) keyed)

/-- Neighbours with the same key together. -/
def runsOf : List (Value × Value) → Eval (List (Value × List Value))
  | [] => return []
  | (k, v) :: rest => do
    match ← runsOf rest with
    | (l, vs) :: more =>
      if ← sameItem k l then return (k, v :: vs) :: more else return (k, [v]) :: (l, vs) :: more
    | [] => return [(k, [v])]

/-- The items in groups with the same part. -/
def groupBy : Filter :=
  of "sync_do_groupby" 1 [needed "value", needed "attribute", given "default" .none,
      given "case_sensitive" (.bool false)] fun ev _ vs => do
    let parts := attributeParts (arg vs 1)
    let caseMatters ← truth ev (arg vs 3)
    let items ← collect ev (arg vs 0)
    let key := fun v => sortKey ev caseMatters parts (arg vs 2) v
    let items ← sorted false (← items.mapM fun v => do return (← key v, v))
    let runs ← runsOf (← items.mapM fun v => do return (← key v, v))
    let groups ← runs.mapM fun (k, members) => do
      let shownKey ← match members with
        | v :: _ => if caseMatters then pure k else getPart ev parts (arg vs 2) v
        | [] => pure k
      return Value.group shownKey (← newList members)
    newList groups

/-! ## Filters that are iterators -/

/-- A filter with fixed parameters whose work begins when its result is read. -/
def lazily (name label : String) (hidden : Nat) (params : List (String × Option Value)) : Filter :=
  of label hidden params fun _ escapes vs =>
    newIter (.deferred name escapes (arg vs 0) ⟨vs.drop 1, []⟩)

/-- A filter with any arguments whose work begins when its result is read. -/
def lazilyAny (name : String) : Filter :=
  ⟨false, fun _ escapes v args => newIter (.deferred name escapes v args)⟩

/-- The number of items that a row has, if it is a number of items. -/
def rowLength? (v : Value) : Option Nat :=
  match v.number? with
  | some (.inl n) => if 0 ≤ n then some n.toNat else none
  | some (.inr x) => if Decimal.isIntegral x then (Decimal.truncate? x).bind Int.toNat? else none
  | none => none

/-- Items cut into rows of a length. -/
def rows (size : Nat) : Nat → List Value → List (List Value)
  | 0, _ => []
  | _ + 1, [] => []
  | fuel + 1, items => items.take size :: rows size fuel (items.drop size)

/-- Items in rows of a length. A length that no row reaches gives one row, and a length of zero an empty
    row in front of it. The last row may be filled up. -/
def batches (size fill : Value) (items : List Value) : Eval (List (List Value)) := do
  let all := if items.isEmpty then [] else [items]
  let cut := match rowLength? size with
    | some 0 => if items.isEmpty then [] else [[], items]
    | some n => rows n (items.length + 1) items
    | none => all
  match cut.reverse with
  | lastRow :: before =>
    if fill.isNone then return cut
    if !(← ordered .lt (.int lastRow.length) size) then return cut
    let missing := ((rowLength? size).getD 0) - lastRow.length
    return ((lastRow ++ List.replicate missing fill) :: before).reverse
  | [] => return []

/-- Items in a number of columns, the first of which may be longer; the others may be filled up. -/
def columns (number : Int) (fill : Value) (items : List Value) : Eval (List (List Value)) := do
  if number == 0 then byZero "integer division or modulo by zero"
  let n := number.toNat
  let size := items.length / n
  let longer := items.length % n
  return (List.range n).map fun i =>
    let start := i * size + min i longer
    let part := (items.drop start).take (size + (if i < longer then 1 else 0))
    if !fill.isNone && longer ≤ i then part ++ [fill] else part

/-- What a filter that maps does to an item. -/
def stepOf (args : Arguments) : Eval ItemStep := do
  match args.positional, named? args.named "attribute" with
  | [], some path =>
    let rest := args.named.filter fun e => e.1 != "attribute" && e.1 != "default"
    match rest with
    | (k, _) :: _ =>
      throw (.raised .filterArgument ("Unexpected keyword argument " ++ Text.quoted k))
    | [] =>
      return .attribute (attributeParts path) ((named? args.named "default").getD .none)
  | [], none => throw (.raised .filterArgument "map requires a filter argument")
  | name :: rest, _ => return .filter name { args with positional := rest }

/-- What a filter that selects asks of an item: of a part of it, and which test. -/
def testOf (byPart : Bool) (args : Arguments) : Eval (Option Value × ItemTest) := do
  let asTest := fun (positional : List Value) =>
    match positional with
    | name :: rest => ItemTest.test name { args with positional := rest }
    | [] => .truth
  if !byPart then return (none, asTest args.positional)
  match args.positional with
  | [] => throw (.raised .filterArgument "Missing parameter for attribute name")
  | path :: rest => return (some path, asTest rest)

/-- What a filter still has to give when its result is first read. -/
def begin (ev : Evaluator) (name : String) (escapes : Bool) (v : Value) (args : Arguments) :
    Eval Iter := do
  let lists := fun (rows : List (List Value)) => do
    return Iter.items (← rows.mapM newList)
  let arguments := args.positional
  match name with
  | "batch" =>
    let items ← collect ev v
    lists (← batches (arg arguments 0) (arg arguments 1) items)
  | "slice" =>
    let items ← collect ev v
    lists (← columns (← wanted (arg arguments 0)) (arg arguments 1) items)
  | "items" =>
    match v with
    | .undefined .. => return .done
    | .dict id => return .items (viewItems (← dictEntries id) .items)
    | _ => throw (.type "Can only get item pairs from a mapping.")
  | "unique" =>
    let caseMatters ← truth ev (arg arguments 0)
    return .distinct (← iterate v) (.attribute (attributeParts (arg arguments 1)) .none)
      (!caseMatters) []
  | "map" =>
    if !(← truth ev v) then return .done
    let step ← stepOf args
    return .mapped (← iterate v) escapes step
  | _ =>
    if !(← truth ev v) then return .done
    let (part, test) ← testOf (name.endsWith "attr") args
    return .selected (← iterate v) (name.startsWith "select") part test

/-- The filters on sequences by name. -/
def ofSequence : List (String × Filter) :=
  [("length", count),
    ("count", count),
    ("first", first),
    ("last", last),
    ("default", default),
    ("d", default),
    ("list", toList),
    ("reverse", reversed),
    ("sum", sum),
    ("join", join),
    ("attr", attributeOf),
    ("max", extreme "do_max" .gt),
    ("min", extreme "do_min" .lt),
    ("sort", sort),
    ("dictsort", dictSort),
    ("groupby", groupBy),
    ("batch", lazily "batch" "do_batch" 0
      [needed "value", needed "linecount", given "fill_with" .none]),
    ("slice", lazily "slice" "sync_do_slice" 0
      [needed "value", needed "slices", given "fill_with" .none]),
    ("items", lazily "items" "do_items" 0 [needed "value"]),
    ("unique", lazily "unique" "sync_do_unique" 1
      [needed "value", given "case_sensitive" (.bool false), given "attribute" .none]),
    ("map", lazilyAny "map"),
    ("select", lazilyAny "select"),
    ("reject", lazilyAny "reject"),
    ("selectattr", lazilyAny "selectattr"),
    ("rejectattr", lazilyAny "rejectattr")]

end TemplateTree.Template.Filter
