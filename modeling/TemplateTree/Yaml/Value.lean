import TemplateTree.Datum
import TemplateTree.Decimal.Read
import TemplateTree.Text.Case
import TemplateTree.Text.Quoted
import TemplateTree.Yaml.Base64
import TemplateTree.Yaml.Node

/-!
# Values of YAML texts

What the nodes of a text stand for. The tag of a node says which value it is; a tag without a meaning is
a fault. Mappings may be merged into others. Each node is made once, however often it is referred to, and
collections are filled after their surroundings: of several faults the one that is nearest to the root
counts, and among those the first. The lists and maps of a text are the vertices of one graph.

* `flatten`: merges mappings into one.
* `fillAll`: makes nodes.
* `read`: the value of a text.
-/

namespace TemplateTree.Yaml

/-! ## Scalars -/

/-- The text of a scalar. A mapping with a default value stands for that value. No text is found when
    default values lead back to where they began. -/
def textOf (nodes : Nodes) : Nat → NodeId → Except Fault (List Char)
  | 0, _ => .error .endless
  | fuel + 1, id =>
    match nodes.node id with
    | .scalar _ text => .ok text
    | .mapping _ pairs =>
      match pairs.find? fun (k, _) => (nodes.node k).tag == coreTag "value" with
      | some (_, v) => textOf nodes fuel v
      | none => .error .malformed
    | .sequence .. => .error .malformed

/-- A text without the underscores between digits. -/
def ungrouped (s : List Char) : List Char :=
  s.filter (· != '_')

/-- A number without its sign, and the sign as a factor. An empty text has no first character to look
    at. -/
def signed (s : List Char) : Except Fault (Int × List Char) :=
  match s with
  | [] => .error (.badIndex "string index out of range")
  | '-' :: rest => .ok (-1, rest)
  | '+' :: rest => .ok (1, rest)
  | s => .ok (1, s)

/-- An integer in a base. -/
def integerIn (base : Nat) (s : List Char) : Except Fault Int :=
  match Decimal.readInteger base s with
  | .ok n => .ok n
  | .error .malformed =>
    .error (.badValue ("invalid literal for int() with base " ++ toString base ++ ": "
      ++ Text.quoted (String.ofList s)))
  | .error (.tooLong count) => .error (.badValue (Decimal.tooLongToRead count))

/-- The value of an integer. Colons stand between sixtieths. -/
def integer (text : List Char) : Except Fault Int := do
  let (sign, s) ← signed (ungrouped text)
  match s with
  | [] => throw (.badIndex "string index out of range")
  | ['0'] => return 0
  | '0' :: 'b' :: rest => return sign * (← integerIn 2 rest)
  | '0' :: 'x' :: rest => return sign * (← integerIn 16 rest)
  | '0' :: _ => return sign * (← integerIn 8 s)
  | s =>
    if s.contains ':' then
      let parts ← (splitColon s).mapM (integerIn 10)
      return sign * parts.foldl (fun n part => n * 60 + part) 0
    return sign * (← integerIn 10 s)

/-- A float. -/
def floatOf (s : List Char) : Except Fault Float :=
  match Decimal.readFloat? s with
  | some x => .ok x
  | none =>
    .error (.badValue ("could not convert string to float: " ++ Text.quoted (String.ofList s)))

/-- The value of a float. Colons stand between sixtieths. -/
def float (text : List Char) : Except Fault Float := do
  let (sign, s) ← signed (Text.lower (ungrouped text))
  let factor : Float := if sign < 0 then -1 else 1
  if s == ".inf".toList then return factor * Decimal.withSign false (0x7FF * Nat.pow 2 52)
  if s == ".nan".toList then return Decimal.notANumber
  if s.contains ':' then
    let parts ← (splitColon s).mapM floatOf
    let (sum, _) := parts.reverse.foldl (fun (sum, base) part => (sum + part * base, base * 60))
      ((0 : Float), (1 : Float))
    return factor * sum
  return factor * (← floatOf s)

/-- The value of a truth value. -/
def boolean (text : List Char) : Except Fault Bool :=
  let word := String.ofList (Text.lower text)
  if ["yes", "true", "on"].contains word then .ok true
  else if ["no", "false", "off"].contains word then .ok false
  else .error (.badKey (Text.quoted word))

/-- The number that a part of a time denotes. -/
def digitsNumber (s : List Char) : Nat :=
  s.foldl (fun n c => n * 10 + (c.toNat - 0x30)) 0

/-- The digits at the start of a text, at most so many, and the rest. -/
def takeDigits (high : Nat) (s : List Char) : Nat × List Char :=
  let ds := (s.take high).takeWhile isDigitChar
  (digitsNumber ds, s.drop ds.length)

/-- A fraction of a second in millionths. -/
def millionths (digits : List Char) : Nat :=
  let ds := digits.take 6
  digitsNumber (ds ++ List.replicate (6 - ds.length) '0')

/-- The offset at the end of a time, in seconds. An offset is less than a day. -/
def offset? (s : List Char) : Except Fault (Option Int) :=
  match s.dropWhile fun c => c == ' ' || c == '\t' with
  | 'Z' :: _ => .ok (some 0)
  | c :: rest =>
    if c != '+' && c != '-' then .ok none
    else
      let (hours, rest) := takeDigits 2 rest
      let (minutes, _) := takeDigits 2 (rest.drop 1)
      let n : Int := hours * 3600 + minutes * 60
      let n := if c == '-' then -n else n
      if n.natAbs < 86400 then .ok (some n)
      else
        let days := n.fdiv 86400
        let seconds := n.fmod 86400
        let shown := "datetime.timedelta(days=" ++ toString days
          ++ (if seconds == 0 then "" else ", seconds=" ++ toString seconds) ++ ")"
        .error (.badValue ("offset must be a timedelta strictly between "
          ++ "-timedelta(hours=24) and timedelta(hours=24), not " ++ shown))
  | [] => .ok none

/-- The value of a date or a date with a time. -/
def timestamp (text : List Char) : Except Fault Scalar := do
  let s := if text.getLast? == some '\n' then text.dropLast else text
  let afterDate : Option (List Char) := do
    let rest ← dropChar? '-' (← dropDigits? 4 4 s)
    let rest ← dropChar? '-' (← dropDigits? 1 2 rest)
    dropDigits? 1 2 rest
  if !(afterDate.any fun rest => rest.isEmpty || isTimeForm rest) then throw (.noMatch "'NoneType' object has no attribute 'groupdict'")
  let (year, rest) := takeDigits 4 s
  let (month, rest) := takeDigits 2 (rest.drop 1)
  let (day, rest) := takeDigits 2 (rest.drop 1)
  let orBad := fun {α : Type} (x : Except String α) => x.mapError Fault.badValue
  if rest.isEmpty then return .date (← orBad (Calendar.date? year month day))
  let rest := rest.dropWhile (!isDigitChar ·)
  let (hour, rest) := takeDigits 2 rest
  let (minute, rest) := takeDigits 2 (rest.drop 1)
  let (second, rest) := takeDigits 2 (rest.drop 1)
  let (micro, rest) := match rest with
    | '.' :: rest => (millionths (rest.takeWhile isDigitChar), rest.dropWhile isDigitChar)
    | rest => (0, rest)
  let offset ← offset? rest
  return .dateTime (← orBad (Calendar.dateTime? year month day hour minute second micro offset))

/-- The value of bytes. -/
def binary (text : List Char) : Except Fault (List UInt8) :=
  if text.any fun c => 0x80 ≤ c.toNat then .error .malformed
  else
    match Base64.decode? text with
    | some bytes => .ok bytes
    | none => .error .malformed

/-! ## Collections -/

/-- The kinds of collections: lists, maps, sets, and lists of pairs. -/
inductive Collection
  | list
  | map
  | set
  | pairs
  deriving DecidableEq, Repr

/-- The collection that a tag stands for. -/
def collection? (tag : List Char) : Option Collection :=
  [("seq", .list), ("map", .map), ("set", .set), ("omap", .pairs), ("pairs", .pairs)].findSome?
    fun (word, kind) => if coreTag word == tag then some kind else none

/-- The scalar that a node stands for. -/
def scalarOf (nodes : Nodes) (id : NodeId) : Except Fault Scalar := do
  let n := nodes.node id
  let text := textOf nodes (nodes.size + 1) id
  let is := fun word => n.tag == coreTag word
  if is "null" then
    let _ ← text
    return .none
  else if is "bool" then return .bool (← boolean (← text))
  else if is "int" then return .int (← integer (← text))
  else if is "float" then return .float (← float (← text))
  else if is "binary" then return .bytes (← binary (← text))
  else if is "timestamp" then
    let text ← text
    match n with
    | .scalar .. => timestamp text
    | _ => throw (.badType "expected string or bytes-like object, got 'list'")
  else if is "str" then return .text (String.ofList (← text))
  else throw .malformed

/-! ## Merging -/

/-- Changing nodes. -/
abbrev Merge := StateT Nodes (Except Fault)

/-- The pairs that are written in a mapping. -/
def writtenPairs (id : NodeId) : Merge (List (NodeId × NodeId)) := do
  match (← get).node id with
  | .mapping _ pairs => return pairs
  | _ => throw .malformed

/-- Writes other pairs into a mapping. -/
def rewrite (id : NodeId) (pairs : List (NodeId × NodeId)) : Merge Unit :=
  modify fun nodes => nodes.setIfInBounds id (.mapping (nodes.node id).tag pairs)

/-- The mark for a default value is a text as a key. -/
def unmark (key : NodeId) : Merge Unit :=
  modify fun nodes =>
    match nodes.node key with
    | .scalar tag text =>
      if tag == coreTag "value" then nodes.setIfInBounds key (.scalar (coreTag "str") text) else nodes
    | _ => nodes

/-- The first pair with a merge key: its value, and the other pairs. -/
def mergePair? (nodes : Nodes) : List (NodeId × NodeId) → Option (NodeId × List (NodeId × NodeId))
  | [] => none
  | (k, v) :: rest =>
    if (nodes.node k).tag == coreTag "merge" then some (v, rest)
    else (mergePair? nodes rest).map fun (source, rest) => (source, (k, v) :: rest)

/-- Puts the pairs of the mappings that merge keys refer to in front of those of a mapping, `merged` of
    them so far. A merge key is gone before its mappings are merged, so that a mapping may refer to
    itself. -/
def flatten : Nat → NodeId → List (NodeId × NodeId) → Merge Unit
  | 0, _, _ => throw .malformed
  | fuel + 1, id, merged => do
    let pairs ← writtenPairs id
    match mergePair? (← get) pairs with
    | none =>
      pairs.forM fun (k, _) => unmark k
      rewrite id (merged ++ pairs)
    | some (source, rest) =>
      rewrite id rest
      match (← get).node source with
      | .sequence _ items =>
        let added ← items.mapM fun item => do
          let _ ← writtenPairs item
          flatten fuel item []
          writtenPairs item
        flatten fuel id (merged ++ added.reverse.flatten)
      | _ =>
        let _ ← writtenPairs source
        flatten fuel source []
        let added ← writtenPairs source
        flatten fuel id (merged ++ added)

/-- How many pairs there are in all mappings. -/
def pairCount (nodes : Nodes) : Nat :=
  nodes.foldl (fun n node => match node with
    | .mapping _ pairs => n + pairs.length
    | _ => n) 0

/-! ## Making nodes -/

/-- What a collection holds. -/
inductive Content
  | list (items : List NodeId)
  | map (pairs : List (NodeId × NodeId))
  | set (keys : List NodeId)
  | pairs (items : List (NodeId × NodeId))

/-- The nodes, the scalars that have been made of them, and the collections in the order in which they
    were met. -/
structure Making where
  nodes : Nodes
  scalars : List (NodeId × Scalar)
  met : List NodeId

/-- Making nodes. -/
abbrev Make := StateT Making (Except Fault)

/-- Meets a node: a scalar must have a value, a collection is left for later. -/
def meet (id : NodeId) : Make Unit := do
  let m ← get
  match collection? (m.nodes.node id).tag with
  | some _ => if !m.met.contains id then set { m with met := m.met ++ [id] }
  | none =>
    if (m.scalars.lookup id).isNone then
      set { m with scalars := (id, ← scalarOf m.nodes id) :: m.scalars }

/-- Meets a key of a mapping, which must be a scalar. -/
def meetKey (id : NodeId) : Make Unit := do
  meet id
  if (collection? ((← get).nodes.node id).tag).isSome then throw .malformed

/-- The items of a sequence. -/
def sequenceItems (id : NodeId) : Make (List NodeId) := do
  match (← get).nodes.node id with
  | .sequence _ items => return items
  | _ => throw .malformed

/-- The only pair of a mapping. -/
def singlePair (id : NodeId) : Make (NodeId × NodeId) := do
  match (← get).nodes.node id with
  | .mapping _ [p] => return p
  | _ => throw .malformed

/-- The pairs of a mapping after those that are merged into it. -/
def mappingPairs (id : NodeId) : Make (List (NodeId × NodeId)) := do
  let m ← get
  let ((), nodes) ← (flatten (pairCount m.nodes + 1) id []).run m.nodes
  set { m with nodes }
  match nodes.node id with
  | .mapping _ pairs =>
    pairs.forM fun (k, v) => do
      meetKey k
      meet v
    return pairs
  | _ => throw .malformed

/-- Fills a collection. -/
def fill (id : NodeId) : Make Content := do
  match collection? ((← get).nodes.node id).tag with
  | some .map => .map <$> mappingPairs id
  | some .set => return .set ((← mappingPairs id).map (·.1))
  | some .pairs =>
    let items ← (← sequenceItems id).mapM fun item => do
      let (k, v) ← singlePair item
      meet k
      meet v
      return (k, v)
    return .pairs items
  | _ =>
    let items ← sequenceItems id
    items.forM meet
    return .list items

/-- Fills the collections that have been met, from one of them on, and those that are met on the way. -/
def fillAll : Nat → Nat → Make (List (NodeId × Content))
  | 0, _ => return []
  | fuel + 1, i => do
    match (← get).met[i]? with
    | none => return []
    | some id =>
      let content ← fill id
      return (id, content) :: (← fillAll fuel (i + 1))

/-! ## Values -/

section

variable (scalars : List (NodeId × Scalar)) (filled : List (NodeId × Content))

/-- The scalar that has been made of a node. -/
def madeScalar (id : NodeId) : Scalar :=
  (scalars.lookup id).getD .none

/-- The lists and maps in their order. -/
def numbered : List (NodeId × Content) :=
  filled.filter fun (_, content) => !(content matches .set _)

/-- A node as a part of the graph. -/
def part (id : NodeId) : Graph.Part :=
  match filled.lookup id with
  | none => .scalar (madeScalar scalars id)
  | some (.set keys) => .set ((Entries.ofPairs (keys.map fun k => (madeScalar scalars k, ()))).map (·.1))
  | some _ => .vertex (((numbered filled).map (·.1)).idxOf id)

/-- A collection of the graph. -/
def collection : Content → Graph.Collection
  | .list items | .set items => .list (items.map (part scalars filled))
  | .map pairs =>
    .map (Entries.ofPairs (pairs.map fun (k, v) => (madeScalar scalars k, part scalars filled v)))
  | .pairs items =>
    .list (items.map fun (k, v) => .tuple [part scalars filled k, part scalars filled v])

/-- The graph of the lists and maps. -/
def graph : Graph :=
  (numbered filled).map fun (_, content) => collection scalars filled content

end

/-- The value of a text; an empty text has none. Of a map that is the root only the entries count. -/
def read {ν : Type} [Vertices ν] (text : String) : Except Fault (Tree ν) := do
  match ← Nodes.ofText? text.toList with
  | none => return .scalar .none
  | some (nodes, root) =>
    let make : Make (List (NodeId × Content)) := do
      meet root
      fillAll (nodes.size + 1) 0
    let (filled, m) ← make.run ⟨nodes, [], []⟩
    let g := graph m.scalars filled
    let named := fun i => Vertices.tree ⟨g, i⟩
    match part m.scalars filled root with
    | .vertex i =>
      match g[i]? with
      | some (.map entries) => return .map (Graph.branches named entries)
      | _ => return named i
    | p => return p.tree named

end TemplateTree.Yaml
