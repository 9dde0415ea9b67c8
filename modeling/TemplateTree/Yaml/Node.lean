import TemplateTree.Yaml.Lexer
import TemplateTree.Yaml.Form

/-!
# Nodes of YAML texts

The nodes that the tokens of a text describe: scalars, sequences and mappings, each with a tag. Nodes have
numbers, and sequences and mappings hold the numbers of their parts. A node may have an anchor, and a
reference to an anchor stands for its node, also inside of the node.

* `Nodes`: the nodes of a text.
* `Nodes.ofText?`: the nodes of a text and the number of its root, if there is one.
-/

namespace TemplateTree.Yaml

/-- The number of a node. -/
abbrev NodeId := Nat

/-- A node. -/
inductive Node
  | scalar (tag : List Char) (text : List Char)
  | sequence (tag : List Char) (items : List NodeId)
  | mapping (tag : List Char) (pairs : List (NodeId × NodeId))
  deriving Inhabited

/-- The tag of a node. -/
def Node.tag : Node → List Char
  | .scalar t _ | .sequence t _ | .mapping t _ => t

/-- The node that stands where nothing is written. -/
def Node.empty : Node := .scalar (coreTag "null") []

/-- Nodes by their numbers. -/
abbrev Nodes := Array Node

namespace Nodes

/-- The node with a number. -/
def node (nodes : Nodes) (id : NodeId) : Node :=
  nodes[id]?.getD .empty

/-! ## Reading tokens -/

/-- The tokens to come, what handles of tags stand for, the nodes that have been begun, and the anchors
    among them. -/
structure Reading where
  tokens : List Token
  handles : List (List Char × List Char)
  nodes : Nodes
  anchors : List (List Char × NodeId)

/-- Reading nodes. -/
abbrev Read := StateT Reading (Except Fault)

/-- The next token. -/
def peek : Read Token := do
  return (← get).tokens.head?.getD .streamEnd

/-- Goes on to the next token. -/
def advance : Read Unit :=
  modify fun r => { r with tokens := r.tokens.drop 1 }

/-- Fails because the next token cannot come here. -/
def refuse {α : Type} : Read α := do
  match ← peek with
  | .broken f => throw f
  | _ => throw .malformed

/-- Whether the next token is one of some. -/
def comes (tokens : List Token) : Read Bool := do
  return tokens.contains (← peek)

/-- Goes on over a token that has to come. -/
def expect (t : Token) : Read Unit := do
  if (← peek) == t then advance else refuse

/-- A new node. A name can be an anchor only once. -/
def begun (anchor : Option (List Char)) (n : Node) : Read NodeId := do
  let r ← get
  let id := r.nodes.size
  match anchor with
  | none => set { r with nodes := r.nodes.push n }
  | some name =>
    if (r.anchors.lookup name).isSome then throw .malformed
    set { r with nodes := r.nodes.push n, anchors := (name, id) :: r.anchors }
  return id

/-- Says what a node holds whose parts have been read. -/
def finished (id : NodeId) (n : Node) : Read NodeId := do
  modify fun r => { r with nodes := r.nodes.setIfInBounds id n }
  return id

/-- A new node where nothing is written. -/
def empty : Read NodeId := begun none .empty

/-- The anchor and tag in front of a node. -/
def properties : Nat → Option (List Char) → Option (Option (List Char) × List Char) →
    Read (Option (List Char) × Option (Option (List Char) × List Char))
  | 0, a, t => return (a, t)
  | fuel + 1, a, t => do
    match ← peek, a, t with
    | .anchor name, none, t =>
      advance
      properties fuel (some name) t
    | .tag handle suffix, a, none =>
      advance
      properties fuel a (some (handle, suffix))
    | _, a, t => return (a, t)

/-- The tag that a handle and a suffix make. -/
def fullTag (handle : Option (List Char)) (suffix : List Char) : Read (List Char) := do
  match handle with
  | none => return suffix
  | some h =>
    match (← get).handles.lookup h with
    | some start => return start ++ suffix
    | none => throw .malformed

/-- The tag of a collection. -/
def collectionTag (given : Option (List Char)) (default : String) : List Char :=
  match given with
  | none | some ['!'] => coreTag default
  | some t => t

/-- The tag of a scalar. -/
def scalarTag (given : Option (List Char)) (isPlain : Bool) (text : List Char) : List Char :=
  match given with
  | none => if isPlain then implicitTag text else coreTag "str"
  | some ['!'] => implicitTag text
  | some t => t

/-- The node of an anchor. -/
def referenced (name : List Char) : Read NodeId := do
  match (← get).anchors.lookup name with
  | some id => return id
  | none => throw .malformed

/-! ## Nodes -/

mutual

/-- A node. `inBlock` says whether blocks may come; `bare` whether entries of a sequence may come
    without a block of their own. A sequence or mapping has its number before its parts are read. -/
def next (inBlock bare : Bool) : Nat → Read NodeId
  | 0 => throw .malformed
  | fuel + 1 => do
    match ← peek with
    | .reference name =>
      advance
      referenced name
    | _ =>
      let (anchor, written) ← properties 2 none none
      let given ← match written with
        | some (handle, suffix) => some <$> fullTag handle suffix
        | none => pure none
      let sequenceTag := collectionTag given "seq"
      let mappingTag := collectionTag given "map"
      match ← peek with
      | .blockEntry =>
        if !bare then
          if anchor.isSome || given.isSome then return ← begun anchor (.scalar (scalarTag given true []) [])
          refuse
        let id ← begun anchor (.sequence sequenceTag [])
        finished id (.sequence sequenceTag (← bareEntries fuel))
      | .scalar text isPlain =>
        advance
        begun anchor (.scalar (scalarTag given isPlain text) text)
      | .flowSequenceStart =>
        advance
        let id ← begun anchor (.sequence sequenceTag [])
        finished id (.sequence sequenceTag (← flowItems true fuel))
      | .flowMappingStart =>
        advance
        let id ← begun anchor (.mapping mappingTag [])
        finished id (.mapping mappingTag (← flowPairs true fuel))
      | t =>
        if inBlock && t == .blockSequenceStart then
          advance
          let id ← begun anchor (.sequence sequenceTag [])
          finished id (.sequence sequenceTag (← blockEntries fuel))
        else if inBlock && t == .blockMappingStart then
          advance
          let id ← begun anchor (.mapping mappingTag [])
          finished id (.mapping mappingTag (← blockPairs fuel))
        else if anchor.isSome || given.isSome then begun anchor (.scalar (scalarTag given true []) [])
        else refuse

/-- The entries of a block sequence, to its end. -/
def blockEntries : Nat → Read (List NodeId)
  | 0 => throw .malformed
  | fuel + 1 => do
    match ← peek with
    | .blockEntry =>
      advance
      let item ← if ← comes [.blockEntry, .blockEnd] then empty else next true false fuel
      return item :: (← blockEntries fuel)
    | _ =>
      expect .blockEnd
      return []

/-- The entries of a sequence that has no block of its own. -/
def bareEntries : Nat → Read (List NodeId)
  | 0 => throw .malformed
  | fuel + 1 => do
    match ← peek with
    | .blockEntry =>
      advance
      let item ← if ← comes [.blockEntry, .key, .value, .blockEnd] then empty
        else next true false fuel
      return item :: (← bareEntries fuel)
    | _ => return []

/-- The pairs of a block mapping, to its end. -/
def blockPairs : Nat → Read (List (NodeId × NodeId))
  | 0 => throw .malformed
  | fuel + 1 => do
    match ← peek with
    | .key =>
      advance
      let k ← if ← comes [.key, .value, .blockEnd] then empty else next true true fuel
      let v ← blockValue fuel
      return (k, v) :: (← blockPairs fuel)
    | _ =>
      expect .blockEnd
      return []

/-- The value of a pair in a block mapping. -/
def blockValue : Nat → Read NodeId
  | 0 => throw .malformed
  | fuel + 1 => do
    if (← peek) != .value then return ← empty
    advance
    if ← comes [.key, .value, .blockEnd] then return ← empty
    next true true fuel

/-- The items between square brackets, to the closing one. -/
def flowItems (isFirst : Bool) : Nat → Read (List NodeId)
  | 0 => throw .malformed
  | fuel + 1 => do
    if (← peek) == .flowSequenceEnd then
      advance
      return []
    if !isFirst then expect .flowEntry
    match ← peek with
    | .key =>
      advance
      let k ← if ← comes [.value, .flowEntry, .flowSequenceEnd] then empty
        else next false false fuel
      let v ← flowValue .flowSequenceEnd fuel
      let pair ← begun none (.mapping (coreTag "map") [(k, v)])
      return pair :: (← flowItems false fuel)
    | .flowSequenceEnd =>
      advance
      return []
    | _ =>
      let item ← next false false fuel
      return item :: (← flowItems false fuel)

/-- The value of a pair between brackets. -/
def flowValue (closing : Token) : Nat → Read NodeId
  | 0 => throw .malformed
  | fuel + 1 => do
    if (← peek) != .value then return ← empty
    advance
    if ← comes [.flowEntry, closing] then return ← empty
    next false false fuel

/-- The pairs between curly brackets, to the closing one. -/
def flowPairs (isFirst : Bool) : Nat → Read (List (NodeId × NodeId))
  | 0 => throw .malformed
  | fuel + 1 => do
    if (← peek) == .flowMappingEnd then
      advance
      return []
    if !isFirst then expect .flowEntry
    match ← peek with
    | .key =>
      advance
      let k ← if ← comes [.value, .flowEntry, .flowMappingEnd] then empty
        else next false false fuel
      let v ← flowValue .flowMappingEnd fuel
      return (k, v) :: (← flowPairs false fuel)
    | .flowMappingEnd =>
      advance
      return []
    | _ =>
      let k ← next false false fuel
      let v ← empty
      return (k, v) :: (← flowPairs false fuel)

end

/-! ## Documents -/

/-- What handles of tags stand for if nothing is said. -/
def defaultHandles : List (List Char × List Char) :=
  [(['!'], ['!']), (['!', '!'], coreTag "")]

/-- The directives in front of a document: whether the version has been given, and the handles. -/
def directives : Nat → Bool → List (List Char × List Char) → Read (List (List Char × List Char))
  | 0, _, handles => return handles
  | fuel + 1, hasVersion, handles => do
    match ← peek with
    | .directive (.version major) =>
      if hasVersion || major != 1 then throw .malformed
      advance
      directives fuel true handles
    | .directive (.handle name start) =>
      if (handles.lookup name).isSome then throw .malformed
      advance
      directives fuel hasVersion (handles ++ [(name, start)])
    | .directive .other =>
      advance
      directives fuel hasVersion handles
    | _ => return handles

/-- Goes on over marks that end documents. -/
def skipEnds : Nat → Read Unit
  | 0 => return ()
  | fuel + 1 => do
    if (← peek) == .documentEnd then
      advance
      skipEnds fuel

/-- The content of a document that begins with a mark. -/
def content (fuel : Nat) : Read NodeId := do
  match ← peek with
  | .directive _ | .documentStart | .documentEnd | .streamEnd => empty
  | _ => next true false fuel

/-- The only document of a text. -/
def document (fuel : Nat) : Read (Option NodeId) := do
  match ← peek with
  | .streamEnd => return none
  | .directive _ | .documentStart =>
    let handles ← directives fuel false []
    modify fun r => { r with handles := handles ++ defaultHandles }
    expect .documentStart
    let n ← content fuel
    skipEnds fuel
    expect .streamEnd
    return some n
  | _ =>
    let n ← next true false fuel
    skipEnds fuel
    expect .streamEnd
    return some n

/-- The nodes of a text and the number of its root, if it holds a document. -/
def ofText? (text : List Char) : Except Fault (Option (Nodes × NodeId)) := do
  let ts := tokens text
  let (root, r) ← (document (4 * ts.length + 8)).run ⟨ts, defaultHandles, #[], []⟩
  return root.map fun id => (r.nodes, id)

end Nodes

end TemplateTree.Yaml
