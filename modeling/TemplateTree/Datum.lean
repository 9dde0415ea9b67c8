import TemplateTree.Calendar
import TemplateTree.Decimal.Shortest
import TemplateTree.Path

/-!
# Data

The values that a user gives to templates: scalars, lists, maps and the project. A map holds its
entries in the order in which their keys first came, and its keys are scalars. Two keys are the same if
they are equal as values; numbers and truth values compare by their number, so that `1`, `1.0` and
`true` are one key.

A list or map is one object. When it stands in several places, or in itself, it is a vertex of a graph,
and these places name the vertex.

* `Graph`: lists and maps that refer to each other.
* `Tree`: values, in which something may stand for the lists and maps of graphs: nothing in a `Datum`,
  where they are spelled out, and their vertices in an `Object`.
* `Entries`: entries in order of first appearance.
-/

namespace TemplateTree

/-- The project that a run belongs to. -/
structure Project where
  name : String
  rootDir : Path
  version : String
  deriving DecidableEq, Repr, Inhabited

/-- The version of a project that names none. -/
def Project.unspecified : String := "unspecified"

/-- A value without parts. -/
inductive Scalar
  | none
  | bool (b : Bool)
  | int (n : Int)
  | float (x : Float)
  | text (s : String)
  | bytes (b : List UInt8)
  | date (d : Date)
  | dateTime (t : DateTime)
  deriving DecidableEq, Repr, Inhabited

/-! ## Graphs -/

namespace Graph

/-- What a list or map of a graph holds: a value without lists and maps, or one of them by its number. -/
inductive Part
  | scalar (s : Scalar)
  | tuple (items : List Part)
  | set (members : List Scalar)
  | vertex (number : Nat)
  deriving Repr, Inhabited

mutual

/-- Whether two parts are the same. -/
def Part.decEq (a b : Part) : Decidable (a = b) :=
  match a, b with
  | .scalar s, .scalar t => decidable_of_iff (s = t) ⟨congrArg _, Part.scalar.inj⟩
  | .tuple s, .tuple t =>
    match partsDecEq s t with
    | isTrue h => isTrue (congrArg _ h)
    | isFalse h => isFalse fun e => h (Part.tuple.inj e)
  | .set s, .set t => decidable_of_iff (s = t) ⟨congrArg _, Part.set.inj⟩
  | .vertex i, .vertex j => decidable_of_iff (i = j) ⟨congrArg _, Part.vertex.inj⟩
  | .scalar _, .tuple _ | .scalar _, .set _ | .scalar _, .vertex _
  | .tuple _, .scalar _ | .tuple _, .set _ | .tuple _, .vertex _
  | .set _, .scalar _ | .set _, .tuple _ | .set _, .vertex _
  | .vertex _, .scalar _ | .vertex _, .tuple _ | .vertex _, .set _ => isFalse nofun

/-- Whether two lists of parts are the same. -/
def partsDecEq (a b : List Part) : Decidable (a = b) :=
  match a, b with
  | [], [] => isTrue rfl
  | [], _ :: _ | _ :: _, [] => isFalse nofun
  | p :: ps, q :: qs =>
    match p.decEq q, partsDecEq ps qs with
    | isTrue h, isTrue h' => isTrue (h ▸ h' ▸ rfl)
    | isFalse h, _ => isFalse fun e => h (List.cons.inj e).1
    | _, isFalse h => isFalse fun e => h (List.cons.inj e).2

end

instance : DecidableEq Part := Part.decEq

/-- A list or map of a graph. -/
inductive Collection
  | list (items : List Part)
  | map (entries : List (Scalar × Part))
  deriving DecidableEq, Repr, Inhabited

end Graph

/-- Lists and maps by their numbers. A number that none of them has stands for the absent value. -/
abbrev Graph := List Graph.Collection

/-- A list or map of a graph. -/
structure Graph.Vertex where
  graph : Graph
  number : Nat
  deriving DecidableEq, Repr, Inhabited

/-! ## Values -/

/-- A value given to templates. The lists and maps that belong to graphs are written as `ν`. -/
inductive Tree (ν : Type)
  | scalar (s : Scalar)
  | list (items : List (Tree ν))
  | tuple (items : List (Tree ν))
  | map (entries : List (Scalar × Tree ν))
  | set (members : List Scalar)
  | project (p : Project)
  | vertex (v : ν)
  deriving Repr, Inhabited

/-- A value in which each list and map is spelled out. -/
abbrev Datum := Tree Empty

/-- A value some of whose lists and maps are vertices. Two that are the same vertex are one object. -/
abbrev Object := Tree Graph.Vertex

namespace Scalar

/-- A number or truth value as an integer or a float. -/
def number? : Scalar → Option (Int ⊕ Float)
  | .bool b => some (.inl (if b then 1 else 0))
  | .int n => some (.inl n)
  | .float x => some (.inr x)
  | _ => Option.none

/-- Whether an integer and a float are equal, exactly. -/
def intEqFloat (n : Int) (x : Float) : Bool :=
  Decimal.isFinite x && Decimal.compareIntFloat n x == .eq

/-- Equality of numbers. -/
def sameNumber : Int ⊕ Float → Int ⊕ Float → Bool
  | .inl a, .inl b => a == b
  | .inl a, .inr y => intEqFloat a y
  | .inr x, .inl b => intEqFloat b x
  | .inr x, .inr y => x == y

/-- Whether two scalars are one key. -/
def same : Scalar → Scalar → Bool
  | .none, .none => true
  | .text s, .text t => s == t
  | .bytes a, .bytes b => a == b
  | .date a, .date b => a == b
  | .dateTime a, .dateTime b =>
    a.offset.isSome == b.offset.isSome && Calendar.instant a == Calendar.instant b
  | a, b =>
    match a.number?, b.number? with
    | some m, some n => sameNumber m n
    | _, _ => false

end Scalar

namespace Datum

/-- The absent value. -/
abbrev none : Datum := .scalar .none

/-- A truth value. -/
abbrev bool (b : Bool) : Datum := .scalar (.bool b)

/-- An integer. -/
abbrev int (n : Int) : Datum := .scalar (.int n)

/-- A float. -/
abbrev float (x : Float) : Datum := .scalar (.float x)

/-- A text. -/
abbrev text (s : String) : Datum := .scalar (.text s)

/-- Whether a value is the absent value. -/
def isNone : Datum → Bool
  | .scalar .none => true
  | _ => false

end Datum

/-! ## Vertices in values -/

section

variable {ν : Type}

mutual

/-- A part of a graph as a value, when it is known what its lists and maps are. -/
def Graph.Part.tree (collection : Nat → Tree ν) : Graph.Part → Tree ν
  | .scalar s => .scalar s
  | .tuple items => .tuple (Graph.trees collection items)
  | .set members => .set members
  | .vertex i => collection i

/-- Parts of a graph as values. -/
def Graph.trees (collection : Nat → Tree ν) : List Graph.Part → List (Tree ν)
  | [] => []
  | p :: rest => p.tree collection :: Graph.trees collection rest

end

/-- The entries of a map of a graph as those of a value. -/
def Graph.branches (collection : Nat → Tree ν) (entries : List (Scalar × Graph.Part)) :
    List (Scalar × Tree ν) :=
  entries.map fun (k, p) => (k, p.tree collection)

mutual

/-- A value that is spelled out, where lists and maps might be vertices. -/
def Tree.ofDatum : Datum → Tree ν
  | .scalar s => .scalar s
  | .list items => .list (Tree.ofData items)
  | .tuple items => .tuple (Tree.ofData items)
  | .map entries => .map (Tree.ofBranches entries)
  | .set members => .set members
  | .project p => .project p

/-- Values that are spelled out, where lists and maps might be vertices. -/
def Tree.ofData : List Datum → List (Tree ν)
  | [] => []
  | d :: rest => Tree.ofDatum d :: Tree.ofData rest

/-- Entries that are spelled out, where lists and maps might be vertices. -/
def Tree.ofBranches : List (Scalar × Datum) → List (Scalar × Tree ν)
  | [] => []
  | (k, d) :: rest => (k, Tree.ofDatum d) :: Tree.ofBranches rest

end

end

/-- A vertex spelled out to some depth. Below that, lists and maps are cut. -/
def Graph.spelledOut (g : Graph) : Nat → Nat → Datum
  | 0, i =>
    match g[i]? with
    | some (.list _) => .list []
    | some (.map _) => .map []
    | none => .none
  | depth + 1, i =>
    match g[i]? with
    | some (.list items) => .list (Graph.trees (g.spelledOut depth) items)
    | some (.map entries) => .map (Graph.branches (g.spelledOut depth) entries)
    | none => .none

/-- What is written for the lists and maps of graphs: how a value names a vertex, and which vertex is
    meant. -/
class Vertices (ν : Type) where
  tree : Graph.Vertex → Tree ν
  vertex : ν → Graph.Vertex

/-- A vertex that leads back to itself is cut where it could not be spelled out to the end. -/
instance : Vertices Empty where
  tree v := v.graph.spelledOut v.graph.length v.number
  vertex := nofun

instance : Vertices Graph.Vertex where
  tree := .vertex
  vertex := id

/-! ## Entries in order of first appearance -/

/-- Entries with distinct keys, in the order in which the keys first came. -/
abbrev Entries (α : Type) := List (Scalar × α)

namespace Entries

variable {α : Type}

/-- The value under a key. -/
def get? (entries : Entries α) (key : Scalar) : Option α :=
  (entries.find? fun e => e.1.same key).map (·.2)

/-- Binds a key: in place if it is there, at the end otherwise. -/
def insert (key : Scalar) (value : α) : Entries α → Entries α
  | [] => [(key, value)]
  | e :: rest => if e.1.same key then (e.1, value) :: rest else e :: insert key value rest

/-- Removes a key. -/
def erase (key : Scalar) (entries : Entries α) : Entries α :=
  entries.filter fun e => !e.1.same key

/-- Binds keys one after the other. -/
def insertAll (entries new : Entries α) : Entries α :=
  new.foldl (fun acc e => acc.insert e.1 e.2) entries

/-- The entries that a list of pairs describes: a later pair with the same key wins. -/
def ofPairs (pairs : List (Scalar × α)) : Entries α :=
  insertAll [] pairs

end Entries

end TemplateTree
