import TemplateTree.Template.Code
import TemplateTree.Template.Mention

/-!
# Variables of constructs

Which variable a name means at a place of a template. Every construct that has variables of its own is a
layer above the one around it. A layer knows the names that it has a variable for, what these variables
hold when the construct is entered, and which of them are assigned to inside.

* `Symbols.find?`: the variable that a name means.
* `Symbols.visit`: takes a statement into account; nested constructs count only as far as their surroundings
  see them.
-/

namespace TemplateTree.Template

/-- The names of one construct. -/
structure Layer where
  level : Nat
  names : List String
  loads : List (Ref × Load)
  stores : List String
  deriving Inhabited

/-- The layer of a construct and those around it, the nearest first. -/
structure Symbols where
  layer : Layer
  outer : List Layer
  deriving Inhabited

namespace Symbols

/-- Outside of all constructs. -/
def empty : Symbols := ⟨⟨0, [], [], []⟩, []⟩

/-- A construct inside another. -/
def inner (s : Symbols) : Symbols :=
  ⟨⟨s.layer.level + 1, [], [], []⟩, s.layer :: s.outer⟩

/-- The variable that a name has in some layers. -/
def findIn (name : String) : List Layer → Option Ref
  | [] => none
  | l :: rest => if l.names.contains name then some ⟨l.level, name⟩ else findIn name rest

/-- The variable that a name means. -/
def find? (s : Symbols) (name : String) : Option Ref :=
  findIn name (s.layer :: s.outer)

/-- What a variable holds at the start is set. -/
def setLoad (r : Ref) (load : Load) : List (Ref × Load) → List (Ref × Load)
  | [] => [(r, load)]
  | e :: rest => if e.1 == r then (r, load) :: rest else e :: setLoad r load rest

/-- A name has a variable in this layer. -/
def define (s : Symbols) (name : String) (load : Load) : Symbols :=
  let l := s.layer
  let names := if l.names.contains name then l.names else l.names ++ [name]
  { s with layer := { l with names, loads := setLoad ⟨l.level, name⟩ load l.loads } }

/-- A name is assigned to in this layer. -/
def noteStore (s : Symbols) (name : String) : Symbols :=
  let l := s.layer
  if l.stores.contains name then s
  else { s with layer := { l with stores := l.stores ++ [name] } }

/-- A name is assigned to. -/
def store (s : Symbols) (name : String) : Symbols :=
  let s := s.noteStore name
  if s.layer.names.contains name then s
  else
    match findIn name s.outer with
    | some r => s.define name (.outer r)
    | none => s.define name .missing

/-- A name is a parameter. -/
def parameter (s : Symbols) (name : String) : Symbols :=
  (s.noteStore name).define name .parameter

/-- A name is used. -/
def load (s : Symbols) (name : String) : Symbols :=
  if (s.find? name).isSome then s else s.define name (.resolve name)

/-- Names are used. -/
def loadAll (s : Symbols) (names : List String) : Symbols :=
  names.foldl load s

/-- Takes over what a branch knows. -/
def takeOver (s branch : Symbols) : Symbols :=
  let names := branch.layer.names.filter (!s.layer.names.contains ·)
  let stores := branch.layer.stores.filter (!s.layer.stores.contains ·)
  let l := s.layer
  { s with layer := { l with
      names := l.names ++ names
      loads := branch.layer.loads.foldl (fun acc (r, x) => setLoad r x acc) l.loads
      stores := l.stores ++ stores } }

/-- Joins branches of which at most one is taken. A name that is only assigned to in branches holds at
    the start what it means outside. -/
def join (s : Symbols) (branches : List Symbols) : Symbols :=
  let fresh := (branches.flatMap (·.layer.stores)).filter (!s.layer.stores.contains ·)
  let s := branches.foldl takeOver s
  fresh.eraseDups.foldl (fun s name =>
    match findIn name s.outer with
    | some r => s.define name (.outer r)
    | none => s.define name (.resolve name)) s

/-- Takes the names that a target assigns to into account. -/
def assign (s : Symbols) (t : Target String) : Symbols :=
  t.assigned.foldl (fun s (_, name) => s.store name) s

end Symbols

mutual

/-- The names whose fields a target assigns to. -/
def Target.namespaces : Target String → List String
  | .name .. => []
  | .field _ s _ => [s]
  | .tuple _ ts => namespacesOfAll ts

/-- The names whose fields several targets assign to. -/
def namespacesOfAll : List (Target String) → List String
  | [] => []
  | t :: ts => t.namespaces ++ namespacesOfAll ts

end

namespace Symbols

/-- Takes the names of a target into account. -/
def target (s : Symbols) (t : Target String) : Symbols :=
  (s.assign t).loadAll t.namespaces

/-- The names of a target are parameters. -/
def targetParameters (s : Symbols) (t : Target String) : Symbols :=
  t.assigned.foldl (fun s (_, name) => s.parameter name) s

mutual

/-- Takes a statement into account. -/
def visit (s : Symbols) : Stmt → Symbols
  | .output _ items => s.loadAll (namesOfAll items)
  | .forLoop _ _ iter _ _ _ _ => s.loadAll iter.names
  | .ifElse _ test body elifs otherwise =>
    let s := s.loadAll test.names
    s.join [visitAll s body, visitBranches s elifs, visitAll s otherwise]
  | .withScope _ bindings _ => s.loadAll (bindings.flatMap (·.2.names))
  | .autoescape .. | .block .. => s
  | .extends _ e | .inclusion _ e _ _ => s.loadAll e.names
  | .importAs _ e name _ => (s.loadAll e.names).store name
  | .importNames _ e names _ => (names.map (·.2)).foldl store (s.loadAll e.names)
  | .macroDef _ name _ _ _ => s.store name
  | .callBlock _ _ _ call _ => s.loadAll call.names
  | .filterBlock _ filter _ => s.loadAll filter.names
  | .set _ t value => (s.loadAll value.names).target t
  | .setBlock _ t _ _ => s.target t

/-- Takes statements into account. -/
def visitAll (s : Symbols) : List Stmt → Symbols
  | [] => s
  | x :: rest => visitAll (visit s x) rest

/-- Takes the branches behind the first into account, each as a choice of its own. -/
def visitBranches (s : Symbols) : List (Nat × Expr String × List Stmt) → Symbols
  | [] => s
  | (_, test, body) :: rest =>
    let s := s.loadAll test.names
    visitBranches (s.join [visitAll s body, s, s]) rest

end

/-- The variables that are assigned to here and around, by name; inner ones hide outer ones. -/
def stored (s : Symbols) : List (String × Ref) :=
  (s.layer :: s.outer).foldl (fun acc l =>
    acc ++ ((l.stores.mergeSort fun a b => a ≤ b).filter fun name =>
      !acc.any fun e => e.1 == name).filterMap fun name => (s.find? name).map fun r => (name, r)) []

/-- The variables of a construct. -/
def refs (s : Symbols) : List Ref :=
  s.layer.loads.map (·.1)

end Symbols

end TemplateTree.Template
