import TemplateTree.Template.Syntax

/-!
# Names in templates

Which names a piece of a template uses and binds, in the order in which they stand. Blocks are pieces of
their own, and are left out unless said otherwise.

* `Expr.names`: the names in an expression.
* `Stmt.mentions`: the names in a statement, and how they occur.
* `unbound`: which of some names are used before anything binds them.
* `Stmt.blocks`, `Stmt.extends`: the blocks in a statement, and whether it extends a template.
-/

namespace TemplateTree.Template

/-! ## Expressions -/

mutual

/-- The names in an expression. -/
def Expr.names : Expr String → List String
  | .literal .. | .data .. => []
  | .name _ s => [s]
  | .tuple _ es | .list _ es | .concat _ _ es => namesOfAll es
  | .dict _ ps => namesOfPairs ps
  | .cond _ test yes no => test.names ++ yes.names ++ namesOfOption no
  | .both _ a b | .either _ a b | .binary _ _ a b | .item _ a b => a.names ++ b.names
  | .not _ e | .negate _ e | .plus _ e | .attribute _ e _ => e.names
  | .compare _ e rest => e.names ++ namesOfRest rest
  | .slice _ a b c => namesOfOption a ++ namesOfOption b ++ namesOfOption c
  | .call _ f args named star starStar =>
    f.names ++ namesOfAll args ++ namesOfNamed named ++ namesOfOption star
      ++ namesOfOption starStar
  | .filter _ e _ args named star starStar =>
    namesOfOption e ++ namesOfAll args ++ namesOfNamed named ++ namesOfOption star
      ++ namesOfOption starStar
  | .test _ e _ args named star starStar =>
    e.names ++ namesOfAll args ++ namesOfNamed named ++ namesOfOption star
      ++ namesOfOption starStar

/-- The names in several expressions. -/
def namesOfAll : List (Expr String) → List String
  | [] => []
  | e :: es => e.names ++ namesOfAll es

/-- The names in pairs of expressions. -/
def namesOfPairs : List (Expr String × Expr String) → List String
  | [] => []
  | (k, v) :: ps => k.names ++ v.names ++ namesOfPairs ps

/-- The names in named arguments. -/
def namesOfNamed : List (String × Expr String) → List String
  | [] => []
  | (_, e) :: es => e.names ++ namesOfNamed es

/-- The names in the rest of a comparison. -/
def namesOfRest : List (CompareOp × Expr String) → List String
  | [] => []
  | (_, e) :: es => e.names ++ namesOfRest es

/-- The names in an expression that may be left out. -/
def namesOfOption : Option (Expr String) → List String
  | none => []
  | some e => e.names

end

/-! ## Statements -/

/-- How a name occurs: used, assigned to on a line, or as a parameter. -/
inductive Mention
  | use (name : String)
  | assign (line : Nat) (name : String)
  | parameter (name : String)
  deriving Repr

/-- The names in expressions, as uses. -/
def usesIn (names : List String) : List Mention :=
  names.map .use

mutual

/-- The names that a target assigns to, with their lines. -/
def Target.assigned : Target String → List (Nat × String)
  | .name l s => [(l, s)]
  | .field .. => []
  | .tuple _ ts => assignedByAll ts

/-- The names that several targets assign to. -/
def assignedByAll : List (Target String) → List (Nat × String)
  | [] => []
  | t :: ts => t.assigned ++ assignedByAll ts

end

/-- The assignments of a target. -/
def Target.mentions (t : Target String) : List Mention :=
  t.assigned.map fun (l, s) => .assign l s

/-- The parameters of a target. -/
def Target.parameters (t : Target String) : List Mention :=
  t.assigned.map fun (_, s) => .parameter s

/-- The parameters of a macro. -/
def parameterMentions (params : List (Nat × String)) : List Mention :=
  params.map fun (_, s) => .parameter s

mutual

/-- The names in a statement; with `inside` also those in blocks. -/
def Stmt.mentions (inside : Bool) : Stmt → List Mention
  | .output _ items => usesIn (namesOfAll items)
  | .forLoop _ target iter body otherwise test _ =>
    target.mentions ++ usesIn iter.names ++ mentionsOfAll inside body
      ++ mentionsOfAll inside otherwise ++ usesIn (namesOfOption test)
  | .ifElse _ test body elifs otherwise =>
    usesIn test.names ++ mentionsOfAll inside body ++ mentionsOfBranches inside elifs
      ++ mentionsOfAll inside otherwise
  | .withScope _ bindings body =>
    bindings.flatMap (·.1.parameters) ++ usesIn (bindings.flatMap (·.2.names))
      ++ mentionsOfAll inside body
  | .autoescape _ option body => usesIn option.names ++ mentionsOfAll inside body
  | .block _ _ _ _ body => if inside then mentionsOfAll inside body else []
  | .extends _ e | .inclusion _ e _ _ | .importAs _ e _ _ | .importNames _ e _ _ => usesIn e.names
  | .macroDef _ _ params defaults body =>
    parameterMentions params ++ usesIn (namesOfAll defaults) ++ mentionsOfAll inside body
  | .callBlock _ params defaults call body =>
    usesIn call.names ++ parameterMentions params ++ usesIn (namesOfAll defaults)
      ++ mentionsOfAll inside body
  | .filterBlock _ filter body => mentionsOfAll inside body ++ usesIn filter.names
  | .set _ target value => target.mentions ++ usesIn value.names
  | .setBlock _ target filter body =>
    target.mentions ++ usesIn (namesOfOption filter) ++ mentionsOfAll inside body

/-- The names in several statements. -/
def mentionsOfAll (inside : Bool) : List Stmt → List Mention
  | [] => []
  | s :: rest => s.mentions inside ++ mentionsOfAll inside rest

/-- The names in branches. -/
def mentionsOfBranches (inside : Bool) : List (Nat × Expr String × List Stmt) → List Mention
  | [] => []
  | (_, test, body) :: rest =>
    usesIn test.names ++ mentionsOfAll inside body ++ mentionsOfBranches inside rest

end

/-- Which of some names are used before anything binds them. -/
def unboundIn (names found : List String) : List Mention → List String
  | [] => found
  | .use s :: rest =>
    let isNew := names.contains s && !found.contains s
    let found := if isNew then s :: found else found
    if isNew && names.all found.contains then found else unboundIn names found rest
  | .assign _ s :: rest | .parameter s :: rest => unboundIn (names.filter (· != s)) found rest

/-- Which of some names a piece of a template uses before it binds them. -/
def unbound (names : List String) (body : List Stmt) : List String :=
  unboundIn names [] (mentionsOfAll false body)

/-! ## Blocks -/

/-- A block as it is written. -/
structure BlockStmt where
  line : Nat
  name : String
  isScoped : Bool
  isRequired : Bool
  body : List Stmt

mutual

/-- The blocks in a statement, outer ones first. -/
def Stmt.blocks : Stmt → List BlockStmt
  | .block l name isScoped isRequired body => ⟨l, name, isScoped, isRequired, body⟩ :: blocksIn body
  | .forLoop _ _ _ body otherwise _ _ => blocksIn body ++ blocksIn otherwise
  | .ifElse _ _ body elifs otherwise => blocksIn body ++ blocksInBranches elifs ++ blocksIn otherwise
  | .withScope _ _ body | .autoescape _ _ body | .macroDef _ _ _ _ body | .callBlock _ _ _ _ body
  | .filterBlock _ _ body | .setBlock _ _ _ body => blocksIn body
  | .output .. | .extends .. | .inclusion .. | .importAs .. | .importNames .. | .set .. => []

/-- The blocks in several statements. -/
def blocksIn : List Stmt → List BlockStmt
  | [] => []
  | s :: rest => s.blocks ++ blocksIn rest

/-- The blocks in branches. -/
def blocksInBranches : List (Nat × Expr String × List Stmt) → List BlockStmt
  | [] => []
  | (_, _, body) :: rest => blocksIn body ++ blocksInBranches rest

end

mutual

/-- Whether a statement extends a template. -/
def Stmt.extendsAny : Stmt → Bool
  | .extends .. => true
  | .block _ _ _ _ body => extendsIn body
  | .forLoop _ _ _ body otherwise _ _ => extendsIn body || extendsIn otherwise
  | .ifElse _ _ body elifs otherwise =>
    extendsIn body || extendsInBranches elifs || extendsIn otherwise
  | .withScope _ _ body | .autoescape _ _ body | .macroDef _ _ _ _ body | .callBlock _ _ _ _ body
  | .filterBlock _ _ body | .setBlock _ _ _ body => extendsIn body
  | .output .. | .inclusion .. | .importAs .. | .importNames .. | .set .. => false

/-- Whether one of several statements extends a template. -/
def extendsIn : List Stmt → Bool
  | [] => false
  | s :: rest => s.extendsAny || extendsIn rest

/-- Whether a branch extends a template. -/
def extendsInBranches : List (Nat × Expr String × List Stmt) → Bool
  | [] => false
  | (_, _, body) :: rest => extendsIn body || extendsInBranches rest

end

end TemplateTree.Template
