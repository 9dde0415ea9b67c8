import TemplateTree.Template.Syntax

/-!
# Resolved templates

What a template is after its names have been resolved. Variables live in scopes, one for every part of
a template that is evaluated on its own: the whole template, a block, a macro, a recursive loop. Inside
a scope, a variable is known by its name and the nesting level of the construct it belongs to.

Every step that can fail has the line that a fault in it is reported with. Steps that print write into
the innermost open buffer.
-/

namespace TemplateTree.Template

/-- A variable of a scope: the nesting level of its construct, and its name. -/
structure Ref where
  level : Nat
  name : String
  deriving DecidableEq, Repr, Inhabited

/-- What a variable holds when its construct is entered: what the caller passes, the value that the
    context has under a name, the value of an outer variable, or nothing. -/
inductive Load
  | parameter
  | resolve (name : String)
  | outer (source : Ref)
  | missing
  deriving DecidableEq, Repr, Inhabited

/-- Whether printed values are escaped: never, always, or as the context says when they are printed. -/
inductive Escaping
  | off
  | on
  | dynamic
  deriving DecidableEq, Repr, Inhabited

/-- What is known about a macro besides its body. `defaults` are those of the last parameters. Arguments
    without a parameter go to `kwargs` and `varargs`, and the block of a call to `caller`, if the body
    uses them. -/
structure Signature where
  line : Nat
  name : Option String
  params : List Ref
  defaults : List (Expr Ref)
  loads : List (Ref × Load)
  usesCaller : Bool
  caller : Option Ref
  kwargs : Option Ref
  varargs : Option Ref
  deriving Inhabited

/-- What is known about a loop besides its body. A loop variable is kept if the body asks for it. What a
    recursive loop prints is escaped as said by `escaping`. -/
structure LoopHead where
  line : Nat
  target : Target Ref
  iter : Expr Ref
  loopVariable : Option Ref
  test : Option (Nat × List (Ref × Load) × Expr Ref)
  loads : List (Ref × Load)
  leaves : List Ref
  recursive : Bool
  escaping : Escaping
  deriving Inhabited

/-- The variables that an included or imported template sees besides the context, or nothing if it sees
    no context. -/
abbrev Shared := Option (List (String × Ref))

/-- The steps of a resolved template. -/
inductive Code
  | enter (loads : List (Ref × Load))
  | leave (refs : List Ref)
  | emit (text : String)
  | print (line : Nat) (escaping : Escaping) (e : Expr Ref)
  | unlessExtended (body : List Code)
  | failIfExtended
  | extend (line : Nat) (template : Expr Ref)
  | block (line : Nat) (name : String) (locals : Shared) (isRequired : Bool)
  | ifElse (line : Nat) (test : Expr Ref) (yes no : List Code)
  | forLoop (head : LoopHead) (body : List Code) (hasOtherwise : Bool) (otherwise : List Code)
  | bind (line : Nat) (target : Target Ref) (value : Expr Ref)
  | requireNamespaces (refs : List Ref)
  | publish (vars : List (String × Ref))
  | conceal (vars : List (String × Ref))
  | capture (line : Nat) (target : Target Ref) (filter : Option (Expr Ref)) (escaping : Escaping)
      (body : List Code)
  | filtered (line : Nat) (filter : Expr Ref) (escaping : Escaping) (body : List Code)
  | defineMacro (target : Ref) (signature : Signature) (body : List Code)
  | callMacro (line : Nat) (call : Expr Ref) (signature : Signature) (body : List Code)
  | inclusion (line : Nat) (template : Expr Ref) (ignoreMissing : Bool) (locals : Shared)
      (depth : Nat)
  | importAs (line : Nat) (template : Expr Ref) (target : Ref) (locals : Shared)
  | importNames (line : Nat) (template : Expr Ref) (names : List (String × Ref)) (locals : Shared)
  | escapeIf (line : Nat) (option : Expr Ref) (body : List Code)
  deriving Inhabited

/-- A block of a template: what it loads, and whether it refers to the block it replaces and to the
    blocks of the template. -/
structure Section where
  line : Nat
  loads : List (Ref × Load)
  superRef : Option Ref
  selfRef : Option Ref
  body : List Code

/-- A section without steps. -/
instance : Inhabited Section := ⟨⟨1, [], none, none, []⟩⟩

/-- How a template goes on after its own steps if it extends another: not at all, if it has been extended, or
    always. -/
inductive Ending
  | plain
  | whenExtended
  | extended
  deriving DecidableEq, Repr, Inhabited

/-- A resolved template. -/
structure Program where
  root : Section
  ending : Ending
  endLine : Nat
  blocks : List (String × Section)

/-- The program of an empty text. -/
instance : Inhabited Program := ⟨⟨default, .plain, 1, []⟩⟩

end TemplateTree.Template
