/-!
# The syntax of templates

Expressions, assignment targets and statements. Expressions and targets are written over a type of
variables: names, as the parser reads them, and places in frames, once names have been resolved. Every
node has the line that a fault in it is reported with.
-/

namespace TemplateTree.Template

/-- A literal value. The parser makes simple ones; the others come from expressions whose value is
    known before evaluation. -/
inductive Literal
  | none
  | bool (b : Bool)
  | int (n : Int)
  | float (x : Float)
  | text (s : String)
  | markup (s : String)
  | range (start stop step : Int)
  | tuple (items : List Literal)
  | list (items : List Literal)
  | dict (pairs : List (Literal × Literal))
  deriving Repr, Inhabited

/-- The operators between two numbers or texts. -/
inductive BinaryOp
  | add
  | sub
  | mul
  | div
  | floordiv
  | mod
  | pow
  deriving DecidableEq, Repr, Inhabited

/-- The operators that compare. -/
inductive CompareOp
  | eq
  | ne
  | lt
  | lteq
  | gt
  | gteq
  | isIn
  | notIn
  deriving DecidableEq, Repr, Inhabited

/-- Expressions. The arguments of calls, filters and tests are positional ones, named ones, a sequence
    of further positional ones, and a map of further named ones. A text put together of several values
    is marked as escaped or not. -/
inductive Expr (ν : Type)
  | literal (line : Nat) (value : Literal)
  | data (line : Nat) (text : String)
  | name (line : Nat) (place : ν)
  | tuple (line : Nat) (items : List (Expr ν))
  | list (line : Nat) (items : List (Expr ν))
  | dict (line : Nat) (pairs : List (Expr ν × Expr ν))
  | cond (line : Nat) (test yes : Expr ν) (no : Option (Expr ν))
  | both (line : Nat) (left right : Expr ν)
  | either (line : Nat) (left right : Expr ν)
  | not (line : Nat) (e : Expr ν)
  | binary (line : Nat) (op : BinaryOp) (left right : Expr ν)
  | negate (line : Nat) (e : Expr ν)
  | plus (line : Nat) (e : Expr ν)
  | concat (line : Nat) (escapes : Bool) (items : List (Expr ν))
  | compare (line : Nat) (first : Expr ν) (rest : List (CompareOp × Expr ν))
  | attribute (line : Nat) (e : Expr ν) (field : String)
  | item (line : Nat) (e index : Expr ν)
  | slice (line : Nat) (start stop step : Option (Expr ν))
  | call (line : Nat) (f : Expr ν) (args : List (Expr ν)) (named : List (String × Expr ν))
      (star starStar : Option (Expr ν))
  | filter (line : Nat) (e : Option (Expr ν)) (filter : String) (args : List (Expr ν))
      (named : List (String × Expr ν)) (star starStar : Option (Expr ν))
  | test (line : Nat) (e : Expr ν) (test : String) (args : List (Expr ν))
      (named : List (String × Expr ν)) (star starStar : Option (Expr ν))
  deriving Repr, Inhabited

/-- What an assignment assigns to: a variable, a field of a namespace, or several targets. -/
inductive Target (ν : Type)
  | name (line : Nat) (place : ν)
  | field (line : Nat) (place : ν) (field : String)
  | tuple (line : Nat) (items : List (Target ν))
  deriving Repr, Inhabited

/-- Statements, as the parser reads them. -/
inductive Stmt
  | output (line : Nat) (items : List (Expr String))
  | forLoop (line : Nat) (target : Target String) (iter : Expr String) (body : List Stmt)
      (otherwise : List Stmt) (test : Option (Expr String)) (recursive : Bool)
  | ifElse (line : Nat) (test : Expr String) (body : List Stmt)
      (elifs : List (Nat × Expr String × List Stmt)) (otherwise : List Stmt)
  | withScope (line : Nat) (bindings : List (Target String × Expr String)) (body : List Stmt)
  | autoescape (line : Nat) (option : Expr String) (body : List Stmt)
  | block (line : Nat) (name : String) (isScoped isRequired : Bool) (body : List Stmt)
  | extends (line : Nat) (template : Expr String)
  | inclusion (line : Nat) (template : Expr String) (ignoreMissing withContext : Bool)
  | importAs (line : Nat) (template : Expr String) (target : String) (withContext : Bool)
  | importNames (line : Nat) (template : Expr String) (names : List (String × String))
      (withContext : Bool)
  | macroDef (line : Nat) (name : String) (params : List (Nat × String))
      (defaults : List (Expr String)) (body : List Stmt)
  | callBlock (line : Nat) (params : List (Nat × String)) (defaults : List (Expr String))
      (call : Expr String) (body : List Stmt)
  | filterBlock (line : Nat) (filter : Expr String) (body : List Stmt)
  | set (line : Nat) (target : Target String) (value : Expr String)
  | setBlock (line : Nat) (target : Target String) (filter : Option (Expr String))
      (body : List Stmt)
  deriving Repr, Inhabited

namespace Expr

variable {ν : Type}

/-- The line of an expression. -/
def line : Expr ν → Nat
  | .literal l _ | .data l _ | .name l _ | .tuple l _ | .list l _ | .dict l _ | .cond l .. => l
  | .both l .. | .either l .. | .not l _ | .binary l .. | .negate l _ | .plus l _ => l
  | .concat l .. | .compare l .. | .attribute l .. | .item l .. | .slice l .. => l
  | .call l .. | .filter l .. | .test l .. => l

/-- The word for an operator when an operation is what cannot be assigned to. -/
def operatorWord : BinaryOp → String
  | .add => "add"
  | .sub => "sub"
  | .mul => "mul"
  | .div => "div"
  | .floordiv => "floordiv"
  | .mod => "mod"
  | .pow => "pow"

/-- The word for an expression that cannot be assigned to. -/
def word : Expr ν → String
  | .literal .. => "const"
  | .data .. => "templatedata"
  | .name .. => "name"
  | .tuple .. => "tuple"
  | .list .. => "list"
  | .dict .. => "dict"
  | .cond .. => "condexpr"
  | .both .. => "and"
  | .either .. => "or"
  | .not .. => "not"
  | .binary _ op _ _ => operatorWord op
  | .negate .. => "neg"
  | .plus .. => "pos"
  | .concat .. => "concat"
  | .compare .. => "compare"
  | .attribute .. => "getattr"
  | .item .. => "getitem"
  | .slice .. => "slice"
  | .call .. => "call"
  | .filter .. => "filter"
  | .test .. => "test"

end Expr

end TemplateTree.Template
