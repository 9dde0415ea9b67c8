import TemplateTree.Template.Lexer
import TemplateTree.Template.Syntax

/-!
# Parsing templates

From tokens to statements. Operators bind, from weak to strong: inline `if`, `or`, `and`, `not`,
comparisons, sums, `~`, products, powers, signs, then filters and tests, then calls, items and
attributes. Grammar rules refer to each other through `Rules`, which bounds how deep they nest; every
nesting uses at least one token, so that the number of tokens is a bound.

* `parse`: the statements of a template, or its first mistake.
-/

namespace TemplateTree.Template.Parser

/-- Where the parser stands: the current token and those to come, the names of the open tags and the
    end tags that are looked for, innermost first. -/
structure State where
  current : Token
  rest : List Token
  fault : Option Fault
  tags : List String
  ends : List (List String)

/-- A parsing step. -/
abbrev Parse (α : Type) := StateT State (Except Fault) α

/-! ## Tokens -/

/-- The current token. -/
def current : Parse Token := do
  return (← get).current

/-- What the current token is. -/
def kind : Parse TokenKind := do
  return (← get).current.kind

/-- The line of the current token. -/
def line : Parse Nat := do
  return (← get).current.line

/-- Moves to the next token and returns the one left behind. A fault in the text counts from here. -/
def advance : Parse Token := do
  let s ← get
  match s.rest, s.fault with
  | t :: rest, _ => set { s with current := t, rest }
  | [], some f => throw f
  | [], none => set { s with current := ⟨s.current.line, .eof⟩ }
  return s.current

/-- What the token after the current one is. -/
def ahead : Parse TokenKind := do
  let s ← get
  match s.rest, s.fault with
  | t :: _, _ => return t.kind
  | [], some f => throw f
  | [], none => return .eof

/-- Fails at a line. -/
def failAt {α : Type} (line : Nat) (message : String) : Parse α :=
  throw (.syntaxAt line message)

/-- Fails at the current token. -/
def failHere {α : Type} (message : String) : Parse α := do
  failAt (← line) message

/-- Fails because another token was expected. -/
def unexpected {α : Type} (expected : String) : Parse α := do
  let t ← current
  if t.kind.isEof then
    failAt t.line ("unexpected end of template, expected " ++ Text.quoted expected ++ ".")
  else
    failAt t.line ("expected token " ++ Text.quoted expected ++ ", got "
      ++ Text.quoted t.kind.describe)

/-- Takes an operator. -/
def expectOp (o : Operator) : Parse Token := do
  if (← kind).isOp o then advance else unexpected o.text

/-- Takes a given name. -/
def expectWord (word : String) : Parse Token := do
  if (← kind).isName word then advance else unexpected word

/-- Takes any name: the name and its line. -/
def expectName : Parse (String × Nat) := do
  let t ← current
  match t.kind with
  | .name s =>
    let _ ← advance
    return (s, t.line)
  | _ => unexpected "name"

/-- Takes the end of a statement tag. -/
def expectBlockEnd : Parse Unit := do
  if (← kind).isBlockEnd then
    let _ ← advance
  else unexpected TokenKind.blockEnd.describeKind

/-- Takes the end of a print tag. -/
def expectVariableEnd : Parse Unit := do
  if (← kind).isVariableEnd then
    let _ ← advance
  else unexpected TokenKind.variableEnd.describeKind

/-- Takes an operator if it is there. -/
def skipOp (o : Operator) : Parse Bool := do
  if (← kind).isOp o then
    let _ ← advance
    return true
  else return false

/-- Takes a name if it is there. -/
def skipWord (word : String) : Parse Bool := do
  if (← kind).isName word then
    let _ ← advance
    return true
  else return false

/-- Repeats a step until it has a result. -/
def loopWithin {α β : Type} (step : α → Parse (α ⊕ β)) : Nat → α → Parse β
  | 0, _ => failHere "template too long"
  | fuel + 1, a => do
    match ← step a with
    | .inl a => loopWithin step fuel a
    | .inr b => return b

/-- Repeats a step that takes tokens until it has a result. -/
def loop {α β : Type} (step : α → Parse (α ⊕ β)) (a : α) : Parse β := do
  loopWithin step ((← get).rest.length + 3) a

/-- The rules that other rules refer to. -/
structure Rules where
  expression : Parse (Expr String)
  disjunction : Parse (Expr String)
  negation : Parse (Expr String)
  signed : Parse (Expr String)
  statements : Option (List String) → Parse (List Stmt)

/-! ## Expressions -/

section

variable (r : Rules)

/-- The arguments of a call, filter or test. -/
structure Arguments where
  args : List (Expr String)
  named : List (String × Expr String)
  star : Option (Expr String)
  starStar : Option (Expr String)

/-- No arguments. -/
def Arguments.none : Arguments := ⟨[], [], .none, .none⟩

/-- Refuses arguments in an order that no call has. -/
def ensure (ok : Bool) (line : Nat) : Parse Unit :=
  if ok then pure () else failAt line "invalid syntax for function call expression"

/-- One argument, added to those before it. -/
def argument (line : Nat) (a : Arguments) : Parse Arguments := do
  let k ← kind
  if k.isOp .mul then
    ensure (a.star.isNone && a.starStar.isNone) line
    let _ ← advance
    return { a with star := some (← r.expression) }
  else if k.isOp .pow then
    ensure a.starStar.isNone line
    let _ ← advance
    return { a with starStar := some (← r.expression) }
  else
    let isNamed ← if k.isAnyName then do pure ((← ahead).isOp .assign) else pure false
    if isNamed then
      ensure a.starStar.isNone line
      let (key, _) ← expectName
      let _ ← advance
      return { a with named := a.named ++ [(key, ← r.expression)] }
    else
      ensure (a.star.isNone && a.starStar.isNone && a.named.isEmpty) line
      return { a with args := a.args ++ [← r.expression] }

/-- Arguments in parentheses. -/
def arguments : Parse Arguments := do
  let t ← expectOp .lparen
  let a ← loop (fun (first, a) => do
    if (← kind).isOp .rparen then return .inr a
    if !first then
      let _ ← expectOp .comma
      if (← kind).isOp .rparen then return .inr a
    return .inl (false, ← argument r t.line a)) (true, Arguments.none)
  let _ ← expectOp .rparen
  return a

/-- What a tuple may end with. -/
def atTupleEnd (ends : List String) : Parse Bool := do
  let k ← kind
  return k.isVariableEnd || k.isBlockEnd || k.isOp .rparen || ends.any fun w => k.isName w

/-- Items separated by commas. A single item without a comma stands for itself; no item at all is an
    empty tuple, which needs parentheses. -/
def tupleOf {α : Type} (item : Parse α) (make : Nat → List α → α) (ends : List String)
    (parenthesised : Bool) : Parse α := do
  let start ← line
  let (items, isTuple, last) ← loop (fun (items, isTuple, last) => do
    if !items.isEmpty then
      let _ ← expectOp .comma
    if ← atTupleEnd ends then return .inr (items, isTuple, last)
    let items := items ++ [← item]
    if (← kind).isOp .comma then return .inl (items, true, ← line)
    return .inr (items, isTuple, last)) (([] : List α), false, start)
  match items, isTuple with
  | [e], false => return e
  | _, _ =>
    if !isTuple && !parenthesised then
      failHere ("Expected an expression, got " ++ Text.quoted (← kind).describe)
    else return make last items

/-- A tuple of expressions, or one expression. -/
def tuple (item : Parse (Expr String)) (ends : List String) (parenthesised : Bool) :
    Parse (Expr String) :=
  tupleOf item .tuple ends parenthesised

/-- A list in brackets. -/
def listLiteral : Parse (Expr String) := do
  let t ← expectOp .lbracket
  let items ← loop (fun items => do
    if (← kind).isOp .rbracket then return .inr items
    if !items.isEmpty then
      let _ ← expectOp .comma
    if (← kind).isOp .rbracket then return .inr items
    return .inl (items ++ [← r.expression])) ([] : List (Expr String))
  let _ ← expectOp .rbracket
  return .list t.line items

/-- A map in braces. -/
def dictLiteral : Parse (Expr String) := do
  let t ← expectOp .lbrace
  let pairs ← loop (fun pairs => do
    if (← kind).isOp .rbrace then return .inr pairs
    if !pairs.isEmpty then
      let _ ← expectOp .comma
    if (← kind).isOp .rbrace then return .inr pairs
    let key ← r.expression
    let _ ← expectOp .colon
    return .inl (pairs ++ [(key, ← r.expression)])) ([] : List (Expr String × Expr String))
  let _ ← expectOp .rbrace
  return .dict t.line pairs

/-- Adjacent string literals are one. -/
def stringLiteral : Parse String := do
  loop (fun acc => do
    match ← kind with
    | .string s =>
      let _ ← advance
      return .inl (acc ++ s)
    | _ => return .inr acc) ""

/-- A word that stands for a value. -/
def wordLiteral? (s : String) : Option Literal :=
  if s == "true" || s == "True" then some (.bool true)
  else if s == "false" || s == "False" then some (.bool false)
  else if s == "none" || s == "None" then some .none
  else none

/-- A name, a literal, or an expression in brackets. -/
def primary : Parse (Expr String) := do
  let t ← current
  match t.kind with
  | .name s =>
    let _ ← advance
    match wordLiteral? s with
    | some l => return .literal t.line l
    | none => return .name t.line s
  | .string _ => return .literal t.line (.text (← stringLiteral))
  | .integer n =>
    let _ ← advance
    return .literal t.line (.int n)
  | .float x =>
    let _ ← advance
    return .literal t.line (.float x)
  | .op .lparen =>
    let _ ← advance
    let e ← tuple r.expression [] true
    let _ ← expectOp .rparen
    return e
  | .op .lbracket => listLiteral r
  | .op .lbrace => dictLiteral r
  | k => failAt t.line ("unexpected " ++ Text.quoted k.describe)

/-- Whether a part of a slice is left out here. -/
def atSliceGap : Parse Bool := do
  let k ← kind
  return k.isOp .rbracket || k.isOp .comma

/-- The rest of a slice whose start is known, behind its first colon. -/
def sliceRest (line : Nat) (start : Option (Expr String)) : Parse (Expr String) := do
  let stop ←
    if (← kind).isOp .colon then pure none
    else if ← atSliceGap then pure none
    else some <$> r.expression
  let step ←
    if ← skipOp .colon then
      if ← atSliceGap then pure none else some <$> r.expression
    else pure none
  return .slice line start stop step

/-- An index or a slice. -/
def subscript : Parse (Expr String) := do
  let l ← line
  if ← skipOp .colon then sliceRest r l none
  else
    let e ← r.expression
    if ← skipOp .colon then sliceRest r l (some e) else return e

/-- An attribute or item of what came before. -/
def access (e : Expr String) : Parse (Expr String) := do
  let t ← advance
  if t.kind.isOp .dot then
    let a ← advance
    match a.kind with
    | .name s => return .attribute t.line e s
    | .integer n => return .item t.line e (.literal a.line (.int n))
    | _ => failAt a.line "expected name or number"
  else
    let items ← loop (fun items => do
      if (← kind).isOp .rbracket then return .inr items
      if !items.isEmpty then
        let _ ← expectOp .comma
      return .inl (items ++ [← subscript r])) ([] : List (Expr String))
    let _ ← expectOp .rbracket
    match items with
    | [i] => return .item t.line e i
    | _ => return .item t.line e (.tuple t.line items)

/-- A call of what came before. -/
def callOf (e : Expr String) : Parse (Expr String) := do
  let l ← line
  let a ← arguments r
  return .call l e a.args a.named a.star a.starStar

/-- Attributes, items and calls. -/
def postfixes (e : Expr String) : Parse (Expr String) :=
  loop (fun e => do
    let k ← kind
    if k.isOp .dot || k.isOp .lbracket then return .inl (← access r e)
    else if k.isOp .lparen then return .inl (← callOf r e)
    else return .inr e) e

/-- A name with points in it. -/
def dottedName : Parse (String × Nat) := do
  let (first, l) ← expectName
  let name ← loop (fun name => do
    if ← skipOp .dot then
      let (part, _) ← expectName
      return .inl (name ++ "." ++ part)
    else return .inr name) first
  return (name, l)

/-- One filter, behind its bar. -/
def filterOf (e : Option (Expr String)) : Parse (Expr String) := do
  let (name, l) ← dottedName
  let a ← if (← kind).isOp .lparen then arguments r else pure Arguments.none
  return .filter l e name a.args a.named a.star a.starStar

/-- Filters, one behind the other, from the first bar on. -/
def filters (e : Option (Expr String)) : Parse (Option (Expr String)) :=
  loop (fun e => do
    if ← skipOp .pipe then return .inl (some (← filterOf r e)) else return .inr e) e

/-- Whether a test takes the next token as its argument. -/
def startsArgument (k : TokenKind) : Bool :=
  match k with
  | .name s => s != "else" && s != "or" && s != "and"
  | .string _ | .integer _ | .float _ => true
  | .op .lbracket | .op .lbrace => true
  | _ => false

/-- A test of what came before, behind `is`. -/
def testOf (e : Expr String) : Parse (Expr String) := do
  let t ← advance
  let negated ← skipWord "not"
  let (name, _) ← dottedName
  let k ← kind
  let a ←
    if k.isOp .lparen then arguments r
    else if startsArgument k then
      if k.isName "is" then failHere "You cannot chain multiple tests with is"
      else do
        let arg ← postfixes r (← primary r)
        pure { Arguments.none with args := [arg] }
    else pure Arguments.none
  let test := Expr.test t.line e name a.args a.named a.star a.starStar
  return if negated then .not t.line test else test

/-- Filters, tests and calls. -/
def suffixes (e : Expr String) : Parse (Expr String) :=
  loop (fun e => do
    let k ← kind
    if k.isOp .pipe then
      match ← filters r (some e) with
      | some e => return .inl e
      | none => return .inr e
    else if k.isName "is" then return .inl (← testOf r e)
    else if k.isOp .lparen then return .inl (← callOf r e)
    else return .inr e) e

/-- A value with its sign and what follows it, but no filters. -/
def signed : Parse (Expr String) := do
  let l ← line
  let e ←
    if ← skipOp .sub then do pure (.negate l (← r.signed))
    else if ← skipOp .add then do pure (.plus l (← r.signed))
    else primary r
  postfixes r e

/-- A value with filters and tests. -/
def unary : Parse (Expr String) := do
  suffixes r (← signed r)

/-- Operands of one strength with the operators between them, grouped to the left. -/
def leftGrouped (op? : TokenKind → Option BinaryOp) (operand : Parse (Expr String)) :
    Parse (Expr String) := do
  let start ← line
  let first ← operand
  loop (fun (left, l) => do
    match op? (← kind) with
    | some op =>
      let _ ← advance
      let right ← operand
      return .inl (.binary l op left right, ← line)
    | none => return .inr left) (first, start)

/-- Powers. -/
def power : Parse (Expr String) :=
  leftGrouped (fun | .op .pow => some .pow | _ => none) (unary r)

/-- Products. -/
def product : Parse (Expr String) :=
  leftGrouped (fun
    | .op .mul => some .mul
    | .op .div => some .div
    | .op .floordiv => some .floordiv
    | .op .mod => some .mod
    | _ => none) (power r)

/-- Concatenations. -/
def concatenation : Parse (Expr String) := do
  let start ← line
  let first ← product r
  let items ← loop (fun items => do
    if ← skipOp .tilde then return .inl (items ++ [← product r]) else return .inr items) [first]
  match items with
  | [e] => return e
  | _ => return .concat start false items

/-- Sums. -/
def sum : Parse (Expr String) :=
  leftGrouped (fun
    | .op .add => some .add
    | .op .sub => some .sub
    | _ => none) (concatenation r)

/-- The comparison that a token stands for. -/
def compareOp? : TokenKind → Option CompareOp
  | .op .eq => some .eq
  | .op .ne => some .ne
  | .op .lt => some .lt
  | .op .lteq => some .lteq
  | .op .gt => some .gt
  | .op .gteq => some .gteq
  | _ => none

/-- A comparison with its right side, if one stands here. -/
def comparison? : Parse (Option (CompareOp × Expr String)) := do
  let k ← kind
  match compareOp? k with
  | some op =>
    let _ ← advance
    return some (op, ← sum r)
  | none =>
    if ← skipWord "in" then return some (.isIn, ← sum r)
    let isNotIn ← if k.isName "not" then do pure ((← ahead).isName "in") else pure false
    if isNotIn then
      let _ ← advance
      let _ ← advance
      return some (.notIn, ← sum r)
    return none

/-- A chain of comparisons. -/
def comparisons : Parse (Expr String) := do
  let start ← line
  let first ← sum r
  let (ops, last) ← loop (fun (ops, l) => do
    match ← comparison? r with
    | some op => return .inl (ops ++ [op], ← line)
    | none => return .inr (ops, l)) (([] : List (CompareOp × Expr String)), start)
  if ops.isEmpty then return first else return .compare last first ops

/-- Negations. -/
def negation : Parse (Expr String) := do
  let l ← line
  if ← skipWord "not" then return .not l (← r.negation) else comparisons r

/-- Operands with one word between them, grouped to the left. -/
def wordGrouped (word : String) (make : Nat → Expr String → Expr String → Expr String)
    (operand : Parse (Expr String)) : Parse (Expr String) := do
  let start ← line
  let first ← operand
  loop (fun (left, l) => do
    if ← skipWord word then
      let right ← operand
      return .inl (make l left right, ← line)
    else return .inr left) (first, start)

/-- Disjunctions of conjunctions. -/
def disjunction : Parse (Expr String) :=
  wordGrouped "or" .either (wordGrouped "and" .both (negation r))

/-- Expressions with an inline `if`. -/
def expression : Parse (Expr String) := do
  let start ← line
  let first ← disjunction r
  loop (fun (e, l) => do
    if ← skipWord "if" then
      let test ← r.disjunction
      let no ← if ← skipWord "else" then some <$> r.expression else pure none
      return .inl (.cond l test e no, ← line)
    else return .inr e) (first, start)

/-! ## Targets -/

/-- Whether a name stands for a value and so cannot be assigned to. -/
def isReserved (s : String) : Bool :=
  (wordLiteral? s).isSome

mutual

/-- The target that an expression can be read as. -/
def asTarget? : Expr String → Option (Target String)
  | .name l s => if isReserved s then none else some (.name l s)
  | .tuple l items => (asTargets? items).map (.tuple l)
  | _ => none

/-- The targets that expressions can be read as. -/
def asTargets? : List (Expr String) → Option (List (Target String))
  | [] => some []
  | e :: rest =>
    match asTarget? e, asTargets? rest with
    | some t, some ts => some (t :: ts)
    | _, _ => none

end

/-- An expression that is to be assigned to, or a field. -/
abbrev Assignable := Expr String ⊕ Target String

/-- The target that something assignable is. -/
def Assignable.target? : Assignable → Option (Target String)
  | .inl e => asTarget? e
  | .inr t => some t

/-- Several assignable things as one; if one is no target, the whole stands for a tuple that cannot be
    assigned to. -/
def Assignable.tuple (l : Nat) (items : List Assignable) : Assignable :=
  match items.mapM Assignable.target? with
  | some ts => .inr (.tuple l ts)
  | none => .inl (.tuple l [.literal l .none])

/-- One part of a target. With `fields` a name may be followed by a field. -/
def assignable (fields : Bool) : Parse Assignable := do
  let t ← current
  let isField ←
    match t.kind with
    | .name s =>
      if fields && !isReserved s then do pure ((← ahead).isOp .dot) else pure false
    | _ => pure false
  if isField then
    let (s, l) ← expectName
    let _ ← advance
    let (field, _) ← expectName
    return .inr (.field l s field)
  else return .inl (← primary r)

/-- What is assigned to: one target or several. -/
def assignTarget (fields : Bool) (ends : List String) : Parse (Target String) := do
  let a ← tupleOf (assignable r fields) Assignable.tuple ends false
  match a.target?, a with
  | some t, _ => return t
  | none, .inl e => failAt e.line ("can't assign to " ++ Text.quoted e.word)
  | none, .inr _ => failHere "can't assign"

/-- A single name that is assigned to. -/
def nameTarget : Parse (String × Nat) := do
  let (s, l) ← expectName
  if isReserved s then failAt l "can't assign to 'name'" else return (s, l)

/-! ## Statements -/

/-- The names of the end tags in words, as one of them is expected. -/
def endsInWords (names : List String) : String :=
  " or ".intercalate (names.map Text.quoted)

/-- Fails because a tag is unknown, or because the template ends too early. -/
def failTags {α : Type} (name : Option String) (ends : List (List String)) (l : Nat) :
    Parse α := do
  let s ← get
  let first :=
    match name with
    | none => "Unexpected end of template."
    | some n => "Encountered unknown tag " ++ Text.quoted n ++ "."
  let second :=
    match ends with
    | [] => []
    | wanted :: _ =>
      let words := endsInWords wanted
      match name with
      | some n =>
        if ends.any (·.contains n) then
          ["You probably made a nesting mistake. Jinja is expecting this tag, "
            ++ "but currently looking for " ++ words ++ "."]
        else ["Jinja was looking for the following tags: " ++ words ++ "."]
      | none => ["Jinja was looking for the following tags: " ++ words ++ "."]
  let third :=
    match s.tags with
    | [] => []
    | tag :: _ => ["The innermost block that needs to be closed is " ++ Text.quoted tag ++ "."]
  failAt l (" ".intercalate (first :: second ++ third))

/-- The statements up to one of the end tags, which stays the current token. -/
def bodyUntil (ends : List String) : Parse (List Stmt) := do
  let _ ← skipOp .colon
  expectBlockEnd
  let body ← r.statements (some ends)
  let t ← current
  if t.kind.isEof then failTags none (ends :: (← get).ends) t.line
  return body

/-- The statements up to an end tag, which is taken. -/
def bodyTo (ending : String) : Parse (List Stmt) := do
  let body ← bodyUntil r [ending]
  let _ ← advance
  return body

/-- The line of the current token, which is taken. -/
def tagLine : Parse Nat := do
  return (← advance).line

/-- An assignment of a value or of a block. -/
def setStmt : Parse Stmt := do
  let l ← tagLine
  let target ← assignTarget r true []
  if ← skipOp .assign then return .set l target (← tuple r.expression [] false)
  let filter ← filters r none
  return .setBlock l target filter (← bodyTo r "endset")

/-- A loop. -/
def forStmt : Parse Stmt := do
  let l ← tagLine
  let target ← assignTarget r false ["in"]
  let _ ← expectWord "in"
  let iter ← tuple r.disjunction ["recursive"] false
  let test ← if ← skipWord "if" then some <$> r.expression else pure none
  let recursive ← skipWord "recursive"
  let body ← bodyUntil r ["endfor", "else"]
  let ending ← advance
  if ending.kind.isName "endfor" then return .forLoop l target iter body [] test recursive
  return .forLoop l target iter body (← bodyTo r "endfor") test recursive

/-- A choice. -/
def ifStmt : Parse Stmt := do
  let l ← tagLine
  let branch : Parse (Expr String × List Stmt) := do
    let test ← tuple r.disjunction [] false
    let body ← bodyUntil r ["elif", "else", "endif"]
    return (test, body)
  let (test, body) ← branch
  loop (fun elifs => do
    let t ← advance
    if t.kind.isName "elif" then
      let l ← line
      let (test, body) ← branch
      return .inl (elifs ++ [(l, test, body)])
    else if t.kind.isName "else" then
      return .inr (Stmt.ifElse l test body elifs (← bodyTo r "endif"))
    else return .inr (.ifElse l test body elifs [])) ([] : List (Nat × Expr String × List Stmt))

/-- A scope with variables of its own. -/
def withStmt : Parse Stmt := do
  let l ← tagLine
  let bindings ← loop (fun bindings => do
    if (← kind).isBlockEnd then return .inr bindings
    if !bindings.isEmpty then
      let _ ← expectOp .comma
    let target ← assignTarget r false []
    let _ ← expectOp .assign
    return .inl (bindings ++ [(target, ← r.expression)]))
    ([] : List (Target String × Expr String))
  return .withScope l bindings (← bodyTo r "endwith")

/-- A part with escaping switched on or off. -/
def autoescapeStmt : Parse Stmt := do
  let l ← tagLine
  let option ← r.expression
  return .autoescape l option (← bodyTo r "endautoescape")

/-- Whether an expression is data of white space only. -/
def isBlankData : Expr String → Bool
  | .data _ s => s != "" && s.toList.all Text.isBlank
  | _ => false

/-- Whether a statement prints white space only. -/
def isBlankOutput : Stmt → Bool
  | .output _ items => items.all isBlankData
  | _ => false

/-- A block that other templates may replace. -/
def blockStmt : Parse Stmt := do
  let l ← tagLine
  let (name, _) ← expectName
  let isScoped ← skipWord "scoped"
  let isRequired ← skipWord "required"
  if (← kind).isOp .sub then
    failHere ("Block names in Jinja have to be valid Python identifiers and may not contain "
      ++ "hyphens, use an underscore instead.")
  let body ← bodyTo r "endblock"
  if isRequired && !body.all isBlankOutput then
    failHere "Required blocks can only contain comments or whitespace"
  let _ ← skipWord name
  return .block l name isScoped isRequired body

/-- Whether a template sees the context of the one that includes or imports it. -/
def contextChoice (default : Bool) : Parse Bool := do
  let k ← kind
  let chosen ←
    if k.isName "with" || k.isName "without" then do pure ((← ahead).isName "context")
    else pure false
  if chosen then
    let _ ← advance
    let _ ← advance
    return k.isName "with"
  return default

/-- An inclusion. -/
def includeStmt : Parse Stmt := do
  let l ← tagLine
  let template ← r.expression
  let ignore ←
    if (← kind).isName "ignore" then do pure ((← ahead).isName "missing") else pure false
  if ignore then
    let _ ← advance
    let _ ← advance
  return .inclusion l template ignore (← contextChoice true)

/-- An import under one name. -/
def importStmt : Parse Stmt := do
  let l ← tagLine
  let template ← r.expression
  let _ ← expectWord "as"
  let (target, _) ← nameTarget
  return .importAs l template target (← contextChoice false)

/-- The choice of a context at the end of an import of names, if one stands here. -/
def importContext? : Parse (Option Bool) := do
  let k ← kind
  let chosen ←
    match k with
    | .name s | .string s =>
      if s == "with" || s == "without" then do pure ((← ahead).isName "context") else pure false
    | _ => pure false
  if chosen then
    let t ← advance
    let _ ← advance
    return some (match t.kind with | .name s | .string s => s == "with" | _ => false)
  return none

/-- One imported name with the name that it gets. -/
def importedName : Parse (String × String) := do
  let (name, l) ← nameTarget
  if name.toList.head? == some '_' then
    throw (.assertionAt l "names starting with an underline can not be imported")
  if ← skipWord "as" then
    let (local_, _) ← nameTarget
    return (name, local_)
  return (name, name)

/-- An import of names. -/
def fromStmt : Parse Stmt := do
  let l ← tagLine
  let template ← r.expression
  let _ ← expectWord "import"
  let (names, context) ← loop (fun names => do
    if !names.isEmpty then
      let _ ← expectOp .comma
    if !(← kind).isAnyName then
      let _ ← expectName
    match ← importContext? with
    | some c => return .inr (names, c)
    | none =>
      let names := names ++ [← importedName]
      match ← importContext? with
      | some c => return .inr (names, c)
      | none => if (← kind).isOp .comma then return .inl names else return .inr (names, false))
    ([] : List (String × String))
  return .importNames l template names context

/-- The parameters of a macro with the defaults of the last ones. -/
def signature : Parse (List (Nat × String) × List (Expr String)) := do
  let _ ← expectOp .lparen
  let (params, defaults) ← loop (fun (params, defaults) => do
    if (← kind).isOp .rparen then return .inr (params, defaults)
    if !params.isEmpty then
      let _ ← expectOp .comma
    let (name, l) ← nameTarget
    if ← skipOp .assign then
      return .inl (params ++ [(l, name)], defaults ++ [← r.expression])
    else if !defaults.isEmpty then failHere "non-default argument follows default argument"
    else return .inl (params ++ [(l, name)], defaults))
    (([] : List (Nat × String)), ([] : List (Expr String)))
  let _ ← expectOp .rparen
  return (params, defaults)

/-- A macro. -/
def macroStmt : Parse Stmt := do
  let l ← tagLine
  let (name, _) ← nameTarget
  let (params, defaults) ← signature r
  return .macroDef l name params defaults (← bodyTo r "endmacro")

/-- Whether an expression is a call. -/
def isCall : Expr String → Bool
  | .call .. => true
  | _ => false

/-- A call that gets a block. -/
def callStmt : Parse Stmt := do
  let l ← tagLine
  let (params, defaults) ←
    if (← kind).isOp .lparen then signature r else pure ([], [])
  let call ← r.expression
  if !isCall call then failAt l "expected call"
  return .callBlock l params defaults call (← bodyTo r "endcall")

/-- A filter around a block. -/
def filterStmt : Parse Stmt := do
  let l ← tagLine
  let first ← filterOf r none
  let filter ← filters r (some first)
  return .filterBlock l (filter.getD first) (← bodyTo r "endfilter")

/-- A print statement. -/
def printStmt : Parse Stmt := do
  let l ← tagLine
  let items ← loop (fun items => do
    if (← kind).isBlockEnd then return .inr items
    if !items.isEmpty then
      let _ ← expectOp .comma
    return .inl (items ++ [← r.expression])) ([] : List (Expr String))
  return .output l items

/-- The statement that a word starts. -/
def statementRule? (word : String) : Option (Parse Stmt) :=
  if word == "for" then some (forStmt r)
  else if word == "if" then some (ifStmt r)
  else if word == "block" then some (blockStmt r)
  else if word == "extends" then some (do
    let l ← tagLine
    return .extends l (← r.expression))
  else if word == "print" then some (printStmt r)
  else if word == "macro" then some (macroStmt r)
  else if word == "include" then some (includeStmt r)
  else if word == "from" then some (fromStmt r)
  else if word == "import" then some (importStmt r)
  else if word == "set" then some (setStmt r)
  else if word == "with" then some (withStmt r)
  else if word == "autoescape" then some (autoescapeStmt r)
  else if word == "call" then some (callStmt r)
  else if word == "filter" then some (filterStmt r)
  else none

/-- One statement, from its word to before the end of its last tag. -/
def statement : Parse Stmt := do
  let t ← current
  match t.kind with
  | .name word =>
    match statementRule? r word with
    | some rule =>
      modify fun s => { s with tags := word :: s.tags }
      let stmt ← rule
      modify fun s => { s with tags := s.tags.drop 1 }
      return stmt
    | none => failTags (some word) (← get).ends t.line
  | _ => failAt t.line "tag name expected"

/-- The statements so far, and the data and printed values that are still to become one. -/
structure Gathered where
  body : List Stmt
  items : List (Expr String)

/-- The gathered items as one statement at the end of the others. -/
def Gathered.flush (g : Gathered) : List Stmt :=
  match g.items with
  | [] => g.body
  | e :: _ => g.body ++ [.output e.line g.items]

/-- Whether a token is one of the end tags. -/
def isEnd (ends : Option (List String)) (k : TokenKind) : Bool :=
  match ends with
  | some names => names.any fun n => k.isName n
  | none => false

/-- Takes the next data, printed value or statement, or finds the end tag or the end of the template. -/
def gather (ends : Option (List String)) (g : Gathered) : Parse (Gathered ⊕ List Stmt) := do
  let t ← current
  match t.kind with
  | .eof => return .inr g.flush
  | .data text =>
    let _ ← advance
    return .inl { g with items := g.items ++ [.data t.line text] }
  | .variableBegin =>
    let _ ← advance
    let e ← tuple r.expression [] false
    expectVariableEnd
    return .inl { g with items := g.items ++ [e] }
  | .blockBegin =>
    let body := g.flush
    let _ ← advance
    if isEnd ends (← kind) then return .inr body
    let stmt ← statement r
    expectBlockEnd
    return .inl ⟨body ++ [stmt], []⟩
  | _ => throw (.raised .unresolved "internal parsing error")

/-- The statements up to an end tag, or to the end of the template. -/
def statementsUntil (ends : Option (List String)) : Parse (List Stmt) := do
  modify fun s => { s with ends := ends.toList ++ s.ends }
  let body ← loop (gather r ends) ⟨[], []⟩
  modify fun s => { s with ends := s.ends.drop ends.toList.length }
  return body

end

/-- Rules that nest at most so deep. -/
def rules : Nat → Rules
  | 0 =>
    let stop := fun {α : Type} => failHere (α := α) "template nested too deeply"
    ⟨stop, stop, stop, stop, fun _ => stop⟩
  | depth + 1 =>
    let r := rules depth
    ⟨expression r, disjunction r, negation r, signed r, statementsUntil r⟩

/-- The statements of a token list. -/
def parseTokens (l : Lexer.Lexed) : Except Fault (List Stmt) := do
  let start : State := ⟨⟨1, .eof⟩, l.tokens, l.fault, [], []⟩
  let whole : Parse (List Stmt) := do
    let _ ← advance
    statementsUntil (rules (l.tokens.length + 2)) none
  let (body, _) ← whole.run start
  pure body

/-- The statements of a template. -/
def parse (config : Lexer.Config) (source : String) : Except Fault (List Stmt) :=
  parseTokens (Lexer.scan config source)

end TemplateTree.Template.Parser
