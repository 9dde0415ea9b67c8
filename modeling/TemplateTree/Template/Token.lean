/-!
# Tokens

What a template text is cut into: data between the tags, the marks that open and close tags, and inside
a tag names, literals and operators. Every token knows its line.
-/

namespace TemplateTree.Template

/-- The operators and brackets inside tags. -/
inductive Operator
  | add
  | sub
  | mul
  | div
  | floordiv
  | mod
  | pow
  | tilde
  | eq
  | ne
  | lt
  | lteq
  | gt
  | gteq
  | assign
  | dot
  | colon
  | pipe
  | comma
  | semicolon
  | lparen
  | rparen
  | lbracket
  | rbracket
  | lbrace
  | rbrace
  deriving DecidableEq, Repr, Inhabited

/-- How an operator is written. -/
def Operator.text : Operator → String
  | .add => "+"
  | .sub => "-"
  | .mul => "*"
  | .div => "/"
  | .floordiv => "//"
  | .mod => "%"
  | .pow => "**"
  | .tilde => "~"
  | .eq => "=="
  | .ne => "!="
  | .lt => "<"
  | .lteq => "<="
  | .gt => ">"
  | .gteq => ">="
  | .assign => "="
  | .dot => "."
  | .colon => ":"
  | .pipe => "|"
  | .comma => ","
  | .semicolon => ";"
  | .lparen => "("
  | .rparen => ")"
  | .lbracket => "["
  | .rbracket => "]"
  | .lbrace => "\x7b"
  | .rbrace => "\x7d"

/-- The operators of two characters, and then those of one. -/
def Operator.all : List Operator :=
  [.floordiv, .pow, .eq, .ne, .lteq, .gteq, .add, .sub, .mul, .div, .mod, .tilde, .lt, .gt, .assign,
    .dot, .colon, .pipe, .comma, .semicolon, .lparen, .rparen, .lbracket, .rbracket, .lbrace, .rbrace]

/-- What a token is. -/
inductive TokenKind
  | data (s : String)
  | variableBegin
  | variableEnd
  | blockBegin
  | blockEnd
  | name (s : String)
  | string (s : String)
  | integer (n : Int)
  | float (x : Float)
  | op (o : Operator)
  | eof
  deriving Repr, Inhabited

/-- A token and the line it starts on. -/
structure Token where
  line : Nat
  kind : TokenKind
  deriving Repr, Inhabited

namespace TokenKind

/-- A kind of token in words, without the token's own text. -/
def describeKind : TokenKind → String
  | .data _ => "template data / text"
  | .variableBegin => "begin of print statement"
  | .variableEnd => "end of print statement"
  | .blockBegin => "begin of statement block"
  | .blockEnd => "end of statement block"
  | .name _ => "name"
  | .string _ => "string"
  | .integer _ => "integer"
  | .float _ => "float"
  | .op o => o.text
  | .eof => "end of template"

/-- A token in words: a name stands for itself. -/
def describe : TokenKind → String
  | .name s => s
  | k => k.describeKind

/-- Whether a token is the given operator. -/
def isOp (o : Operator) : TokenKind → Bool
  | .op p => o == p
  | _ => false

/-- Whether a token is the given name. -/
def isName (s : String) : TokenKind → Bool
  | .name t => s == t
  | _ => false

/-- Whether a token is a name. -/
def isAnyName : TokenKind → Bool
  | .name _ => true
  | _ => false

/-- Whether a token ends a tag with a statement. -/
def isBlockEnd : TokenKind → Bool
  | .blockEnd => true
  | _ => false

/-- Whether a token ends a tag that prints. -/
def isVariableEnd : TokenKind → Bool
  | .variableEnd => true
  | _ => false

/-- Whether a token is the end of the template. -/
def isEof : TokenKind → Bool
  | .eof => true
  | _ => false

end TokenKind

end TemplateTree.Template
