import TemplateTree.FileSystem.Error

/-!
# Faults

Why a template cannot be evaluated. A fault has a kind, whose label is part of the report, and a
message. Faults of the template's own text know their line; for the others the line is found from the
place at which evaluation stood.
-/

namespace TemplateTree.Template

/-- The kinds of faults. -/
inductive FaultKind
  | syntaxError
  | assertion
  | undefined
  | notFound
  | noneFound
  | runtime
  | filterArgument
  | typeError
  | valueError
  | keyError
  | indexError
  | attributeError
  | zeroDivision
  | overflow
  | lookup
  | recursion
  | unknownName
  | undecodable
  | unresolved
  | stopped
  | notImplemented
  deriving DecidableEq, Repr

/-- The label of a kind in a report. -/
def FaultKind.label : FaultKind → String
  | .syntaxError => "TemplateSyntaxError"
  | .assertion => "TemplateAssertionError"
  | .undefined => "UndefinedError"
  | .notFound => "TemplateNotFound"
  | .noneFound => "TemplatesNotFound"
  | .runtime => "TemplateRuntimeError"
  | .filterArgument => "FilterArgumentError"
  | .typeError => "TypeError"
  | .valueError => "ValueError"
  | .keyError => "KeyError"
  | .indexError => "IndexError"
  | .attributeError => "AttributeError"
  | .zeroDivision => "ZeroDivisionError"
  | .overflow => "OverflowError"
  | .lookup => "LookupError"
  | .recursion => "RecursionError"
  | .unknownName => "NameError"
  | .undecodable => "UnicodeDecodeError"
  | .unresolved => "AssertionError"
  | .stopped => "RuntimeError"
  | .notImplemented => "NotImplementedError"

/-- Why a template cannot be evaluated. Of the errors of the system, only those with a number are left as they
    are. -/
inductive Fault
  | inText (kind : FaultKind) (message : String) (line : Nat)
  | raised (kind : FaultKind) (message : String)
  | system (errno : Errno) (words : String) (path target : Option String)
  deriving DecidableEq, Repr

instance : Inhabited Fault := ⟨.raised .runtime ""⟩

namespace Fault

/-- A mistake in the text of a template. -/
def syntaxAt (line : Nat) (message : String) : Fault :=
  .inText .syntaxError message line

/-- A text that is well formed but asks for something impossible. -/
def assertionAt (line : Nat) (message : String) : Fault :=
  .inText .assertion message line

/-- A value of the wrong type. -/
def type (message : String) : Fault := .raised .typeError message

/-- A value that does not fit. -/
def value (message : String) : Fault := .raised .valueError message

/-- Use of something undefined. -/
def undefined (message : String) : Fault := .raised .undefined message

/-- A fault of the template at run time. -/
def runtime (message : String) : Fault := .raised .runtime message

/-- A failed look at the file system. A NUL character in a path is an error of its own. -/
def ofSystem : SystemError → Fault
  | .nulByte => .value SystemError.nulByte.message
  | .failed errno words path target => .system errno words path target

/-- Whether a kind is one of the template language's own, which carry their own line or none. -/
def ownKind : FaultKind → Bool
  | .syntaxError | .assertion | .undefined | .notFound | .noneFound | .runtime
  | .filterArgument => true
  | _ => false

/-- The kind of a fault; errors of the system have none. -/
def kind? : Fault → Option FaultKind
  | .inText k _ _ | .raised k _ => some k
  | .system .. => none

/-- Whether a fault is of one of the given kinds. -/
def isOf (kinds : List FaultKind) (f : Fault) : Bool :=
  match f.kind? with
  | some k => kinds.contains k
  | none => false

/-- The message of a fault. -/
def message : Fault → String
  | .inText _ m _ | .raised _ m => m
  | .system errno words path target => (SystemError.failed errno words path target).message

end Fault

end TemplateTree.Template
