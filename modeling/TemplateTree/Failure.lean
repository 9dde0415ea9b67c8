import TemplateTree.FileSystem.Error
import TemplateTree.Text.Utf8
import TemplateTree.Violation

/-!
# Failures

Everything that can end an operation, and its wording. A failure of the tool itself says what was being
done to which path, which template could not be evaluated, or which input file could not be processed;
the others come from the system, from the checks of records, or from reading values.
-/

namespace TemplateTree

/-- The kinds of mistakes in the use of the command line. -/
inductive UsageKind
  | badParameter
  | missingParameter
  | noSuchOption
  | badOptionUsage
  | usageError
  deriving DecidableEq, Repr

/-- Why an operation failed (`IOFailure`, `TemplateError`, `ProcessingFailure`). -/
inductive Failure
  | io (operation : String) (path : Path) (reason : String)
  | template (name : String) (detail : String) (line : Option Int)
  | processing (name : String) (cause : Failure)
  | invalid (violations : List Violation)
  | system (error : SystemError)
  | value (text : String)
  | undecodable (fault : Text.Utf8Fault)
  | usage (kind : UsageKind) (text : String)
  | crash (label : String) (text : String)
  deriving DecidableEq, Repr, Inhabited

namespace Failure

/-- Where a template failed: its name, and the line if one is known. -/
def location (name : String) (line : Option Int) : String :=
  match line with
  | some n => name ++ ":" ++ toString n
  | none => name

/-- A failure in words. -/
def message : Failure → String
  | .io operation path reason =>
    let head := "Failed to " ++ operation ++ " " ++ path.text
    if reason == "" then head else head ++ ": " ++ reason
  | .template name detail line => "Template error in " ++ location name line ++ ": " ++ detail
  | .processing name cause => "Failed to process " ++ name ++ ": " ++ cause.message
  | .invalid violations => "; ".intercalate (violations.map fun v => v.defect.message)
  | .system e => e.message
  | .value s => s
  | .undecodable f => f.message
  | .usage _ s => s
  | .crash _ s => s

/-- A bad value of a parameter. -/
def badParameter (s : String) : Failure :=
  .usage .badParameter ("Invalid value: " ++ s)

/-- A system error while something was being done to a path. A NUL character in the path is an error
    of its own. -/
def ofSystem (operation : String) (path : Path) : SystemError → Failure
  | .nulByte => .value SystemError.nulByte.message
  | e => .io operation path e.message

/-- A system error as it is. -/
def raw : SystemError → Failure
  | .nulByte => .value SystemError.nulByte.message
  | e => .system e

end Failure

end TemplateTree
