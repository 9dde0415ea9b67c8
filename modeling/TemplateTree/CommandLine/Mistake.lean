import TemplateTree.CommandLine.Switch
import TemplateTree.Failure

/-!
# Mistakes on the command line

What can be wrong with the arguments, and how it is said.
-/

namespace TemplateTree.CommandLine

/-- A mistake in the arguments. -/
inductive Mistake
  | unknownSwitch (name : String) (similar : List String)
  | valueMissing (name : String)
  | valueUnwanted (name : String)
  | badMode (word : String)
  | sourcesMissing
  | outputMissing
  | commandMissing
  | unknownCommand (name : String) (similar : List String)
  deriving DecidableEq, Repr

namespace Mistake

/-- The kind of a mistake. -/
def kind : Mistake → UsageKind
  | .unknownSwitch .. => .noSuchOption
  | .valueMissing _ | .valueUnwanted _ => .badOptionUsage
  | .badMode _ => .badParameter
  | .sourcesMissing | .outputMissing => .missingParameter
  | .commandMissing | .unknownCommand .. => .usageError

/-- Names that are close to an unknown one, in words. -/
def closeNames : List String → String
  | [] => ""
  | [name] => " Did you mean " ++ name ++ "?"
  | names => " (Possible options: " ++ ", ".intercalate (names.mergeSort fun a b => a ≤ b) ++ ")"

/-- A mistake in words. -/
def message : Mistake → String
  | .unknownSwitch name similar => "No such option: " ++ name ++ closeNames similar
  | .valueMissing name => "Option " ++ Text.quoted name ++ " requires an argument."
  | .valueUnwanted name => "Option " ++ Text.quoted name ++ " does not take a value."
  | .badMode word =>
    "Invalid value for '--include-path-mode': Value error, " ++ Text.quoted word
      ++ " is not one of 'files', 'directories'."
  | .sourcesMissing => "Missing argument 'SOURCE...'."
  | .outputMissing => "Missing option '--output' / '-o'."
  | .commandMissing => "Missing command."
  | .unknownCommand name [] => "No such command " ++ Text.quoted name ++ "."
  | .unknownCommand name similar =>
    "No such command " ++ Text.quoted name ++ ". Did you mean "
      ++ ", ".intercalate (similar.map Text.quoted) ++ "?"

/-- A mistake as a failure. -/
def failure (m : Mistake) : Failure :=
  .usage m.kind m.message

end Mistake

end TemplateTree.CommandLine
