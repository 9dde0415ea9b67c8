import TemplateTree.InputFile
import TemplateTree.Log

/-!
# Rendering contexts

The values that one input file is rendered with: the values of the run, and on top of them the project
and the two names that follow from the file's path. The package is the directories above the file,
joined by dots; the class is the file's name without the source extension.
-/

namespace TemplateTree

/-- The directories of an input file, joined by dots (`package_name`). -/
def InputFile.packageName (f : InputFile) : String :=
  ".".intercalate f.parentSegments

/-- A text without an ending that it has. -/
def dropEnding? (ending s : List Char) : Option (List Char) :=
  if ending.isSuffixOf s then some (s.take (s.length - ending.length)) else none

/-- The name of an input file with the source extension taken off once (`class_name`). -/
def InputFile.className (f : InputFile) (extension : Option String) : String :=
  match extension with
  | none => f.lastName
  | some ext =>
    if ext == "" then f.lastName
    else
      match dropEnding? ext.toList f.lastName.toList with
      | some cs => String.ofList cs
      | none => f.lastName

/-- The suffix that is taken off when nothing else is said (`DEFAULT_SOURCE_EXTENSION`). -/
def defaultSourceExtension : Option String := some ".java"

/-- The warning for a run without values. -/
def absentValues : String :=
  "Template context is absent; rendering with derived values only"

/-- The context of an input file (`build_context`). `ofText` makes a value of a text. -/
def buildContext {α : Type} (ofText : String → α) (base : Option (Entries α)) (f : InputFile)
    (project : α) (extension : Option String) : Entries α :=
  (((base.getD []).insert (.text "project") project).insert (.text "package")
    (ofText f.packageName)).insert (.text "class") (ofText (f.className extension))

/-- What is logged when a context is built. -/
def contextLog {α : Type} (base : Option (Entries α)) (f : InputFile) : List LogRecord :=
  match base with
  | none => []
  | some entries =>
    [.debug ("Applying " ++ toString entries.length ++ " context value(s) to " ++ f.relativeName)]

/-- The warnings when a context is built. -/
def contextWarnings {α : Type} (base : Option (Entries α)) : List String :=
  match base with
  | none => [absentValues]
  | some _ => []

end TemplateTree
