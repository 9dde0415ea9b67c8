import TemplateTree.Options
import TemplateTree.Text.Case

/-!
# Settings from the environment

Environment variables whose names start with `TREEPLATE_` give the options of a run their defaults. The
case of the names does not matter. Overrides for one run go on top; an override that is absent leaves
the setting as it is.
-/

namespace TemplateTree

/-- Environment variables. -/
abbrev Environment := List (String × String)

namespace Settings

/-- The lower-case mark of the variables that hold settings. -/
def mark : String := "treeplate_"

/-- The fields that the environment sets. Of several variables for one field the last one counts. -/
def fields (env : Environment) : Fields :=
  (env.filterMap fun (name, value) =>
    let name := String.ofList (Text.lower name.toList)
    if mark.toList.isPrefixOf name.toList then
      some (String.ofList (name.toList.drop mark.length), .text value)
    else none).reverse

/-- The settings of an environment (`CompilerSettings`). -/
def ofEnvironment (env : Environment) : Checked CompileOptions :=
  CompileOptions.ofFields (fields env)

/-- The options of a run (`to_options`): the settings under the overrides that are not absent. -/
def toOptions (settings : CompileOptions) (overrides : Fields) : Checked CompileOptions :=
  CompileOptions.ofFieldsOver settings (overrides.filter fun f => !f.2.isNone)

end Settings

/-- An environment with the settings that were read from it first. They are read once and kept, unless
    reading fails. -/
structure SettingsStore where
  environment : Environment
  kept : Option CompileOptions

namespace SettingsStore

/-- A store that has read nothing yet. -/
def fresh (env : Environment) : SettingsStore := ⟨env, none⟩

/-- The settings, kept or read now (`get_settings`). -/
def load (s : SettingsStore) : SettingsStore × Checked CompileOptions :=
  match s.kept with
  | some options => (s, .ok options)
  | none =>
    match Settings.ofEnvironment s.environment with
    | .ok options => ({ s with kept := some options }, .ok options)
    | .error violations => (s, .error violations)

end SettingsStore

end TemplateTree
