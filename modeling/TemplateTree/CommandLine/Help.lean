import TemplateTree.CommandLine.Command

/-!
# Help

The text that explains a command: how it is written, what it does, and its switches.
-/

namespace TemplateTree.CommandLine

/-- The name of the program. -/
def programName : String := "treeplate"

/-- The names of a switch and its value, as they are listed in the help. -/
def Switch.usage (s : Switch) : String :=
  let names := match s.letter? with
    | some c => String.ofList ['-', c] ++ ", " ++ s.long
    | none => s.long
  if s.takesValue then names ++ " " ++ s.valueWord else names

namespace Topic

/-- How a command is written, behind the name of the program. -/
def usage : Topic → String
  | .group => "[OPTIONS] COMMAND [ARGS]..."
  | .render => Command.renderName ++ " [OPTIONS] SOURCE..."
  | .searchPath => Command.searchPathName ++ " [OPTIONS] SOURCE..."

/-- What a command does. -/
def purpose : Topic → String
  | .group => "Render a directory tree of Jinja2 templates into an output tree."
  | .render => "Render every template under SOURCE into the output directory."
  | .searchPath => "Print the template search path a render would use."

/-- The switches of a command. -/
def switches : Topic → List Switch
  | .group => Switch.ofGroup
  | .render => Switch.ofRender
  | .searchPath => Switch.ofSearchPath

end Topic

/-- Lines of two columns. -/
def twoColumns (rows : List (String × String)) : List String :=
  let width := (rows.map (·.1.length)).foldl max 0
  rows.map fun (a, b) => "  " ++ a ++ String.ofList (List.replicate (width - a.length) ' ') ++ "  " ++ b

/-- The commands with what they do. -/
def commandRows : List (String × String) :=
  [(Command.renderName, Topic.render.purpose), (Command.searchPathName, Topic.searchPath.purpose)]

/-- The help about a topic. -/
def Topic.text (t : Topic) : String :=
  let head := ["Usage: " ++ programName ++ " " ++ t.usage, "", "  " ++ t.purpose, "", "Options:"]
  let options := twoColumns (t.switches.map fun s => (s.usage, s.purpose))
  let commands := if t == .group then ["", "Commands:"] ++ twoColumns commandRows else []
  String.join ((head ++ options ++ commands).map (· ++ "\n"))

end TemplateTree.CommandLine
