import TemplateTree.CommandLine.Arguments
import TemplateTree.Options
import TemplateTree.Path

/-!
# Commands

What an argument list asks for. The first operand names the command; the rest are its own arguments.

* `Command.ofArguments`: the command, or the first mistake. Mistakes in the form of the arguments come
  before bad values, and these before missing ones.
-/

namespace TemplateTree.CommandLine

/-- A request to render source directories into an output directory. -/
structure RenderRequest where
  sources : List Path
  output : Path
  includeDirs : List Path
  values : List String
  valuesFiles : List Path
  patterns : List String
  excludes : List String
  sourceExtension : Option String
  includePathMode : Option IncludePathMode
  continueOnError : Bool
  noCache : Bool
  projectName : String
  projectVersion : String
  verbose : Bool
  deriving DecidableEq, Repr

/-- A request for the search path that a render would use. -/
structure SearchPathRequest where
  sources : List Path
  includeDirs : List Path
  includePathMode : Option IncludePathMode
  deriving DecidableEq, Repr

/-- What the help is about. -/
inductive Topic
  | group
  | render
  | searchPath
  deriving DecidableEq, Repr

/-- A command. -/
inductive Command
  | render (request : RenderRequest)
  | searchPath (request : SearchPathRequest)
  | help (topic : Topic)
  deriving DecidableEq, Repr

/-- The include path mode that was asked for. -/
def modeOf (a : Arguments) : Except Mistake (Option IncludePathMode) :=
  match a.last? .includePathMode with
  | none => .ok none
  | some word =>
    match IncludePathMode.ofWord? word with
    | some mode => .ok (some mode)
    | none => .error (.badMode word)

/-- The source directories. -/
def sourcesOf (a : Arguments) : Except Mistake (List Path) :=
  if a.operands.isEmpty then .error .sourcesMissing else .ok (a.operands.map Path.parse)

/-- The output directory. -/
def outputOf (a : Arguments) : Except Mistake Path :=
  match a.last? .output with
  | some text => .ok (Path.parse text)
  | none => .error .outputMissing

/-- The request to render. -/
def RenderRequest.ofArguments (a : Arguments) : Except Mistake RenderRequest := do
  let mode ← modeOf a
  let sources ← sourcesOf a
  let output ← outputOf a
  return {
    sources
    output
    includeDirs := (a.all .includeDir).map Path.parse
    values := a.all .value
    valuesFiles := (a.all .valuesFile).map Path.parse
    patterns := a.all .pattern
    excludes := a.all .exclude
    sourceExtension := a.last? .sourceExtension
    includePathMode := mode
    continueOnError := a.has .continueOnError
    noCache := a.has .noCache
    projectName := (a.last? .projectName).getD ""
    projectVersion := (a.last? .projectVersion).getD Project.unspecified
    verbose := a.has .verbose }

/-- The request for the search path. -/
def SearchPathRequest.ofArguments (a : Arguments) : Except Mistake SearchPathRequest := do
  let mode ← modeOf a
  let sources ← sourcesOf a
  return ⟨sources, (a.all .includeDir).map Path.parse, mode⟩

namespace Command

/-- The name of the command that renders. -/
def renderName : String := "render"

/-- The name of the command that prints the search path. -/
def searchPathName : String := "search-path"

/-- The command with a name, from the arguments behind it. -/
def named (name : String) (rest : List String) : Except Mistake Command :=
  if name == renderName then do
    let a ← Arguments.read Switch.ofRender true rest
    if a.has .help then return .help .render
    return .render (← RenderRequest.ofArguments a)
  else if name == searchPathName then do
    let a ← Arguments.read Switch.ofSearchPath true rest
    if a.has .help then return .help .searchPath
    return .searchPath (← SearchPathRequest.ofArguments a)
  else throw (.unknownCommand name (Text.similar name [renderName, searchPathName]))

/-- The command that an argument list asks for. -/
def ofArguments (args : List String) : Except Mistake Command := do
  let a ← Arguments.read Switch.ofGroup false args
  if a.has .help then return .help .group
  match a.operands with
  | [] => throw .commandMissing
  | name :: rest => named name rest

end Command

end TemplateTree.CommandLine
