/-!
# Switches

What stands behind dashes on the command line. A switch has a long name, some have a letter, too, and
many take a value.

* `Switch.long`, `Switch.letter?`: the names.
* `Switch.takesValue`: whether a value follows.
-/

namespace TemplateTree.CommandLine

/-- The switches of all commands. -/
inductive Switch
  | output
  | includeDir
  | value
  | valuesFile
  | pattern
  | exclude
  | sourceExtension
  | includePathMode
  | continueOnError
  | noCache
  | projectName
  | projectVersion
  | verbose
  | help
  deriving DecidableEq, Repr

namespace Switch

/-- The long name. -/
def long : Switch → String
  | .output => "--output"
  | .includeDir => "--include"
  | .value => "--value"
  | .valuesFile => "--values-file"
  | .pattern => "--pattern"
  | .exclude => "--exclude"
  | .sourceExtension => "--source-extension"
  | .includePathMode => "--include-path-mode"
  | .continueOnError => "--continue-on-error"
  | .noCache => "--no-cache"
  | .projectName => "--project-name"
  | .projectVersion => "--project-version"
  | .verbose => "--verbose"
  | .help => "--help"

/-- The letter that stands for the switch behind one dash. -/
def letter? : Switch → Option Char
  | .output => some 'o'
  | .includeDir => some 'I'
  | .verbose => some 'v'
  | _ => none

/-- Whether a value follows. -/
def takesValue : Switch → Bool
  | .continueOnError | .noCache | .verbose | .help => false
  | _ => true

/-- The word for the value in the help. -/
def valueWord : Switch → String
  | .output | .includeDir => "DIR"
  | .value => "KEY=VALUE"
  | .valuesFile => "FILE"
  | .pattern | .exclude => "GLOB"
  | .sourceExtension => "EXT"
  | .includePathMode => "[files|directories]"
  | .projectName | .projectVersion => "TEXT"
  | .continueOnError | .noCache | .verbose | .help => ""

/-- What the switch does. -/
def purpose : Switch → String
  | .output => "Output directory. Its previous content is deleted."
  | .includeDir => "Extra directory searched for included templates. Repeatable."
  | .value => "Context value (format: KEY=VALUE, empty VALUE removes KEY). Repeatable."
  | .valuesFile => "YAML or JSON mapping of context values. Repeatable."
  | .pattern => "Only render files whose relative path matches GLOB. Repeatable."
  | .exclude => "Skip files whose relative path matches GLOB. Repeatable."
  | .sourceExtension =>
    "Suffix stripped from file names for 'class' (default: .java, empty disables)."
  | .includePathMode =>
    "Add input files themselves or their parent directories to the search path."
  | .continueOnError => "Keep rendering after a failed file and report all failures."
  | .noCache => "Disable the template cache."
  | .projectName => "Name exposed as project.name (default: current directory name)."
  | .projectVersion => "Version exposed as project.version."
  | .verbose => "Enable verbose logging."
  | .help => "Show this message and exit."

/-- The switches that can stand before a command. -/
def ofGroup : List Switch := [.help]

/-- The switches of the command that renders. -/
def ofRender : List Switch :=
  [.output, .includeDir, .value, .valuesFile, .pattern, .exclude, .sourceExtension, .includePathMode,
    .continueOnError, .noCache, .projectName, .projectVersion, .verbose, .help]

/-- The switches of the command that prints the search path. -/
def ofSearchPath : List Switch :=
  [.includeDir, .includePathMode, .help]

end Switch

end TemplateTree.CommandLine
