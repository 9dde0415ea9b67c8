import TemplateTree.CommandLine.Invocation
import TemplateTree.FileSystem.Changes

/-!
# The program

Looks at the current directory and at the paths that the arguments name, does what the arguments ask for
on the picture of the file system, and then makes the changes on the disk.
-/

namespace TemplateTree

/-! ## The environment -/

/-- The texts between NUL bytes, without those that are no UTF-8. -/
def textsOfBlock (block : ByteArray) : List String :=
  ((block.toList.splitOn 0).map fun bytes => ⟨bytes.toArray⟩).filterMap String.fromUTF8?

/-- The name and the value of a variable. -/
def variableOf? (text : String) : Option (String × String) :=
  match CommandLine.Arguments.cutAtEquals text.toList with
  | (name, some value) => some (name, value)
  | (_, none) => none

/-- The environment of this process. -/
def environment : IO Environment := do
  try
    return (textsOfBlock (← IO.FS.readBinFile "/proc/self/environ")).filterMap variableOf?
  catch _ => return []

/-! ## Reading the disk -/

/-- The text of a location. -/
def textOf (place : Location) : String :=
  "/" ++ "/".intercalate place

/-- Adds what is at a place on the disk, and with `deep` what is below it. Entries that cannot be read
    are passed over. -/
partial def observe (deep : Bool) (place : Location) (fs : FileSystem) : IO FileSystem := do
  try
    let path := (IO.FS.DirEntry.mk "/" (textOf place)).path
    match (← path.symlinkMetadata).type with
    | .dir =>
      let mut seen := if (fs.node? place).isSome then fs else fs.put place .directory
      if deep then
        for entry in ← path.readDir do
          seen ← observe true (place ++ [entry.fileName]) seen
      return seen
    | .file => return fs.put place (.file (← IO.FS.readBinFile path) FileSystem.defaultMode 0)
    | .symlink =>
      let target := (← IO.FS.realPath path).toString
      return fs.put place (.link target)
    | .other => return fs
  catch _ => return fs

/-- Adds a path, the directories above it, and what is below it. -/
def observePath (here : Path) (fs : FileSystem) (p : Path) : IO FileSystem := do
  let place := (p.absolute here).parts
  let above ← (List.range place.length).foldlM
    (fun fs i => observe false (place.take (i + 1)) fs) fs
  observe true place above

/-- The paths that a command names. -/
def CommandLine.Command.paths : CommandLine.Command → List Path
  | .render r => r.output :: r.sources ++ r.includeDirs ++ r.valuesFiles
  | .searchPath r => r.sources ++ r.includeDirs
  | .help _ => []

/-! ## Changing the disk -/

/-- Makes a change on the disk. -/
def Change.perform : Change → IO Unit
  | .removeEntry place => IO.FS.removeFile (textOf place)
  | .removeDirectory place => IO.FS.removeDir (textOf place)
  | .makeDirectory place => IO.FS.createDir (textOf place)
  | .makeLink place _ => throw (IO.userError ("cannot make the link " ++ textOf place))
  | .write place content mode => do
    IO.FS.writeBinFile (textOf place) content
    let bits := fun n : Nat => IO.AccessRight.mk (n / 4 % 2 == 1) (n / 2 % 2 == 1) (n % 2 == 1)
    IO.setAccessRights (textOf place) ⟨bits (mode / 64), bits (mode / 8), bits mode⟩

/-! ## The program itself -/

/-- Does what a command asks for, and gives its exit code. -/
def runCommand (command : CommandLine.Command) : IO UInt32 := do
  let here := Path.parse (← IO.currentDir).toString
  let empty := FileSystem.empty here.parts
  let seen ← (Path.parse "." :: command.paths).foldlM (observePath here) empty
  let done := command.perform (← environment) seen
  for change in Change.between seen done.files do change.perform
  IO.print done.output
  IO.eprint done.errors
  match done.ending with
  | .exit _ => pure ()
  | .misused failure | .failed failure => IO.eprintln ("Error: " ++ failure.message)
  return UInt32.ofNat done.ending.code

end TemplateTree

/-- Runs the command that the arguments ask for. -/
def main (args : List String) : IO UInt32 := do
  match TemplateTree.CommandLine.Command.ofArguments args with
  | .ok command => TemplateTree.runCommand command
  | .error mistake => IO.eprintln ("Error: " ++ mistake.message); return 2
