import TemplateTree.FileSystem.Resolve

/-!
# Changing the file system

The operations that make, replace and remove entries. Each either changes one entry or fails and
changes nothing, except `makeDirs`, which makes the missing directories one after the other.
-/

namespace TemplateTree.FileSystem

/-- Makes a directory. -/
def makeDir (fs : FileSystem) (p : Path) : Except SystemError FileSystem := do
  let spot ← fs.find false p
  match spot.name, fs.node? spot.location with
  | some _, none => pure (fs.put spot.location .directory)
  | _, _ => throw (.about .exists p.text)

/-- What is left to try when a directory could not be made: that is no failure if one is there. -/
def orPresent (fs : FileSystem) (p : Path) (e : SystemError) : Except SystemError FileSystem := do
  if ← fs.isDir p then pure fs else throw e

/-- Makes a directory and those above it that are missing. The path names at most `depth` of them.
    What was made before a failure stays. -/
def makeDirsWithin (fs : FileSystem) : Nat → Path → FileSystem × Option SystemError
  | 0, p =>
    match fs.makeDir p with
    | .ok fs => (fs, none)
    | .error e => (fs, some e)
  | depth + 1, p =>
    match fs.makeDir p with
    | .ok fs => (fs, none)
    | .error (.failed .noEntry words path target) =>
      if p.parent == p then (fs, some (.failed .noEntry words path target))
      else
        match fs.makeDirsWithin depth p.parent with
        | (fs, some e) => (fs, some e)
        | (fs, none) =>
          match fs.makeDir p with
          | .ok fs => (fs, none)
          | .error e =>
            match fs.orPresent p e with
            | .ok _ => (fs, none)
            | .error e => (fs, some e)
    | .error .nulByte => (fs, some .nulByte)
    | .error e =>
      match fs.orPresent p e with
      | .ok _ => (fs, none)
      | .error e => (fs, some e)

/-- Makes a directory and those above it that are missing; a directory that is there already is no
    failure. -/
def makeDirs (fs : FileSystem) (p : Path) : FileSystem × Option SystemError :=
  fs.makeDirsWithin (p.parts.length + 1) p

/-- Removes a file or link. -/
def unlink (fs : FileSystem) (p : Path) : Except SystemError FileSystem := do
  let spot ← fs.find false p
  match spot.name, fs.node? spot.location with
  | none, _ => throw (.about .isDirectory p.text)
  | some _, none => throw (.about .noEntry p.text)
  | some _, some .directory => throw (.about .isDirectory p.text)
  | some _, some _ => pure (fs.erase spot.location)

/-- The map without an empty directory. If it was the current directory, that is lost. -/
def dropDirectory (fs : FileSystem) (at_ : Location) : FileSystem :=
  let fs := fs.erase at_
  if at_ == fs.workDir then { fs with workDirLost := true } else fs

/-- The error of removing a directory by a path that ends in no name. -/
def unnamedRemoval (p : Path) : Errno :=
  if p.parts.getLast? == some ".." then .notEmpty
  else if p.isAbsolute then .busy
  else .invalid

/-- Removes an empty directory. -/
def removeDir (fs : FileSystem) (p : Path) : Except SystemError FileSystem := do
  let spot ← fs.find false p
  match spot.name, fs.node? spot.location with
  | none, _ => throw (.about (unnamedRemoval p) p.text)
  | some _, none => throw (.about .noEntry p.text)
  | some _, some .directory =>
    if (fs.children spot.location).isEmpty then pure (fs.dropDirectory spot.location)
    else throw (.about .notEmpty p.text)
  | some _, some _ => throw (.about .notDirectory p.text)

/-- The mode of a file made without one. -/
def defaultMode : Nat := 0o644

/-- Writes a file: a new one, or new content for the one that the path leads to. -/
def writeFile (fs : FileSystem) (p : Path) (content : ByteArray) (stamp : Option Nat) :
    Except SystemError FileSystem := do
  let spot ← fs.find true p
  let fs := fs.tick
  let stamp := stamp.getD fs.clock
  match spot.name, fs.node? spot.location with
  | none, _ => throw (.about .isDirectory p.text)
  | some _, some .directory => throw (.about .isDirectory p.text)
  | some _, some (.file _ mode _) => pure (fs.put spot.location (.file content mode stamp))
  | some _, _ => pure (fs.put spot.location (.file content defaultMode stamp))

/-- Makes a link. -/
def makeLink (fs : FileSystem) (p : Path) (target : String) : Except SystemError FileSystem := do
  let spot ← fs.find false p
  match spot.name, fs.node? spot.location with
  | some _, none => pure (fs.put spot.location (.link target))
  | _, _ => throw (.about .exists p.text)

/-- Moves a file over whatever is at the other path, unless that is a directory. -/
def replace (fs : FileSystem) (source target : Path) : Except SystemError FileSystem := do
  let both := fun e =>
    SystemError.failed e e.text (some source.text) (some target.text)
  if hasNul source || hasNul target then throw .nulByte
  let old ← (fs.locate false source).mapError both
  let new ← (fs.locate false target).mapError both
  match fs.node? old.location with
  | none => throw (both .noEntry)
  | some node =>
    if new.name.isNone then throw (both .busy)
    else if fs.isDirectoryAt new.location then throw (both .isDirectory)
    else pure ((fs.erase old.location).put new.location node)

/-- Sets the permissions of the file that a path leads to. -/
def setMode (fs : FileSystem) (p : Path) (mode : Nat) : Except SystemError FileSystem := do
  let spot ← fs.find true p
  match fs.node? spot.location with
  | some (.file content _ stamp) => pure (fs.put spot.location (.file content mode stamp))
  | some _ => pure fs
  | none => throw (.about .noEntry p.text)

/-- Removes whatever is at a path, a directory with everything in it. -/
def removeAll (fs : FileSystem) (p : Path) : Except SystemError FileSystem := do
  let spot ← fs.find false p
  match fs.node? spot.location with
  | none => throw (.about .noEntry p.text)
  | some .directory =>
    let kept := fs.nodes.filter fun e => !spot.location.isPrefixOf e.1
    let lost := fs.workDirLost || spot.location.isPrefixOf fs.workDir
    pure { fs with nodes := kept, workDirLost := lost }
  | some _ => pure (fs.erase spot.location)

end TemplateTree.FileSystem
