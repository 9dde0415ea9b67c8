import TemplateTree.Failure
import TemplateTree.FileSystem.Operations
import TemplateTree.FileSystem.Scan
import TemplateTree.Log

/-!
# Output files

Writing into the output tree.

* `stage`: makes the directories above a path, and a temporary file beside it.
* `writeAtomically`: text goes to a temporary file beside the target, which replaces the target only
  when everything has been written; in any other case the temporary file is removed.
* `rebuild`: empties an output directory, depth first and without following links, and makes it anew.
-/

namespace TemplateTree.Output

/-- Makes the directories above a path (`ensure_parent`). -/
def ensureParent (fs : FileSystem) (p : Path) : FileSystem × Option Failure :=
  let (fs, error) := fs.makeDirs p.parent
  (fs, error.map (Failure.ofSystem "create directory" p.parent))

/-! ## Temporary files -/

/-- A path without double dots, each taken off together with the name before it. -/
def lexical (p : Path) : Path :=
  ⟨p.root, p.parts.foldl (fun acc part => if part == ".." then acc.dropLast else acc ++ [part]) []⟩

/-- What stands for the eight characters that make a temporary name unique. -/
def mask : String := "********"

/-- The `k`-th choice for the unique part of a temporary name. -/
def uniquePart (k : Nat) : String :=
  if k == 0 then mask else Decimal.padded 8 k

/-- The beginning of the temporary names for a target. -/
def tempStem (p : Path) : String :=
  "." ++ p.name ++ "."

/-- How many names are tried for a temporary file. -/
def nameTries : Nat := 10000

/-- The error when every name that was tried for a temporary file is taken. -/
def noFreeName : SystemError :=
  .failed .exists "No usable temporary file name found" none none

/-- Makes an empty temporary file in the directory `directory` under the first free name. -/
def makeTemp (fs : FileSystem) (directory : Path) (stem : String) :
    Except SystemError (FileSystem × Path) := do
  let directory := lexical (← fs.absolute directory)
  let shown := directory.child (stem ++ mask)
  let spot ← fs.find false shown
  let free := (List.range nameTries).find? fun k =>
    (fs.node? (spot.directory ++ [stem ++ uniquePart k])).isNone
  match free with
  | none => throw noFreeName
  | some k =>
    let name := stem ++ uniquePart k
    let fs := fs.tick
    pure (fs.put (spot.directory ++ [name]) (.file ByteArray.empty 0o600 fs.clock),
      directory.child name)

/-- Removes a temporary file if it is still there. -/
def discardTemp (fs : FileSystem) (temp : Path) : FileSystem :=
  match fs.unlink temp with
  | .ok fs => fs
  | .error _ => fs

/-- Error texts show the mask in place of the unique part of a temporary name. -/
def maskTemp (temp : Path) (stem : String) : SystemError → SystemError
  | .failed errno words path target =>
    let shown := temp.parent.child (stem ++ mask)
    .failed errno words (path.map fun s => if s == temp.text then shown.text else s) target
  | .nulByte => .nulByte

/-- Fills a temporary file and lets it replace the target. -/
def commit (fs : FileSystem) (temp target : Path) (text : String) :
    Except SystemError FileSystem := do
  let fs ← fs.writeFile temp text.toUTF8 none
  fs.replace temp target

/-! ## Atomic writes -/

/-- What a writer has done: the text it wrote, what it leaves behind, and why it stopped early. -/
structure Written (σ : Type) where
  state : σ
  text : String
  failure : Option Failure

/-- Makes ready for writing the file `p`: the directories above it, and a temporary file beside it. -/
def stage (fs : FileSystem) (p : Path) : FileSystem × Except Failure Path :=
  match ensureParent fs p with
  | (fs, some failure) => (fs, .error failure)
  | (fs, none) =>
    match makeTemp fs p.parent (tempStem p) with
    | .error e => (fs, .error (.raw e))
    | .ok (fs, temp) => (fs, .ok temp)

/-- Ends a write: the temporary file replaces the target and gets its mode, or is removed. -/
def settle (fs : FileSystem) (temp p : Path) (mode : Nat) (text : String)
    (failure : Option Failure) : FileSystem × Option Failure :=
  match failure with
  | some failure => (discardTemp fs temp, some failure)
  | none =>
    match commit fs temp p text with
    | .error e => (discardTemp fs temp, some (.raw (maskTemp temp (tempStem p) e)))
    | .ok fs =>
      match fs.setMode p mode with
      | .error e => (discardTemp fs temp, some (.raw e))
      | .ok fs => (fs, none)

/-- Lets `body` write the file `p` (`atomic_text_writer`). The body sees the file system with the temporary
    file in it. -/
def writeAtomically {σ : Type} (fs : FileSystem) (p : Path) (mode : Nat) (state : σ)
    (body : FileSystem → σ → Written σ) : FileSystem × σ × Option Failure :=
  match stage fs p with
  | (fs, .error failure) => (fs, state, some failure)
  | (fs, .ok temp) =>
    let written := body fs state
    let (fs, failure) := settle fs temp p mode written.text written.failure
    (fs, written.state, failure)

/-! ## Rebuilding a directory -/

/-- Removes a file or link (`_remove_file`). -/
def removeFile (fs : FileSystem) (p : Path) : Except Failure FileSystem :=
  (fs.unlink p).mapError (Failure.ofSystem "delete file" p)

/-- Removes an empty directory (`_remove_dir`). -/
def removeDirectory (fs : FileSystem) (p : Path) : Except Failure FileSystem :=
  (fs.removeDir p).mapError (Failure.ofSystem "delete directory" p)

/-- Changes a file system step by step until a step fails; what was changed before stays. -/
def eachOf {α : Type} (step : FileSystem → α → FileSystem × Option Failure) :
    List α → FileSystem → FileSystem × Option Failure
  | [], fs => (fs, none)
  | x :: xs, fs =>
    match step fs x with
    | (fs, some failure) => (fs, some failure)
    | (fs, none) => eachOf step xs fs

/-- A change that keeps the file system as it is when it fails. -/
def orKeep (fs : FileSystem) : Except Failure FileSystem → FileSystem × Option Failure
  | .ok fs => (fs, none)
  | .error failure => (fs, some failure)

/-- Removes the entries of a directory: first what is in its subdirectories, then its files, then the
    subdirectories. A link to a directory is removed like a file. A directory that cannot be read is
    left to fail when it is removed itself. Directories are nested at most `depth` deep. -/
def clear : Nat → Path → FileSystem → FileSystem × Option Failure
  | 0, _, fs => (fs, none)
  | depth + 1, p, fs =>
    match fs.scan p with
    | .error _ => (fs, none)
    | .ok listing =>
      let inner := listing.directories.filter fun name => !fs.isLinkEntry (p.child name)
      match eachOf (fun fs name => clear depth (p.child name) fs) inner fs with
      | (fs, some failure) => (fs, some failure)
      | (fs, none) =>
        match eachOf (fun fs name => orKeep fs (removeFile fs (p.child name))) listing.others fs with
        | (fs, some failure) => (fs, some failure)
        | (fs, none) =>
          eachOf (fun fs name =>
            let child := p.child name
            match fs.isLink child with
            | .error e => (fs, some (.raw e))
            | .ok true => orKeep fs (removeFile fs child)
            | .ok false => orKeep fs (removeDirectory fs child)) listing.directories fs

/-- Makes the root of an output tree. -/
def makeRoot (fs : FileSystem) (root : Path) : FileSystem × Option Failure :=
  let (fs, error) := fs.makeDirs root
  (fs, error.map (Failure.ofSystem "create directory" root))

/-- What stands in the way of a new output directory. -/
inductive Obstacle
  | nothing
  | entry
  | tree
  deriving DecidableEq, Repr

/-- Finds out what is at the root of an output tree. -/
def obstacle (fs : FileSystem) (root : Path) : Except SystemError Obstacle := do
  if ← fs.isLink root then pure .entry
  else if ← fs.isFile root then pure .entry
  else if ← fs.isDir root then pure .tree
  else pure .nothing

/-- Removes everything at `root` and makes an empty directory there (`rebuild_output_tree`). -/
def rebuild (fs : FileSystem) (root : Path) : FileSystem × List LogRecord × Option Failure :=
  match obstacle fs root with
  | .error e => (fs, [], some (.raw e))
  | .ok .nothing =>
    let (fs, failure) := makeRoot fs root
    (fs, [], failure)
  | .ok .entry =>
    match removeFile fs root with
    | .error failure => (fs, [], some failure)
    | .ok fs =>
      let (fs, failure) := makeRoot fs root
      (fs, [], failure)
  | .ok .tree =>
    let log := [LogRecord.debug ("Clearing output directory " ++ root.text)]
    match clear (fs.nodes.length + 1) root fs with
    | (fs, some failure) => (fs, log, some failure)
    | (fs, none) =>
      match removeDirectory fs root with
      | .error failure => (fs, log, some failure)
      | .ok fs =>
        let (fs, failure) := makeRoot fs root
        (fs, log, failure)

end TemplateTree.Output
