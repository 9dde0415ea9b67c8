import TemplateTree.Failure
import TemplateTree.FileSystem.Scan
import TemplateTree.Glob
import TemplateTree.InputFile
import TemplateTree.Log

/-!
# Source directories

The template files under some directories. Each directory is walked from the top: its own files come
first, in order of their names, then its subdirectories, in the same order. Links to directories are
not entered. A file belongs to the set if its relative path matches one of the include patterns, where
there are any, and none of the exclude patterns.

* `SourceSet.accepts`: the filter.
* `SourceSet.collect`: the files, and the failure that ended the walk early, if one did.
-/

namespace TemplateTree

/-- Source directories with the patterns that select files (`InputFileSet`). -/
structure SourceSet where
  roots : List Path
  includes : List String
  excludes : List String
  deriving DecidableEq, Repr

/-- What a walk found before it ended. -/
structure Collected where
  files : List InputFile
  log : List LogRecord
  failure : Option Failure

namespace Collected

/-- Nothing found. -/
def nothing : Collected := ⟨[], [], none⟩

/-- One walk, and then another unless the first failed. -/
def andThen (a : Collected) (b : Unit → Collected) : Collected :=
  match a.failure with
  | some _ => a
  | none =>
    let b := b ()
    ⟨a.files ++ b.files, a.log ++ b.log, b.failure⟩

/-- Walks one after the other until one fails. -/
def each {α : Type} (f : α → Collected) : List α → Collected
  | [] => nothing
  | x :: xs => (f x).andThen fun _ => each f xs

end Collected

namespace SourceSet

/-- Whether a relative path matches one of the patterns (`_matches`). -/
def matchesAny (name : String) (patterns : List String) : Bool :=
  patterns.any fun p => Glob.isMatch p name

/-- Whether the file with a relative path belongs to the set (`_accepts`). -/
def accepts (s : SourceSet) (name : String) : Bool :=
  (s.includes.isEmpty || matchesAny name s.includes) && !matchesAny name s.excludes

/-- The file at `path` with the relative path `segments`, if the set accepts it. -/
def file (s : SourceSet) (segments : List String) (path : Path) : Collected :=
  if s.accepts ("/".intercalate segments) then
    match InputFile.make segments path with
    | .ok f => ⟨[f], [], none⟩
    | .error bad =>
      let violation : Violation := ⟨[.field "relative_path"], .refused (InputFile.badSegment bad)⟩
      ⟨[], [], some (.invalid [violation])⟩
  else .nothing

/-- Walks the directory `path`, whose relative path is `segments`. A directory that cannot be read is
    passed over. Directories are nested at most `depth` deep. -/
def walk (s : SourceSet) (fs : FileSystem) : Nat → List String → Path → Collected
  | 0, _, _ => .nothing
  | depth + 1, segments, path =>
    match fs.scan path with
    | .error _ => .nothing
    | .ok listing =>
      let own := Collected.each (fun name => s.file (segments ++ [name]) (path.child name))
        listing.others
      own.andThen fun _ =>
        Collected.each (fun name =>
          if fs.isLinkEntry (path.child name) then .nothing
          else walk s fs depth (segments ++ [name]) (path.child name)) listing.directories

/-- The files under one root (`_walk`). -/
def walkRoot (s : SourceSet) (fs : FileSystem) (root : Path) : Collected :=
  let log := [LogRecord.debug ("Collecting templates under " ++ root.text)]
  match fs.isDir root with
  | .error e => ⟨[], log, some (.raw e)⟩
  | .ok false => ⟨[], log, some (.io "read source directory" root "not a directory")⟩
  | .ok true =>
    match fs.absolute root with
    | .error e => ⟨[], log, some (.raw e)⟩
    | .ok path =>
      let found := s.walk fs (fs.nodes.length + 1) [] path
      ⟨found.files, log ++ found.log, found.failure⟩

/-- The files of the set, root by root (`__iter__`). -/
def collect (s : SourceSet) (fs : FileSystem) : Collected :=
  Collected.each (s.walkRoot fs) s.roots

end SourceSet

/-- Where the input files of a run come from: source directories, or a list made beforehand. -/
inductive Inputs
  | set (s : SourceSet)
  | files (fs : List InputFile)

/-- The input files. -/
def Inputs.collect (inputs : Inputs) (fs : FileSystem) : Collected :=
  match inputs with
  | .set s => s.collect fs
  | .files given => ⟨given, [], none⟩

end TemplateTree
