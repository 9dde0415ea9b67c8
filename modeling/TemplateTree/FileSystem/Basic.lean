import TemplateTree.Path

/-!
# The file system

A file system is a finite map from locations to nodes. A location is the list of names from the root
directory, without links and dots on the way; the root itself is always a directory. Every file carries
a stamp that is new with every write.

* `node?`: what is at a location.
* `put`, `erase`: the map with one location changed.
* `children`: the names in a directory, in code-point order.
-/

namespace TemplateTree

/-- A place in the file system: the names from the root directory down. -/
abbrev Location := List String

/-- What can be at a location. -/
inductive Node
  | file (content : ByteArray) (mode : Nat) (stamp : Nat)
  | link (target : String)
  | directory
  deriving Inhabited

/-- A file system with a current directory. `workDirLost` says that the directory which was current
    has been removed. -/
structure FileSystem where
  nodes : List (Location × Node)
  workDir : Location
  workDirLost : Bool
  clock : Nat

namespace FileSystem

/-- What is at a location. -/
def node? (fs : FileSystem) (at_ : Location) : Option Node :=
  if at_.isEmpty then some .directory
  else (fs.nodes.find? fun e => e.1 == at_).map (·.2)

/-- Whether a directory is at a location. -/
def isDirectoryAt (fs : FileSystem) (at_ : Location) : Bool :=
  match fs.node? at_ with
  | some .directory => true
  | _ => false

/-- The map with nothing at a location. -/
def erase (fs : FileSystem) (at_ : Location) : FileSystem :=
  { fs with nodes := fs.nodes.filter fun e => e.1 != at_ }

/-- The map with a node at a location. -/
def put (fs : FileSystem) (at_ : Location) (node : Node) : FileSystem :=
  { fs with nodes := (at_, node) :: fs.nodes.filter fun e => e.1 != at_ }

/-- The name of an entry that lies directly in a directory. -/
def nameIn? (directory entry : Location) : Option String :=
  match entry.getLast? with
  | some name => if entry.dropLast == directory then some name else none
  | none => none

/-- The order of names by code points. -/
def nameLe (a b : String) : Bool :=
  a ≤ b

/-- The names in a directory, in order. -/
def children (fs : FileSystem) (directory : Location) : List String :=
  (fs.nodes.filterMap fun e => nameIn? directory e.1).mergeSort nameLe

/-- The locations below a directory, with their nodes. -/
def below (fs : FileSystem) (directory : Location) : List (Location × Node) :=
  fs.nodes.filter fun e => directory.isPrefixOf e.1 && e.1 != directory

/-- The next stamp. -/
def tick (fs : FileSystem) : FileSystem :=
  { fs with clock := fs.clock + 1 }

/-- The current directory as a path. -/
def workPath (fs : FileSystem) : Path :=
  ⟨.single, fs.workDir⟩

/-- An empty directory as the current one. -/
def empty (workDir : Location) : FileSystem :=
  { nodes := (List.range workDir.length).map fun i => (workDir.take (i + 1), Node.directory)
    workDir
    workDirLost := false
    clock := 0 }

end FileSystem

end TemplateTree
