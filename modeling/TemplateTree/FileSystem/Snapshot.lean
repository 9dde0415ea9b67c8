import TemplateTree.FileSystem.Resolve

/-!
# Pictures of a directory

What is below a directory: the files with their content, the links, and the directories that are
empty, each under its path from there. Other directories show only through what is in them.
-/

namespace TemplateTree.FileSystem

/-- Whether nothing lies below a location. -/
def isBare (fs : FileSystem) (at_ : Location) : Bool :=
  fs.nodes.all fun e => !(at_.isPrefixOf e.1 && e.1 != at_)

/-- The entries below a location. -/
def picture (fs : FileSystem) (at_ : Location) : List (Location × Node) :=
  (fs.below at_).filterMap fun (place, node) =>
    let name := place.drop at_.length
    match node with
    | .directory => if fs.isBare place then some (name, node) else none
    | _ => some (name, node)

/-- The entries below the directory that a path leads to; none if it leads to no directory. -/
def snapshot (fs : FileSystem) (p : Path) : Option (List (Location × Node)) :=
  match fs.locate true p with
  | .ok spot => if fs.isDirectoryAt spot.location then some (fs.picture spot.location) else none
  | .error _ => none

end TemplateTree.FileSystem
