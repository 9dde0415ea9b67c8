import TemplateTree.FileSystem.Resolve

/-!
# Reading directories

The entries of a directory, parted into those that lead to directories and the others. A link counts
for what it leads to; a link that leads nowhere is among the others.
-/

namespace TemplateTree

/-- The names in a directory, in code-point order. -/
structure Listing where
  directories : List String
  others : List String
  deriving DecidableEq, Repr, Inhabited

namespace FileSystem

/-- Whether the entry `name` of a directory leads to a directory. -/
def leadsToDirectory (fs : FileSystem) (p : Path) (name : String) : Bool :=
  match fs.isDir (p.child name) with
  | .ok b => b
  | .error _ => false

/-- Reads a directory. -/
def scan (fs : FileSystem) (p : Path) : Except SystemError Listing := do
  if hasNul p then throw .nulByte
  let spot ← (fs.locate true p).mapError fun e => .about e p.text
  match fs.node? spot.location with
  | some .directory =>
    let names := fs.children spot.location
    pure ⟨names.filter (fs.leadsToDirectory p), names.filter (!fs.leadsToDirectory p ·)⟩
  | some _ => throw (.about .notDirectory p.text)
  | none => throw (.about .noEntry p.text)

/-- Whether an entry is a link; an entry that cannot be examined is none. -/
def isLinkEntry (fs : FileSystem) (p : Path) : Bool :=
  match fs.isLink p with
  | .ok b => b
  | .error _ => false

end FileSystem

end TemplateTree
