import TemplateTree.FileSystem.Basic

/-!
# Changes

What has to be done to one file system so that it becomes another. What must go is removed first, from
the bottom up; then directories are made and files written, from the top down. An entry that becomes one
of another kind is removed and made anew.
-/

namespace TemplateTree

/-- A step from one file system to another. -/
inductive Change
  | removeEntry (place : Location)
  | removeDirectory (place : Location)
  | makeDirectory (place : Location)
  | makeLink (place : Location) (target : String)
  | write (place : Location) (content : ByteArray) (mode : Nat)

namespace Change

/-- Whether the node at a place can stay where it is while it becomes `new`. -/
def isKept (old : Node) : Option Node → Bool
  | some new =>
    match old, new with
    | .directory, .directory | .file .., .file .. => true
    | .link a, .link b => a == b
    | _, _ => false
  | none => false

/-- Whether a node is at its place already. -/
def isDone (new : Node) : Option Node → Bool
  | some old =>
    match old, new with
    | .directory, .directory => true
    | .file content mode stamp, .file content' mode' stamp' =>
      content.data == content'.data && mode == mode' && stamp == stamp'
    | .link a, .link b => a == b
    | _, _ => false
  | none => false

/-- How the node at a place is removed. -/
def removal (place : Location) : Node → Change
  | .directory => .removeDirectory place
  | _ => .removeEntry place

/-- How a node is made at a place. -/
def making (place : Location) : Node → Change
  | .directory => .makeDirectory place
  | .link target => .makeLink place target
  | .file content mode _ => .write place content mode

/-- Entries from the top down. -/
def topDown (entries : List (Location × Node)) : List (Location × Node) :=
  entries.mergeSort fun a b => a.1.length ≤ b.1.length

/-- The steps from one file system to another. -/
def between (old new : FileSystem) : List Change :=
  let gone := old.nodes.filter fun e => !isKept e.2 (new.node? e.1)
  let made := new.nodes.filter fun e => !isDone e.2 (old.node? e.1)
  (topDown gone).reverse.map (fun e => removal e.1 e.2)
    ++ (topDown made).map fun e => making e.1 e.2

end Change

end TemplateTree
