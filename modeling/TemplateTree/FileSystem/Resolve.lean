import TemplateTree.FileSystem.Basic
import TemplateTree.FileSystem.Error

/-!
# Finding paths

A path is followed name by name. Every name on the way must be a directory, or a link that leads to
one; a double dot leads to the directory above. At most forty links are followed.

* `locate`: where a path leads: to an entry or a free name in an existing directory.
* `Spot.location`: the location it stands for.
-/

namespace TemplateTree

/-- Where a path leads: a directory, and a name in it unless the path ends at the directory itself. -/
structure Spot where
  directory : Location
  name : Option String
  deriving DecidableEq, Repr

namespace Spot

/-- The location that a spot stands for. -/
def location (s : Spot) : Location :=
  s.directory ++ s.name.toList

end Spot

namespace FileSystem

/-- The longest name, in bytes. -/
def nameLimit : Nat := 255

/-- How many links are followed on the way to one entry. -/
def linkLimit : Nat := 40

/-- What follows a link: the directory it is in, its text, and the names still to come. -/
abbrev LinkStep := Location → String → List String → Except Errno Spot

/-- Follows names from a directory. With `follow` a link at the end is followed, too. -/
def walkNames (fs : FileSystem) (follow : Bool) (onLink : LinkStep) :
    Location → List String → Except Errno Spot
  | here, [] => .ok ⟨here, none⟩
  | here, name :: rest =>
    if name == ".." then walkNames fs follow onLink here.dropLast rest
    else if nameLimit < name.utf8ByteSize then .error .nameTooLong
    else
      match fs.node? (here ++ [name]) with
      | none => if rest.isEmpty then .ok ⟨here, some name⟩ else .error .noEntry
      | some .directory =>
        if rest.isEmpty then .ok ⟨here, some name⟩
        else walkNames fs follow onLink (here ++ [name]) rest
      | some (.file ..) => if rest.isEmpty then .ok ⟨here, some name⟩ else .error .notDirectory
      | some (.link target) =>
        if rest.isEmpty && !follow then .ok ⟨here, some name⟩ else onLink here target rest

/-- Follows names from a directory and at most so many links. -/
def walk (fs : FileSystem) (follow : Bool) : Nat → Location → List String → Except Errno Spot
  | 0 => walkNames fs follow fun _ _ _ => .error .tooManyLinks
  | budget + 1 => walkNames fs follow fun here target rest =>
    let t := Path.parse target
    walk fs follow budget (if t.isAbsolute then [] else here) (t.parts ++ rest)

/-- Where a path leads. Nothing is found from a current directory that has been removed. -/
def locate (fs : FileSystem) (follow : Bool) (p : Path) : Except Errno Spot :=
  if p.isAbsolute then walk fs follow linkLimit [] p.parts
  else if fs.workDirLost then
    if p.parts.isEmpty then .ok ⟨fs.workDir, none⟩ else .error .noEntry
  else walk fs follow linkLimit fs.workDir p.parts

/-- Whether a path holds a NUL character. -/
def hasNul (p : Path) : Bool :=
  p.parts.any fun s => s.toList.contains (Char.ofNat 0)

/-- Where a path leads, with the path in the error. -/
def find (fs : FileSystem) (follow : Bool) (p : Path) : Except SystemError Spot :=
  if hasNul p then .error .nulByte
  else (fs.locate follow p).mapError fun e => .about e p.text

/-- Whether a path is the current directory itself. -/
def isHere (p : Path) : Bool :=
  !p.isAbsolute && p.parts.isEmpty

/-- The node that a path leads to. A current directory that has been removed is still a directory. -/
def look (fs : FileSystem) (follow : Bool) (p : Path) : Except SystemError Node := do
  if isHere p then return .directory
  let spot ← fs.find follow p
  match fs.node? spot.location with
  | some node => pure node
  | none => throw (.about .noEntry p.text)

/-- Asks about the node at a path. Nothing there answers no; other errors stay errors. -/
def asks (fs : FileSystem) (follow : Bool) (p : Path) (ask : Node → Bool) :
    Except SystemError Bool :=
  match fs.look follow p with
  | .ok node => .ok (ask node)
  | .error e => if e.saysAbsent then .ok false else .error e

/-- Whether a path leads to a directory. -/
def isDir (fs : FileSystem) (p : Path) : Except SystemError Bool :=
  fs.asks true p fun
    | .directory => true
    | _ => false

/-- Whether a path leads to a regular file. -/
def isFile (fs : FileSystem) (p : Path) : Except SystemError Bool :=
  fs.asks true p fun
    | .file .. => true
    | _ => false

/-- Whether a path is a link. -/
def isLink (fs : FileSystem) (p : Path) : Except SystemError Bool :=
  fs.asks false p fun
    | .link _ => true
    | _ => false

/-- A path from the root, with the current directory in front of a relative one. -/
def absolute (fs : FileSystem) (p : Path) : Except SystemError Path :=
  if p.isAbsolute then .ok p
  else if fs.workDirLost then .error (.failed .noEntry Errno.noEntry.text none none)
  else .ok (p.absolute fs.workPath)

/-- The content of the file that a path leads to; none if it leads to a directory. -/
def content? (fs : FileSystem) (p : Path) : Except SystemError (Option ByteArray) := do
  match ← fs.look true p with
  | .file content .. => pure (some content)
  | _ => pure none

/-- The content of a file. -/
def read (fs : FileSystem) (p : Path) : Except SystemError ByteArray := do
  match ← fs.look true p with
  | .file content .. => pure content
  | _ => throw (.about .isDirectory p.text)

end FileSystem

end TemplateTree
