/-!
# Paths

A path is a root and a list of names. The root is empty for a relative path, one slash for an absolute
one, and two slashes where exactly two stand in front. Empty names and single dots say nothing and are
dropped when a text is read; a double dot is kept, because what it leads to depends on links.

* `Path.parse`, `Path.text`: from and to text.
* `Path.join`: what a path means from a directory; an absolute path stands alone.
* `Path.absolute`: a relative path is put behind the current directory, nothing is resolved.
-/

namespace TemplateTree

/-- What stands in front of the names of a path. -/
inductive Root
  | relative
  | single
  | double
  deriving DecidableEq, Repr, Inhabited

/-- A root and the names behind it. -/
structure Path where
  root : Root
  parts : List String
  deriving DecidableEq, Repr, Inhabited

namespace Path

/-- Cuts a text at every slash. -/
def splitSlash (s : List Char) : List (List Char) :=
  match s with
  | [] => [[]]
  | c :: rest =>
    if c == '/' then [] :: splitSlash rest
    else
      match splitSlash rest with
      | [] => [[c]]
      | piece :: pieces => (c :: piece) :: pieces

/-- Whether a piece between slashes names something. -/
def isName (piece : String) : Bool :=
  piece != "" && piece != "."

/-- The names in a text, in order. -/
def names (s : List Char) : List String :=
  ((splitSlash s).map String.ofList).filter isName

/-- The root that a text begins with. -/
def rootOf : List Char → Root
  | '/' :: '/' :: '/' :: _ => .single
  | '/' :: '/' :: _ => .double
  | '/' :: _ => .single
  | _ => .relative

/-- Reads a path. -/
def parse (s : String) : Path :=
  ⟨rootOf s.toList, names s.toList⟩

/-- The text of a root. -/
def rootText : Root → String
  | .relative => ""
  | .single => "/"
  | .double => "//"

/-- The text of a path; a path without root and names is the dot. -/
def text (p : Path) : String :=
  if p.root == .relative && p.parts.isEmpty then "."
  else rootText p.root ++ "/".intercalate p.parts

/-- Whether a path starts at the root directory. -/
def isAbsolute (p : Path) : Bool :=
  p.root != .relative

/-- What `q` means in the directory `p`. -/
def join (p q : Path) : Path :=
  if q.isAbsolute then q else ⟨p.root, p.parts ++ q.parts⟩

/-- The path one name below `p`. -/
def child (p : Path) (name : String) : Path :=
  ⟨p.root, p.parts ++ [name]⟩

/-- The path below `p` along `names`. -/
def descend (p : Path) (names : List String) : Path :=
  ⟨p.root, p.parts ++ names⟩

/-- The path without its last name. -/
def parent (p : Path) : Path :=
  ⟨p.root, p.parts.dropLast⟩

/-- The last name, empty if there is none. -/
def name (p : Path) : String :=
  p.parts.getLast?.getD ""

/-- The path as seen from the current directory `cwd`. -/
def absolute (p cwd : Path) : Path :=
  cwd.join p

/-- Where the last dot of a name stands, if it is neither at the start nor at the end. -/
def suffixStart? (name : List Char) : Option Nat :=
  let tail := name.reverse.takeWhile (· != '.')
  let before := name.length - tail.length
  if tail.isEmpty || before ≤ 1 then none else some (before - 1)

/-- The suffix of the last name with its dot, empty if there is none. -/
def suffix (p : Path) : String :=
  let cs := p.name.toList
  match suffixStart? cs with
  | some i => String.ofList (cs.drop i)
  | none => ""

/-- The last name without its suffix. -/
def stem (p : Path) : String :=
  let cs := p.name.toList
  match suffixStart? cs with
  | some i => String.ofList (cs.take i)
  | none => p.name

end Path

end TemplateTree
