import TemplateTree.Text.Quoted
import TemplateTree.Violation

/-!
# Input files

A template source file together with its path relative to the source directory it was found in. The
relative path is a list of segments, each of which names one step down, so that joined to any directory
it stays inside.
-/

namespace TemplateTree

/-- Whether a text can be a segment of a relative path (`check_segments`): not empty, not a dot or double
    dot, and without slashes of either kind. -/
def isSegment (s : String) : Bool :=
  s != "" && s != "." && s != ".." && !s.toList.contains '/' && !s.toList.contains '\\'

/-- A template source file (`InputFile`). -/
structure InputFile where
  segments : List String
  path : Path
  segments_ok : segments.all isSegment = true

namespace InputFile

/-- What is said of a text that is no segment. -/
def badSegment (s : String) : String :=
  "Invalid relative path segment: " ++ Text.quoted s

/-- An input file, or the first text that is no segment. -/
def make (segments : List String) (path : Path) : Except String InputFile :=
  if h : segments.all isSegment = true then .ok ⟨segments, path, h⟩
  else .error ((segments.find? (!isSegment ·)).getD "")

/-- The segments of the directory that holds the file (`parent_segments`). -/
def parentSegments (f : InputFile) : List String :=
  f.segments.dropLast

/-- The name of the file, empty for the empty relative path (`last_name`). -/
def lastName (f : InputFile) : String :=
  f.segments.getLast?.getD ""

/-- The relative path as text (`relative_name`). -/
def relativeName (f : InputFile) : String :=
  "/".intercalate f.segments

/-- Reads the segments of a relative path. -/
def readSegments (fields : Fields) : Checked (List String) :=
  let place := Place.field "relative_path"
  match fields.get? "relative_path" with
  | none => .error [⟨[place], .missing⟩]
  | some (.list items) | some (.tuple items) => do
    let segments ← Checked.all (fun i d =>
      (Read.text d).mapError fun defect => [⟨[place, .index i], defect⟩]) 0 items
    match segments.find? (!isSegment ·) with
    | some s => .error [⟨[place], .refused (badSegment s)⟩]
    | none => .ok segments
  | some _ => .error [⟨[place], .notTuple⟩]

/-- Builds an input file from named fields. -/
def ofFields (fields : Fields) : Checked InputFile := do
  let (segments, path) ←
    Checked.both (readSegments fields) (fields.required "absolute_path" Read.path)
  (make segments path).mapError fun s => [⟨[.field "relative_path"], .refused (badSegment s)⟩]

end InputFile

end TemplateTree
