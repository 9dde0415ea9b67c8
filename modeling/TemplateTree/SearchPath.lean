import TemplateTree.Failure
import TemplateTree.FileSystem.Resolve
import TemplateTree.InputFile
import TemplateTree.Log
import TemplateTree.Options
import TemplateTree.Sources
import TemplateTree.Text.Blank

/-!
# The search path

The directories in which templates look for the templates that they include. Input files come first,
by themselves or by the directories that hold them, and after them every include directory. As text the
entries are joined by a comma and a space.

* `resolve`: the search path of a run.
* `join`, `split`: to and from text. Splitting cuts at commas and trims, so it does not undo joining
  when an entry has a comma, or blanks at its end.
-/

namespace TemplateTree.SearchPath

/-- What stands between two entries (`SEARCH_PATH_SEPARATOR`). -/
def separator : String := ", "

/-- Keeps the first of equal paths. -/
def firstOnly (paths : List Path) : List Path :=
  paths.foldl (fun seen p => if seen.contains p then seen else seen ++ [p]) []

/-- What the input files contribute, given their absolute paths (`_input_locations`). -/
def inputLocations (mode : IncludePathMode) (paths : List Path) : List Path :=
  match mode with
  | .files => paths
  | .directories => firstOnly (paths.map Path.parent)

/-- The absolute paths of include directories, up to the first one that has none. -/
def absoluteDirs (fs : FileSystem) : List Path → List Path × Option SystemError
  | [] => ([], none)
  | dir :: rest =>
    match fs.absolute dir with
    | .error e => ([], some e)
    | .ok path =>
      let (paths, error) := absoluteDirs fs rest
      (path :: paths, error)

/-- The text of a list of entries. -/
def join (paths : List Path) : String :=
  separator.intercalate (paths.map Path.text)

/-- Cuts a text at every comma. -/
def splitComma (s : List Char) : List (List Char) :=
  match s with
  | [] => [[]]
  | c :: rest =>
    if c == ',' then [] :: splitComma rest
    else
      match splitComma rest with
      | [] => [[c]]
      | piece :: pieces => (c :: piece) :: pieces

/-- The entries of a text (`split_search_path`): what stands between commas, trimmed, without empty ones. -/
def split (s : String) : List String :=
  (((splitComma s.toList).map Text.trim).filter (!·.isEmpty)).map String.ofList

/-- What is logged of the entries. -/
def entriesLog (own dirs : List Path) : List LogRecord :=
  own.map (fun p => .info ("Collecting search path entry " ++ p.text))
    ++ dirs.map fun p => .info ("Collecting include dir " ++ p.text)

/-- The search path of a run, with its log (`resolve_search_path`): input locations, then include
    directories. -/
def resolve (fs : FileSystem) (files : List InputFile) (includeDirs : List Path)
    (mode : IncludePathMode) : List LogRecord × Except SystemError String :=
  match files.mapM fun f => fs.absolute f.path with
  | .error e => ([], .error e)
  | .ok paths =>
    let own := inputLocations mode paths
    let (dirs, error) := absoluteDirs fs includeDirs
    (entriesLog own dirs, match error with
      | some e => .error e
      | none => .ok (join (own ++ dirs)))

/-- The search path for the files that are found in some place, with the log of the search. -/
def ofInputs (fs : FileSystem) (inputs : Inputs) (includeDirs : List Path)
    (mode : IncludePathMode) : List LogRecord × Except Failure String :=
  let found := inputs.collect fs
  match found.failure with
  | some failure => (found.log, .error failure)
  | none =>
    let (log, path) := resolve fs found.files includeDirs mode
    (found.log ++ log, path.mapError .raw)

end TemplateTree.SearchPath
