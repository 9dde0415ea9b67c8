import TemplateTree.Text.Quoted
import TemplateTree.Violation

/-!
# Options

The options of a run and the configuration of a template engine, and how both are read from named
fields.
-/

namespace TemplateTree

/-- How input files contribute to the search path (`IncludePathMode`): by themselves or by the directories
    they are in. -/
inductive IncludePathMode
  | files
  | directories
  deriving DecidableEq, Repr, Inhabited

namespace IncludePathMode

/-- The word for a mode. -/
def word : IncludePathMode → String
  | .files => "files"
  | .directories => "directories"

/-- The mode that a word stands for. -/
def ofWord? (s : String) : Option IncludePathMode :=
  if s == "files" then some .files
  else if s == "directories" then some .directories
  else none

/-- The words for the modes, as they are listed in messages. -/
def choices : String := "'files' or 'directories'"

/-- Reads a mode. -/
def read : Datum → Except Defect IncludePathMode
  | .scalar (.text s) =>
    match ofWord? s with
    | some mode => .ok mode
    | none => .error (.notChoice choices)
  | _ => .error (.notChoice choices)

end IncludePathMode

/-- The options of a run (`CompileOptions`). -/
structure CompileOptions where
  sourceExtension : Option String := some ".java"
  cacheEnabled : Bool := true
  strictUndefined : Bool := true
  includePathMode : IncludePathMode := .files
  continueOnError : Bool := false
  deriving DecidableEq, Repr, Inhabited

/-- A switch in words. -/
def boolWord (b : Bool) : String :=
  if b then "True" else "False"

/-- A mode as messages show it. -/
def IncludePathMode.label : IncludePathMode → String
  | .files => "<IncludePathMode.FILES: 'files'>"
  | .directories => "<IncludePathMode.DIRECTORIES: 'directories'>"

/-- Options in words. -/
def CompileOptions.text (o : CompileOptions) : String :=
  "source_extension=" ++ (o.sourceExtension.map Text.quoted).getD "None"
    ++ " cache_enabled=" ++ boolWord o.cacheEnabled
    ++ " strict_undefined=" ++ boolWord o.strictUndefined
    ++ " include_path_mode=" ++ o.includePathMode.label
    ++ " continue_on_error=" ++ boolWord o.continueOnError

/-- The configuration of a template engine (`EngineConfig`). -/
structure EngineConfig where
  searchPath : String := ""
  cacheEnabled : Bool := true
  strictUndefined : Bool := true
  trimBlocks : Bool := true
  lstripBlocks : Bool := true
  keepTrailingNewline : Bool := true
  deriving DecidableEq, Repr, Inhabited

/-- Reads options; a field that is not given has its value in `base`. -/
def CompileOptions.ofFieldsOver (base : CompileOptions) (fields : Fields) :
    Checked CompileOptions := do
  let (ext, cache, strict, mode, go) ←
    Checked.both (fields.optional "source_extension" base.sourceExtension Read.text?)
      (Checked.both (fields.optional "cache_enabled" base.cacheEnabled Read.bool)
        (Checked.both (fields.optional "strict_undefined" base.strictUndefined Read.bool)
          (Checked.both
            (fields.optional "include_path_mode" base.includePathMode IncludePathMode.read)
            (fields.optional "continue_on_error" base.continueOnError Read.bool))))
  pure ⟨ext, cache, strict, mode, go⟩

/-- Reads options. -/
def CompileOptions.ofFields (fields : Fields) : Checked CompileOptions :=
  CompileOptions.ofFieldsOver {} fields

/-- Reads an engine configuration. -/
def EngineConfig.ofFields (fields : Fields) : Checked EngineConfig := do
  let (path, cache, strict, trim, lstrip, keep) ←
    Checked.both (fields.optional "search_path" "" Read.text)
      (Checked.both (fields.optional "cache_enabled" true Read.bool)
        (Checked.both (fields.optional "strict_undefined" true Read.bool)
          (Checked.both (fields.optional "trim_blocks" true Read.bool)
            (Checked.both (fields.optional "lstrip_blocks" true Read.bool)
              (fields.optional "keep_trailing_newline" true Read.bool)))))
  pure ⟨path, cache, strict, trim, lstrip, keep⟩

/-- Reads a project (`ProjectInfo`). Its directory is the current directory `cwd` unless another is given. -/
def Project.ofFields (cwd : Path) (fields : Fields) : Checked Project := do
  let (name, dir, version) ←
    Checked.both (fields.required "name" Read.text)
      (Checked.both (fields.optional "root_dir" cwd Read.path)
        (fields.optional "version" Project.unspecified Read.text))
  pure ⟨name, dir, version⟩

end TemplateTree
