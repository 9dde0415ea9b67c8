import Mathlib.Data.List.Induction
import TemplateTree.Proofs.SearchPath.Splitting
import TemplateTree.Proofs.Template.Library
import TemplateTree.Template.Engine

/-!
# Finding templates on a search path

A template is looked for in the directories of the search path, one after the other, and the first one that has a
file of its name gives it. So a directory that comes again changes nothing, and where the input files contribute the
directories that they are in, each of these is needed only once.

* `findFile?_eq_findSome?`: a search through directories.
* `FindAlike`: search paths with which an engine finds the same templates.
* `ListsOnce`, `firstOnly_listsOnce`: the paths that are left when repetitions are dropped.
* `findSome?_firstOnly`: these are enough for a search.
* `parents_once`: the search path of a run, where input files contribute directories.
-/

namespace TemplateTree

/-! ## What an engine finds -/

namespace Template

variable {files : FileSystem} {name searchPath searchPath' : String}

/-- The file with the given names below a directory of the search path, with its stamp. -/
def fileBelow? (files : FileSystem) (parts : List String) (dir : String) : Option (Path × Nat) :=
  let p := (Path.parse dir).descend parts
  (stamp? files p).map (p, ·)

/-- The first directory that has the file gives it. -/
theorem findFile?_eq_findSome? (files : FileSystem) (parts dirs : List String) :
    findFile? files parts dirs = dirs.findSome? (fileBelow? files parts) := by
  induction dirs with
  | nil => rfl
  | cons dir dirs ih =>
    rw [findFile?, List.findSome?_cons, fileBelow?, ih]
    cases stamp? files ((Path.parse dir).descend parts) <;> rfl

/-- The library of an engine that has just been configured with a search path. -/
def configuredLibrary (config : EngineConfig) (searchPath : String) (s : Session) (files : FileSystem) : Library :=
  { (configure { config with searchPath } s).1.library with files }

/-- The template that such an engine gives for a name. -/
def givenTemplate (config : EngineConfig) (searchPath : String) (s : Session) (files : FileSystem)
    (id : TemplateId) (name shownName : String) : Except Fault Loaded :=
  ((configuredLibrary config searchPath s files).template id name shownName).1

/-- A configured engine finds the same file under a name with either of two search paths, or none with either. So it
    gives the same template, or fails in the same way; only the message that there is none lists the directories of
    the one search path or of the other. -/
structure FindAlike (files : FileSystem) (name searchPath searchPath' : String) : Prop where
  found : ∀ config s, (configuredLibrary config searchPath s files).found? name
    = (configuredLibrary config searchPath' s files).found? name
  given : ∀ config s id shownName,
    givenTemplate config searchPath s files id name shownName
        = givenTemplate config searchPath' s files id name shownName ∨
      ∃ message message',
        givenTemplate config searchPath s files id name shownName = .error (.raised .notFound message) ∧
          givenTemplate config searchPath' s files id name shownName = .error (.raised .notFound message')

/-- An engine without templates on its shelf reads the file that it finds. -/
theorem givenTemplate_eq_read (config : EngineConfig) (searchPath : String) (s : Session) (files : FileSystem)
    (id : TemplateId) (name shownName : String) :
    givenTemplate config searchPath s files id name shownName
      = ((configuredLibrary config searchPath s files).read s.library.next name shownName).map (·.loaded) := by
  have hshelf : (configuredLibrary config searchPath s files).onShelf? name = none := rfl
  unfold givenTemplate Library.template
  rw [hshelf]
  dsimp only
  split
  · rfl
  · have hnext : (configuredLibrary config searchPath s files).next = s.library.next := rfl
    rw [hnext]
    cases (configuredLibrary config searchPath s files).read s.library.next name shownName <;> rfl

/-- Search paths that have the same file under the names that a template's name consists of. -/
theorem findAlike_of_findFile?
    (h : ∀ parts, nameParts? name = some parts →
      findFile? files parts (SearchPath.split searchPath) = findFile? files parts (SearchPath.split searchPath')) :
    FindAlike files name searchPath searchPath' := by
  constructor
  · intro config s
    unfold Library.found?
    cases hparts : nameParts? name with
    | none => rfl
    | some parts => exact h parts hparts
  · intro config s id shownName
    rw [givenTemplate_eq_read, givenTemplate_eq_read]
    unfold Library.read
    cases hparts : nameParts? name with
    | none => exact .inl rfl
    | some parts =>
      -- Nothing but the list of directories in the message differs between the two libraries.
      have hfind : findFile? (configuredLibrary config searchPath s files).files parts
            (configuredLibrary config searchPath s files).searchPath
          = findFile? (configuredLibrary config searchPath' s files).files parts
            (configuredLibrary config searchPath' s files).searchPath := h parts hparts
      dsimp only
      rw [hfind]
      cases findFile? (configuredLibrary config searchPath' s files).files parts
          (configuredLibrary config searchPath' s files).searchPath with
      | none => exact .inr ⟨_, _, rfl, rfl⟩
      | some found => exact .inl rfl

end Template

namespace SearchPath

open Template

variable {paths unique : List Path} {p : Path} {β : Type}

/-! ## Repetitions -/

/-- Paths are those of a list, each once, in the order in which they first appear there. -/
structure ListsOnce (unique all : List Path) : Prop where
  mem : ∀ p, p ∈ unique ↔ p ∈ all
  once : unique.Nodup
  ordered : unique.Pairwise fun p q => all.idxOf p < all.idxOf q

theorem firstOnly_concat (paths : List Path) (p : Path) :
    firstOnly (paths ++ [p]) = if (firstOnly paths).contains p then firstOnly paths else firstOnly paths ++ [p] := by
  rw [firstOnly, List.foldl_concat]
  rfl

theorem mem_firstOnly : p ∈ firstOnly paths ↔ p ∈ paths := by
  refine ⟨mem_of_mem_firstOnly, fun h => ?_⟩
  induction paths using List.reverseRecOn with
  | nil => exact h
  | append_singleton paths q ih =>
    rw [firstOnly_concat]
    split_ifs with hq
    · obtain h | h := List.mem_append.1 h
      · exact ih h
      · rw [List.mem_singleton.1 h]
        simpa using hq
    · exact List.mem_append.2 ((List.mem_append.1 h).imp_left ih)

/-- One more path at the end of the list: it is left out if it has been there before. -/
theorem firstOnly_concat_of_mem (h : p ∈ paths) : firstOnly (paths ++ [p]) = firstOnly paths := by
  rw [firstOnly_concat, if_pos (by simpa using mem_firstOnly.2 h)]

theorem firstOnly_concat_of_not_mem (h : p ∉ paths) : firstOnly (paths ++ [p]) = firstOnly paths ++ [p] := by
  rw [firstOnly_concat, if_neg (by simpa using mt mem_firstOnly.1 h)]

/-- Dropping repetitions keeps the first of equal paths, and their order. -/
theorem firstOnly_ordered (paths : List Path) :
    (firstOnly paths).Pairwise fun p q => paths.idxOf p < paths.idxOf q := by
  induction paths using List.reverseRecOn with
  | nil => exact .nil
  | append_singleton paths q ih =>
    have hbefore : (firstOnly paths).Pairwise fun p p' => (paths ++ [q]).idxOf p < (paths ++ [q]).idxOf p' := by
      refine ih.imp_of_mem fun hp hp' hlt => ?_
      rwa [List.idxOf_append_of_mem (mem_firstOnly.1 hp), List.idxOf_append_of_mem (mem_firstOnly.1 hp')]
    by_cases hq : q ∈ paths
    · rwa [firstOnly_concat_of_mem hq]
    · rw [firstOnly_concat_of_not_mem hq, List.pairwise_append]
      refine ⟨hbefore, List.pairwise_singleton _ _, fun p hp p' hp' => ?_⟩
      obtain rfl := List.mem_singleton.1 hp'
      have hlt := List.idxOf_lt_length_of_mem (mem_firstOnly.1 hp)
      rw [List.idxOf_append_of_mem (mem_firstOnly.1 hp), List.idxOf_append_of_notMem hq]
      omega

theorem firstOnly_listsOnce (paths : List Path) : ListsOnce (firstOnly paths) paths where
  mem _ := mem_firstOnly
  once := (firstOnly_ordered paths).imp fun hlt heq => by
    rw [heq] at hlt
    exact lt_irrefl _ hlt
  ordered := firstOnly_ordered paths

/-- A search through a list is not changed by dropping repetitions. -/
theorem findSome?_firstOnly (paths : List Path) (look : Path → Option β) :
    (firstOnly paths).findSome? look = paths.findSome? look := by
  induction paths using List.reverseRecOn with
  | nil => rfl
  | append_singleton paths p ih =>
    rw [List.findSome?_append]
    by_cases hp : p ∈ paths
    · rw [firstOnly_concat_of_mem hp, ih]
      cases hfound : paths.findSome? look with
      | some b => rfl
      | none =>
        have hnone : look p = none := List.findSome?_eq_none_iff.1 hfound p hp
        rw [List.findSome?_singleton, hnone]
        rfl
    · rw [firstOnly_concat_of_not_mem hp, List.findSome?_append, ih]

theorem findSome?_flatMap (paths : List Path) (cut : Path → List String) (look : String → Option β) :
    (paths.flatMap cut).findSome? look = paths.findSome? fun p => (cut p).findSome? look := by
  induction paths with
  | nil => rfl
  | cons p paths ih =>
    rw [List.flatMap_cons, List.findSome?_append, List.findSome?_cons, ih]
    cases (cut p).findSome? look <;> rfl

/-- The same holds if every path stands for several directories. -/
theorem findFile?_firstOnly (files : FileSystem) (parts : List String) (cut : Path → List String)
    (paths others : List Path) :
    findFile? files parts ((firstOnly paths ++ others).flatMap cut)
      = findFile? files parts ((paths ++ others).flatMap cut) := by
  rw [findFile?_eq_findSome?, findFile?_eq_findSome?, findSome?_flatMap, findSome?_flatMap,
    List.findSome?_append, List.findSome?_append, findSome?_firstOnly]

/-! ## The search path of a run -/

theorem split_join (paths : List Path) : split (join paths) = paths.flatMap fun p => split p.text := by
  rw [join, split_intercalate, List.flatMap_map]

/-- Where input files contribute the directories that they are in, the search path has each of these once, in the
    order of the files, and behind them all include directories. In its entries, and in the directories that the
    engine gets, every template is found where it would be found if each file had contributed its directory. -/
theorem parents_once (fs : FileSystem) (files : List InputFile) (includeDirs : List Path) :
    let parents := files.map fun f => (f.path.absolute fs.workPath).parent
    let dirs := includeDirs.map (·.absolute fs.workPath)
    ∃ own, ListsOnce own parents ∧
      (∀ text, (resolve fs files includeDirs .directories).2 = .ok text ↔
        ((∀ f ∈ files, IsFixed fs f.path) ∧ ∀ p ∈ includeDirs, IsFixed fs p) ∧ text = join (own ++ dirs)) ∧
      ∀ (A : FileSystem) (name : String),
        (∀ parts, nameParts? name = some parts →
          findFile? A parts ((own ++ dirs).map Path.text) = findFile? A parts ((parents ++ dirs).map Path.text)) ∧
        FindAlike A name (join (own ++ dirs)) (join (parents ++ dirs)) := by
  intro parents dirs
  have hentries : entries fs files includeDirs .directories = firstOnly parents ++ dirs := by
    simp only [entries, inputLocations, List.map_map, parents, dirs]
    rfl
  refine ⟨firstOnly parents, firstOnly_listsOnce parents, fun text => ?_, fun A name => ⟨fun parts _ => ?_, ?_⟩⟩
  · rw [resolve_eq_ok, hentries]
  · have hfind := findFile?_firstOnly A parts (fun p => [p.text]) parents dirs
    rwa [← List.map_eq_flatMap, ← List.map_eq_flatMap] at hfind
  · refine findAlike_of_findFile? fun parts _ => ?_
    rw [split_join, split_join]
    exact findFile?_firstOnly A parts _ parents dirs

end SearchPath

end TemplateTree
