import TemplateTree.Proofs.Compile.Targets
import TemplateTree.Proofs.FileSystem.Entries
import TemplateTree.Proofs.SearchPath.Finding

/-!
# Input files on the search path

Where input files contribute themselves to the search path, their entries do nothing: nothing lies below a path that
leads to no directory. So a template finds what the include directories have and nothing else, not even the files
beside it, unless its name says nothing and an entry itself is meant.

* `stamp?_descend`: there is no file below a path that leads to no directory.
* `nameParts_ne_nil`: the names of templates that say something.
* `files_inert`: the engine finds the same templates without the input files.
-/

namespace TemplateTree

namespace FileSystem

variable {fs : FileSystem} {p : Path} {x : Location} {names : List String}

/-- A path that can be followed to a directory leads to directories all the way. -/
theorem exists_leadsTo_of_descend (hfs : fs.WellFormed) (hp : p.isAbsolute = true)
    (h : fs.LeadsTo (p.descend names) x) : ∃ y, fs.LeadsTo p y := by
  induction names using List.reverseRecOn generalizing x with
  | nil =>
    rw [Path.descend_nil] at h
    exact ⟨x, h⟩
  | append_singleton names name ih =>
    rw [Path.descend_concat] at h
    obtain ⟨-, s, hs, -⟩ := h
    obtain ⟨y, hy⟩ := leadsTo_of_child (p := p.descend names) hfs hp hs
    exact ih hy

/-- There is no file below a path that leads to no directory. -/
theorem stamp?_descend (hfs : fs.WellFormed) (hp : p.isAbsolute = true) (hdir : fs.isDir p ≠ .ok true)
    (hnames : names ≠ []) : Template.stamp? fs (p.descend names) = none := by
  cases hstamp : Template.stamp? fs (p.descend names) with
  | none => rfl
  | some stamp =>
    obtain ⟨content, mode, hlook⟩ := Template.stamp?_eq_some.1 hstamp
    obtain ⟨hnul, s, hs, -⟩ := (look_eq_ok (p := p.descend names) hp).1 hlook
    obtain ⟨front, name, rfl⟩ := names.eq_nil_or_concat'.resolve_left hnames
    rw [Path.descend_concat] at hs
    obtain ⟨y, hy⟩ := leadsTo_of_child (p := p.descend front) hfs hp hs
    have hnul' : hasNul p = false := by
      rw [hasNul, Path.descend, List.any_append, Bool.or_eq_false_iff] at hnul
      exact hnul.1
    exact absurd ((isDir_eq_true hp).2 ⟨hnul', exists_leadsTo_of_descend hfs hp hy⟩) hdir

end FileSystem

namespace SearchPath

open Template

variable {fs A : FileSystem} {files : List InputFile} {includeDirs paths others : List Path} {parts : List String}
  {name text : String}

/-! ## Entries that do nothing -/

/-- An entry is read back from the search path as it was put there, and has nothing below it. -/
theorem fileBelow?_text (hA : A.WellFormed) {p : Path} (hp : p.isAbsolute = true) (htidy : p.IsTidy)
    (hdir : A.isDir p ≠ .ok true) (hparts : parts ≠ []) : fileBelow? A parts p.text = none := by
  rw [fileBelow?, Path.parse_text htidy, FileSystem.stamp?_descend hA hp hdir hparts]
  rfl

/-- Plain entries in front of a search path stand there as they are. -/
theorem split_join_append (hpaths : ∀ p ∈ paths, p.isAbsolute = true) (hplain : ∀ p ∈ paths, IsPlainEntry p) :
    split (join (paths ++ others)) = paths.map Path.text ++ split (join others) := by
  rw [← (split_join_eq_iff hpaths).2 hplain, split_join, split_join, split_join, List.flatMap_append]

/-- A template whose name says something is looked for below the directories. -/
theorem nameParts_ne_nil (hname : ∃ piece ∈ name.toList.splitOn '/', piece ≠ [] ∧ piece ≠ ['.'])
    (hparts : nameParts? name = some parts) : parts ≠ [] := by
  obtain ⟨piece, hpiece, hne, hdot⟩ := hname
  unfold nameParts? at hparts
  dsimp only at hparts
  split_ifs at hparts
  obtain rfl := Option.some.inj hparts
  have hmem : String.ofList piece ∈ Path.names name.toList := by
    refine List.mem_filter.2 ⟨List.mem_map_of_mem ?_, ?_⟩
    · rwa [Path.splitSlash_eq_splitOn]
    · have hempty : String.ofList piece ≠ "" := fun h => hne (String.ofList_injective h)
      have hsingle : String.ofList piece ≠ "." := fun h => hdot (String.ofList_injective h)
      simp [Path.isName, hempty, hsingle]
  exact List.ne_nil_of_mem hmem

/-! ## The search path of a run -/

/-- Where input files contribute themselves, and lead to no directories, the engine finds the same templates as with
    the include directories alone. So every file that it finds lies below one of these. The paths of the files are tidy
    as paths are that have been read from a text. -/
theorem files_inert (hA : A.WellFormed) (htidy : ∀ f ∈ files, (f.path.absolute fs.workPath).IsTidy)
    (hplain : ∀ f ∈ files, IsPlainEntry (f.path.absolute fs.workPath))
    (hdir : ∀ f ∈ files, A.isDir (f.path.absolute fs.workPath) ≠ .ok true)
    (htext : (resolve fs files includeDirs .files).2 = .ok text)
    (hname : ∃ piece ∈ name.toList.splitOn '/', piece ≠ [] ∧ piece ≠ ['.']) :
    ∃ alone, (resolve fs [] includeDirs .files).2 = .ok alone ∧ FindAlike A name text alone ∧
      ∀ config s p stamp, (configuredLibrary config text s A).found? name = some (p, stamp) →
        ∃ dir ∈ split alone, ∃ parts, nameParts? name = some parts ∧ p = (Path.parse dir).descend parts := by
  obtain ⟨⟨-, hdirs⟩, rfl⟩ := resolve_eq_ok.1 htext
  let own := files.map fun f => f.path.absolute fs.workPath
  let dirs := includeDirs.map (·.absolute fs.workPath)
  have habs : ∀ p ∈ own, p.isAbsolute = true := by
    intro p hp
    obtain ⟨f, -, rfl⟩ := List.mem_map.1 hp
    exact f.path.isAbsolute_absolute rfl
  have hsplit : split (join (own ++ dirs)) = own.map Path.text ++ split (join dirs) :=
    split_join_append habs (List.forall_mem_map.2 hplain)
  have hfind : ∀ parts, nameParts? name = some parts →
      findFile? A parts (split (join (own ++ dirs))) = findFile? A parts (split (join dirs)) := by
    intro parts hparts
    have hne := nameParts_ne_nil hname hparts
    have hown : (own.map Path.text).findSome? (fileBelow? A parts) = none := by
      rw [List.findSome?_eq_none_iff]
      intro dir hmem
      obtain ⟨p, hp, rfl⟩ := List.mem_map.1 hmem
      obtain ⟨f, hf, rfl⟩ := List.mem_map.1 hp
      exact fileBelow?_text hA (habs _ hp) (htidy f hf) (hdir f hf) hne
    rw [hsplit, findFile?_eq_findSome?, findFile?_eq_findSome?, List.findSome?_append, hown]
    rfl
  refine ⟨join dirs, resolve_eq_ok.2 ⟨⟨nofun, hdirs⟩, rfl⟩, findAlike_of_findFile? hfind, ?_⟩
  intro config s p stamp hfound
  obtain ⟨parts, hparts, hfound⟩ := Option.bind_eq_some_iff.1 hfound
  have hbelow : findFile? A parts (split (join (own ++ dirs))) = some (p, stamp) := hfound
  rw [hfind parts hparts, findFile?_eq_findSome?] at hbelow
  obtain ⟨dir, hmem, hlook⟩ := List.exists_of_findSome?_eq_some hbelow
  obtain ⟨_, -, heq⟩ := Option.map_eq_some_iff.1 hlook
  exact ⟨dir, hmem, parts, hparts, (Prod.mk.inj heq).1.symm⟩

/-- A directory with two templates, and an include directory. -/
def twoTemplates : FileSystem where
  nodes := [
    (["s"], .directory), (["s", "a"], .file .empty FileSystem.defaultMode 0),
    (["s", "b"], .file .empty FileSystem.defaultMode 0), (["inc"], .directory)]
  workDir := []
  workDirLost := false
  clock := 1

/-- One of two templates does not find the other one. -/
theorem files_inert_beside :
    let file (name : String) (h : [name].all isSegment = true) : InputFile := ⟨[name], ⟨.single, ["s", name]⟩, h⟩
    let files := [file "a" (by decide), file "b" (by decide)]
    FindAlike twoTemplates "b" "/s/a, /s/b, /inc" "/inc" ∧
      (resolve twoTemplates files [⟨.single, ["inc"]⟩] .files).2 = .ok "/s/a, /s/b, /inc" ∧
      (configuredLibrary {} "/s/a, /s/b, /inc" .fresh twoTemplates).found? "b" = none := by
  intro file files
  have hA : twoTemplates.WellFormed := FileSystem.wellFormed_of_nodes (by decide) (by decide) (by decide)
  have hresolve : (resolve twoTemplates files [⟨.single, ["inc"]⟩] .files).2 = .ok "/s/a, /s/b, /inc" := by
    decide +kernel
  have hname : ∃ piece ∈ "b".toList.splitOn '/', piece ≠ [] ∧ piece ≠ ['.'] := by decide +kernel
  obtain ⟨alone, halone, hfind, -⟩ := files_inert hA (by decide +kernel) (by decide +kernel) (by decide +kernel)
    hresolve hname
  have hinc : alone = "/inc" := Except.ok.inj (halone.symm.trans (by decide +kernel))
  rw [hinc] at hfind
  refine ⟨hfind, hresolve, ?_⟩
  rw [hfind.found]
  decide +kernel

-- A name that says nothing leads to the first input file itself.
example :
    ((configuredLibrary {} "/s/a, /s/b, /inc" .fresh twoTemplates).found? ".").map (·.1) = some ⟨.single, ["s", "a"]⟩ := by
  decide +kernel

end SearchPath

end TemplateTree
