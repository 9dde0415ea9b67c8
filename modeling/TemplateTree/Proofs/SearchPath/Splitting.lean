import TemplateTree.Proofs.SearchPath.NormalForm
import TemplateTree.Proofs.SearchPath.Resolving
import TemplateTree.Template.Engine

/-!
# Splitting a search path

The search path of a run is written as one text, and the template engine splits that text into directories.
Splitting cuts every entry by itself, at its commas, and takes blanks off. So the engine gets the directories
that were asked for as long as none of them has a comma, or a blank at its end; one that has is lost.

* `cuts_join`: a search path is split entry by entry.
* `IsPlainEntry`, `split_join_eq_iff`: the entries that are found again.
* `split_resolve`: the directories that the engine gets.
-/

namespace TemplateTree

namespace Path

/-- The text of an absolute path starts with a slash. -/
theorem exists_text_of_isAbsolute {p : Path} (hp : p.isAbsolute = true) :
    ∃ rest, p.text.toList = '/' :: rest := by
  obtain ⟨root, parts⟩ := p
  cases root with
  | relative => cases hp
  | single => exact ⟨("/".intercalate parts).toList, by simp [text, rootText]⟩
  | double => exact ⟨'/' :: ("/".intercalate parts).toList, by simp [text, rootText]⟩

end Path

namespace SearchPath

variable {paths : List Path}

/-! ## Entries that are found again -/

/-- A search path is split entry by entry. -/
theorem cuts_join (paths : List Path) : cuts (join paths).toList = paths.flatMap fun p => cuts p.text.toList := by
  rw [join, cuts_intercalate, List.flatMap_map]

/-- Whether a path is found again in a search path: it has no comma, and no blank at its end. -/
def IsPlainEntry (p : Path) : Prop :=
  ',' ∉ p.text.toList ∧ ∀ c ∈ p.text.toList.getLast?, Text.isBlank c = false

-- Only the last character is looked at, not all characters that there are.
instance : DecidablePred IsPlainEntry := fun p =>
  have : Decidable (∀ c ∈ p.text.toList.getLast?, Text.isBlank c = false) := Option.decidableForallMem _
  inferInstanceAs (Decidable (_ ∧ _))

/-- That is all that an absolute path lacks of an entry, since its text starts with a slash. -/
theorem isPlainEntry_iff {p : Path} (hp : p.isAbsolute = true) : IsPlainEntry p ↔ IsEntry p.text := by
  obtain ⟨rest, hrest⟩ := Path.exists_text_of_isAbsolute hp
  constructor
  · rintro ⟨hcomma, hlast⟩
    refine ⟨?_, hcomma, ?_, hlast⟩
    · intro hempty
      rw [hempty] at hrest
      cases hrest
    · rw [hrest]
      rintro _ ⟨⟩
      decide
  · exact fun h => ⟨h.no_comma, h.last⟩

/-- A search path is split into the entries that it was made of just when all of them are plain. -/
theorem split_join_eq_iff (hpaths : ∀ p ∈ paths, p.isAbsolute = true) :
    split (join paths) = paths.map Path.text ↔ ∀ p ∈ paths, IsPlainEntry p := by
  rw [join, split_intercalate_eq_iff, List.forall_mem_map]
  exact forall₂_congr fun p hp => (isPlainEntry_iff (hpaths p hp)).symm

/-- What the engine gets for a search path. There is one if every input file and include directory has an
    absolute form. The engine gets what each of its entries is cut into, in their order; these are the entries
    themselves, all of them and character for character, just when none has a comma or a blank at its end. -/
theorem split_resolve (fs : FileSystem) (files : List InputFile) (includeDirs : List Path)
    (mode : IncludePathMode) (config : EngineConfig) (s : Template.Session) :
    let resolved := (resolve fs files includeDirs mode).2
    let paths := entries fs files includeDirs mode
    (resolved.isOk = true ↔ (∀ f ∈ files, IsFixed fs f.path) ∧ ∀ p ∈ includeDirs, IsFixed fs p) ∧
      ∀ text, resolved = .ok text →
        (Template.configure { config with searchPath := text } s).1.library.searchPath = split text ∧
          split text = (paths.flatMap fun p => split p.text) ∧
          (split text = paths.map Path.text ↔ ∀ p ∈ paths, IsPlainEntry p) := by
  intro resolved paths
  refine ⟨⟨fun h => ?_, fun h => ?_⟩, fun text htext => ?_⟩
  · cases hresolved : resolved with
    | error e =>
      rw [hresolved] at h
      cases h
    | ok text => exact (resolve_eq_ok.1 hresolved).1
  · rw [show resolved = .ok _ from resolve_eq_ok.2 ⟨h, rfl⟩]
    rfl
  · obtain ⟨-, rfl⟩ := resolve_eq_ok.1 htext
    refine ⟨rfl, ?_, split_join_eq_iff fun p hp => isAbsolute_of_mem_entries hp⟩
    simp only [split_eq, cuts_join, List.map_flatMap]
    rfl

/-- A directory with a comma in its name is cut in two. -/
theorem split_resolve_comma :
    let path : Path := ⟨.single, ["a,b"]⟩
    let resolved := (resolve (FileSystem.empty []) [] [path] .files).2
    resolved = .ok "/a,b" ∧
      (Template.configure { searchPath := "/a,b" } .fresh).1.library.searchPath = ["/a", "b"] ∧
      ¬IsPlainEntry path := by
  intro path resolved
  have hresolved : resolved = .ok "/a,b" := by decide +kernel
  have hsplit : split "/a,b" = ["/a", "b"] := by decide +kernel
  obtain ⟨-, hgiven⟩ := split_resolve (FileSystem.empty []) [] [path] .files {} .fresh
  obtain ⟨hconfigured, -, hplain⟩ := hgiven "/a,b" hresolved
  refine ⟨hresolved, hconfigured.trans hsplit, fun hpath => ?_⟩
  have hentries : entries (FileSystem.empty []) [] [path] .files = [path] := rfl
  rw [hentries, hsplit] at hplain
  have hwhole := hplain.2 (by simpa using hpath)
  revert hwhole
  decide +kernel

end SearchPath

end TemplateTree
