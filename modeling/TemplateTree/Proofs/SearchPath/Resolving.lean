import Mathlib.Tactic.SplitIfs
import TemplateTree.Proofs.Attempts
import TemplateTree.SearchPath

/-!
# Resolving a search path

The search path of a run has the absolute form of every input file and include directory as an entry. There is
always one where the current directory is there; where it has been removed, only paths that need no directory
have an absolute form.

* `IsFixed`, `absolute_eq_ok`: which paths have an absolute form.
* `entries`, `resolve_eq_ok`: the entries of a search path, and when there is one.
* `resolve_failed`: the only error there is.
-/

namespace TemplateTree

namespace Path

theorem isAbsolute_absolute (p : Path) {cwd : Path} (hcwd : cwd.isAbsolute = true) :
    (p.absolute cwd).isAbsolute = true := by
  unfold absolute join
  split_ifs with hp
  · exact hp
  · exact hcwd

end Path

namespace SearchPath

open FileSystem

variable {fs : FileSystem} {files : List InputFile} {includeDirs paths : List Path} {mode : IncludePathMode}

/-! ## Absolute forms -/

/-- Whether a path has an absolute form: only a relative one needs the current directory. -/
def IsFixed (fs : FileSystem) (p : Path) : Prop :=
  fs.workDirLost = true → p.isAbsolute = true

theorem absolute_eq_ok {p q : Path} : fs.absolute p = .ok q ↔ IsFixed fs p ∧ p.absolute fs.workPath = q := by
  unfold FileSystem.absolute IsFixed
  split_ifs with habs hlost
  · simp [habs, Path.absolute, Path.join]
  · simp [habs, hlost]
  · simp [hlost]

theorem absolute_of_isFixed {p : Path} (h : IsFixed fs p) : fs.absolute p = .ok (p.absolute fs.workPath) :=
  absolute_eq_ok.2 ⟨h, rfl⟩

/-- The error of asking for a current directory that has been removed. -/
def workDirError : SystemError := .failed .noEntry Errno.noEntry.text none none

theorem absolute_error {p : Path} {e : SystemError} (h : fs.absolute p = .error e) :
    fs.workDirLost = true ∧ e = workDirError := by
  unfold FileSystem.absolute at h
  split_ifs at h with habs hlost
  cases h
  exact ⟨hlost, rfl⟩

/-! ## The entries -/

/-- The entries of the search path of a run: what the input files contribute, then the include directories. -/
def entries (fs : FileSystem) (files : List InputFile) (includeDirs : List Path) (mode : IncludePathMode) :
    List Path :=
  inputLocations mode (files.map fun f => f.path.absolute fs.workPath)
    ++ includeDirs.map (·.absolute fs.workPath)

theorem mapM_absolute_eq_ok :
    (files.mapM fun f => fs.absolute f.path) = .ok paths ↔
      (∀ f ∈ files, IsFixed fs f.path) ∧ (files.map fun f => f.path.absolute fs.workPath) = paths := by
  induction files generalizing paths with
  | nil => simp [pure, Except.pure]
  | cons f files ih =>
    rw [List.mapM_cons, List.forall_mem_cons, List.map_cons]
    constructor
    · intro h
      obtain ⟨q, hq, h⟩ := bind_eq_ok.1 h
      obtain ⟨qs, hqs, h⟩ := bind_eq_ok.1 h
      obtain ⟨hf, rfl⟩ := absolute_eq_ok.1 hq
      obtain ⟨hfiles, rfl⟩ := ih.1 hqs
      exact ⟨⟨hf, hfiles⟩, Except.ok.inj h⟩
    · rintro ⟨⟨hf, hfiles⟩, rfl⟩
      rw [absolute_of_isFixed hf, ih.2 ⟨hfiles, rfl⟩]
      rfl

theorem absoluteDirs_eq_none :
    absoluteDirs fs includeDirs = (paths, none) ↔
      (∀ p ∈ includeDirs, IsFixed fs p) ∧ includeDirs.map (·.absolute fs.workPath) = paths := by
  induction includeDirs generalizing paths with
  | nil => simp [absoluteDirs]
  | cons dir dirs ih =>
    rw [absoluteDirs, List.forall_mem_cons, List.map_cons]
    constructor
    · intro h
      cases hdir : fs.absolute dir with
      | error e => simp [hdir] at h
      | ok q =>
        obtain ⟨hfixed, rfl⟩ := absolute_eq_ok.1 hdir
        rw [hdir] at h
        obtain ⟨rfl, hnone⟩ := Prod.mk.inj h
        obtain ⟨hdirs, hpaths⟩ := ih.1 (Prod.ext rfl hnone)
        exact ⟨⟨hfixed, hdirs⟩, by rw [hpaths]⟩
    · rintro ⟨⟨hdir, hdirs⟩, rfl⟩
      rw [absolute_of_isFixed hdir, ih.2 ⟨hdirs, rfl⟩]

theorem absoluteDirs_failed {e : SystemError} (h : (absoluteDirs fs includeDirs).2 = some e) :
    ∃ p, fs.absolute p = .error e := by
  induction includeDirs with
  | nil => cases h
  | cons dir dirs ih =>
    rw [absoluteDirs] at h
    cases hdir : fs.absolute dir with
    | error e' =>
      rw [hdir] at h
      cases h
      exact ⟨dir, hdir⟩
    | ok q =>
      rw [hdir] at h
      exact ih h

/-! ## The search path -/

/-- There is a search path if every input file and include directory has an absolute form, and it has their
    entries. -/
theorem resolve_eq_ok {text : String} :
    (resolve fs files includeDirs mode).2 = .ok text ↔
      ((∀ f ∈ files, IsFixed fs f.path) ∧ ∀ p ∈ includeDirs, IsFixed fs p) ∧
        text = join (entries fs files includeDirs mode) := by
  unfold resolve
  constructor
  · intro h
    split at h
    · cases h
    · rename_i paths hpaths
      obtain ⟨hfiles, rfl⟩ := mapM_absolute_eq_ok.1 hpaths
      cases hdirs : absoluteDirs fs includeDirs with
      | mk dirs error =>
        rw [hdirs] at h
        cases error with
        | some e => cases h
        | none =>
          obtain ⟨hfixed, rfl⟩ := absoluteDirs_eq_none.1 hdirs
          exact ⟨⟨hfiles, hfixed⟩, (Except.ok.inj h).symm⟩
  · rintro ⟨⟨hfiles, hdirs⟩, rfl⟩
    rw [mapM_absolute_eq_ok.2 ⟨hfiles, rfl⟩]
    dsimp only
    rw [absoluteDirs_eq_none.2 ⟨hdirs, rfl⟩]
    rfl

/-- Otherwise some path has no absolute form, because the current directory has been removed. -/
theorem resolve_failed {e : SystemError} (h : (resolve fs files includeDirs mode).2 = .error e) :
    fs.workDirLost = true ∧ e = workDirError := by
  unfold resolve at h
  split at h
  · rename_i hfiles
    cases h
    obtain ⟨f, -, hf⟩ := mapM_error hfiles
    exact absolute_error hf
  · dsimp only at h
    split at h
    · rename_i hdirs
      cases h
      obtain ⟨p, hp⟩ := absoluteDirs_failed hdirs
      exact absolute_error hp
    · cases h

/-- Dropping repetitions adds nothing. -/
theorem mem_of_mem_firstOnly {p : Path} (h : p ∈ firstOnly paths) : p ∈ paths := by
  have hseen : ∀ (qs seen : List Path),
      p ∈ qs.foldl (fun seen q => if seen.contains q then seen else seen ++ [q]) seen → p ∈ seen ∨ p ∈ qs := by
    intro qs
    induction qs with
    | nil => exact fun seen h => .inl h
    | cons q qs ih =>
      intro seen h
      rw [List.foldl_cons] at h
      obtain h | h := ih _ h
      · split_ifs at h
        · exact .inl h
        · exact (List.mem_append.1 h).imp_right fun h => by simp [List.mem_singleton.1 h]
      · exact .inr (List.mem_cons_of_mem _ h)
  simpa using hseen paths [] h

theorem isAbsolute_of_mem_entries {p : Path} (hp : p ∈ entries fs files includeDirs mode) :
    p.isAbsolute = true := by
  have hhere : fs.workPath.isAbsolute = true := rfl
  have hlocation : ∀ q ∈ files.map (fun f => f.path.absolute fs.workPath), q.isAbsolute = true := by
    intro q hq
    obtain ⟨f, -, rfl⟩ := List.mem_map.1 hq
    exact f.path.isAbsolute_absolute hhere
  obtain hp | hp := List.mem_append.1 hp
  · cases mode with
    | files => exact hlocation p hp
    | directories =>
      obtain ⟨q, hq, rfl⟩ := List.mem_map.1 (mem_of_mem_firstOnly hp)
      exact hlocation q hq
  · obtain ⟨dir, -, rfl⟩ := List.mem_map.1 hp
    exact dir.isAbsolute_absolute hhere

end SearchPath

/-! ## Where the current directory is there -/

variable {A : FileSystem}

theorem isFixed_of_there (h : A.workDirLost = false) (p : Path) : SearchPath.IsFixed A p := fun hlost => by
  rw [h] at hlost
  cases hlost

theorem exists_absolute (h : A.workDirLost = false) (p : Path) : ∃ q, A.absolute p = .ok q :=
  ⟨_, SearchPath.absolute_of_isFixed (isFixed_of_there h p)⟩

/-- Where the current directory is there, every search path can be resolved. -/
theorem resolve_isOk (h : A.workDirLost = false) (files : List InputFile) (includeDirs : List Path)
    (mode : IncludePathMode) : (SearchPath.resolve A files includeDirs mode).2.isOk := by
  have hfixed : (∀ f ∈ files, SearchPath.IsFixed A f.path) ∧ ∀ p ∈ includeDirs, SearchPath.IsFixed A p :=
    ⟨fun f _ => isFixed_of_there h f.path, fun p _ => isFixed_of_there h p⟩
  rw [SearchPath.resolve_eq_ok.2 ⟨hfixed, rfl⟩]
  rfl

end TemplateTree
