import TemplateTree.Proofs.Output.Reporting
import TemplateTree.Proofs.SearchPath.Resolving

/-!
# Searching source directories

A search for input files finds files at paths from the root directory without NUL characters. Where it fails
over a source that is no directory, it says so. It can also fail over a source with a name that is too long,
over an entry that no input file can stand for, and for want of a current directory.

* `Collected.mem_each`, `Collected.failure_each`: searches one after the other.
* `Misnamed`: an entry that is accepted under a name that no input file can have.
* `SourceDefect`, `collect_failed`: why a search fails.
* `collect_files`: what is found.
-/

namespace TemplateTree

open FileSystem Output

variable {fs : FileSystem}

/-! ## One search after the other -/

namespace Collected

variable {α : Type} {f : α → Collected} {xs : List α}

theorem mem_andThen {a : Collected} {b : Unit → Collected} {file : InputFile}
    (h : file ∈ (a.andThen b).files) : file ∈ a.files ∨ file ∈ (b ()).files := by
  unfold andThen at h
  split at h
  · exact .inl h
  · exact List.mem_append.1 h

theorem failure_andThen {a : Collected} {b : Unit → Collected} {failure : Failure}
    (h : (a.andThen b).failure = some failure) : a.failure = some failure ∨ (b ()).failure = some failure := by
  unfold andThen at h
  split at h
  · exact .inl h
  · exact .inr h

theorem mem_each {file : InputFile} (h : file ∈ (each f xs).files) : ∃ x ∈ xs, file ∈ (f x).files := by
  induction xs with
  | nil => cases h
  | cons x xs ih =>
    obtain h | h := mem_andThen h
    · exact ⟨x, List.mem_cons_self, h⟩
    · obtain ⟨y, hy, h⟩ := ih h
      exact ⟨y, List.mem_cons_of_mem _ hy, h⟩

theorem failure_each {failure : Failure} (h : (each f xs).failure = some failure) :
    ∃ x ∈ xs, (f x).failure = some failure := by
  induction xs with
  | nil => cases h
  | cons x xs ih =>
    obtain h | h := failure_andThen h
    · exact ⟨x, List.mem_cons_self, h⟩
    · obtain ⟨y, hy, h⟩ := ih h
      exact ⟨y, List.mem_cons_of_mem _ hy, h⟩

end Collected

/-! ## One directory -/

namespace SourceSet

variable {s : SourceSet} {path : Path} {segments : List String}

/-- An entry below a directory, with a relative path that the set accepts and that no input file can have. -/
structure Misnamed (s : SourceSet) (fs : FileSystem) (path : Path) (segments : List String) : Prop where
  accepted : s.accepts ("/".intercalate segments) = true
  refused : segments.all isSegment = false
  there : ∃ front name d, segments = front ++ [name] ∧ fs.LeadsTo (path.descend front) d ∧
    (fs.node? (d ++ [name])).isSome

/-- The failure over such a path. -/
def misnaming (segments : List String) : Failure :=
  .invalid [⟨[.field "relative_path"],
    .refused (InputFile.badSegment ((segments.find? (!isSegment ·)).getD ""))⟩]

theorem mem_file {file : InputFile} (h : file ∈ (s.file segments path).files) :
    file.segments = segments ∧ file.path = path := by
  unfold SourceSet.file InputFile.make at h
  split_ifs at h
  · obtain rfl := List.mem_singleton.1 h
    exact ⟨rfl, rfl⟩
  · cases h
  · cases h

theorem failure_file {failure : Failure} (h : (s.file segments path).failure = some failure) :
    s.accepts ("/".intercalate segments) = true ∧ segments.all isSegment = false ∧
      failure = misnaming segments := by
  unfold SourceSet.file at h
  by_cases haccepts : s.accepts ("/".intercalate segments) = true
  · rw [if_pos haccepts] at h
    unfold InputFile.make at h
    split_ifs at h with hsegments
    exact ⟨haccepts, by simpa using hsegments, (Option.some.inj h).symm⟩
  · rw [if_neg haccepts] at h
    cases h

/-- What is found below a directory, and over what the walk fails. -/
structure Walked (s : SourceSet) (fs : FileSystem) (path : Path) (found : Collected) : Prop where
  files : ∀ file ∈ found.files, file.path = path.descend file.segments ∧ hasNul file.path = false
  failure : ∀ failure, found.failure = some failure →
    ∃ segments, Misnamed s fs path segments ∧ failure = misnaming segments

theorem Walked.nothing (s : SourceSet) (fs : FileSystem) (path : Path) : Walked s fs path .nothing :=
  ⟨nofun, nofun⟩

theorem Walked.each {α : Type} {f : α → Collected} {xs : List α} (h : ∀ x ∈ xs, Walked s fs path (f x)) :
    Walked s fs path (Collected.each f xs) := by
  constructor
  · intro file hfile
    obtain ⟨x, hx, hfile⟩ := Collected.mem_each hfile
    exact (h x hx).files file hfile
  · intro failure hfailure
    obtain ⟨x, hx, hfailure⟩ := Collected.failure_each hfailure
    exact (h x hx).failure failure hfailure

theorem Walked.andThen {a : Collected} {b : Unit → Collected} (ha : Walked s fs path a)
    (hb : Walked s fs path (b ())) : Walked s fs path (a.andThen b) := by
  constructor
  · intro file hfile
    exact (Collected.mem_andThen hfile).elim (ha.files file) (hb.files file)
  · intro failure hfailure
    exact (Collected.failure_andThen hfailure).elim (ha.failure failure) (hb.failure failure)

theorem walk_walked (s : SourceSet) (path : Path) (hfs : HasPlainNames fs) (depth : Nat) (segments : List String) :
    Walked s fs path (s.walk fs depth segments (path.descend segments)) := by
  induction depth generalizing segments with
  | zero => exact .nothing s fs path
  | succ depth ih =>
    rw [walk]
    split
    · exact .nothing s fs path
    · rename_i listing hscan
      obtain ⟨d, hd, -, hothers⟩ := scan_eq_ok hscan
      refine .andThen (.each fun name hname => ?_) (.each fun name hname => ?_)
      · have hmem : name ∈ fs.children d := (List.mem_filter.1 (hothers ▸ hname)).1
        constructor
        · intro file hfile
          obtain ⟨hsegments, hpath⟩ := mem_file hfile
          rw [hpath, hsegments, Path.descend_concat]
          exact ⟨rfl, hfs.child (hasNul_of_scan hscan) hmem⟩
        · intro failure hfailure
          obtain ⟨haccepted, hrefused, rfl⟩ := failure_file hfailure
          exact ⟨_, ⟨haccepted, hrefused, segments, name, d, rfl, hd, mem_children.1 hmem⟩, rfl⟩
      · split_ifs
        · exact .nothing s fs path
        · rw [← Path.descend_concat]
          exact ih _

theorem walked (hfs : fs.WellFormed) (s : SourceSet) (path : Path) :
    Walked s fs path (s.walk fs (fs.nodes.length + 1) [] path) := by
  have hwalk := walk_walked s path (hasPlainNames_of_wellFormed hfs) (fs.nodes.length + 1) []
  rwa [Path.descend_nil] at hwalk

end SourceSet

/-! ## All sources -/

/-- What can be wrong with sources that is not said to be a failure of the search: a name in the path of one is
    too long, or an entry in one is accepted that no input file can stand for. -/
inductive SourceDefect (s : SourceSet) (fs : FileSystem) : Failure → Prop
  | tooLong {source : Path} (hsource : source ∈ s.roots) (h : MeetsLongName fs source) :
      SourceDefect s fs (.raw (.about .nameTooLong source.text))
  | misnamed {source path : Path} {segments : List String} (hsource : source ∈ s.roots)
      (hpath : fs.absolute source = .ok path) (h : s.Misnamed fs path segments) :
      SourceDefect s fs (SourceSet.misnaming segments)

namespace SourceSet

variable {s : SourceSet} {source : Path}

/-- A search that fails says over which source it has failed, or fails over a defect, or for want of a current
    directory. -/
theorem collect_failed (hfs : fs.WellFormed) {failure : Failure} (h : (s.collect fs).failure = some failure) :
    IsIo failure ∨ SourceDefect s fs failure ∨
      (fs.workDirLost = true ∧ failure = .raw SearchPath.workDirError) := by
  obtain ⟨source, hsource, h⟩ := Collected.failure_each h
  unfold walkRoot at h
  split at h
  · obtain ⟨hlong, rfl⟩ := asks_error ‹_›
    cases h
    exact .inr (.inl (.tooLong hsource ⟨_, hlong⟩))
  · cases h
    exact .inl ⟨_, _, _, rfl⟩
  · split at h
    · obtain ⟨hlost, rfl⟩ := SearchPath.absolute_error ‹_›
      cases h
      exact .inr (.inr ⟨hlost, rfl⟩)
    · rename_i path hpath
      obtain ⟨segments, hsegments, rfl⟩ := (walked hfs s path).failure _ h
      exact .inr (.inl (.misnamed hsource hpath hsegments))

/-- The files that are found lie at paths from the root directory, and have no NUL characters in their paths. -/
theorem collect_files (hfs : fs.WellFormed) {file : InputFile} (h : file ∈ (s.collect fs).files) :
    file.path.isAbsolute = true ∧ file.hasNul = false := by
  obtain ⟨source, -, h⟩ := Collected.mem_each h
  unfold walkRoot at h
  split at h
  · cases h
  · cases h
  · split at h
    · cases h
    · rename_i path hpath
      obtain ⟨hfile, hnul⟩ := (walked hfs s path).files file h
      refine ⟨?_, ?_⟩
      · rw [hfile, Path.isAbsolute_descend]
        exact isAbsolute_of_absolute hpath
      · rw [InputFile.hasNul, hnul, Bool.false_or]
        rw [hfile, InputFile.hasNul_descend, Bool.or_eq_false_iff] at hnul
        exact hnul.2

end SourceSet

end TemplateTree
