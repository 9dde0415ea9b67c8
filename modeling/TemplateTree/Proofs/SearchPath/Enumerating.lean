import TemplateTree.Proofs.Compile.Targets
import TemplateTree.Proofs.FileSystem.Straight
import TemplateTree.Proofs.SearchPath.Collecting
import TemplateTree.Proofs.SearchPath.Listing

/-!
# What a search finds

A search for input files goes through the relative paths of what lies below its sources, and makes an input file of
each one that it accepts. It breaks off at the first one that no input file can have, and at a source that is no
directory or that cannot be asked about.

* `walk_eq_each`, `each_file`: what a walk does with the relative paths.
* `Lists`, `Breaks`, `Enumerates`: what is found, source by source.
* `collect_enumerates`: a search finds that.
-/

namespace TemplateTree

open FileSystem Output

variable {fs : FileSystem} {path : Path}

/-! ## Walks as lists -/

namespace Collected

variable {α β : Type} {f : β → Collected}

theorem nothing_andThen (b : Unit → Collected) : nothing.andThen b = b () := rfl

theorem andThen_assoc (a : Collected) (b c : Unit → Collected) :
    (a.andThen b).andThen c = a.andThen fun _ => (b ()).andThen c := by
  obtain ⟨files, log, failure⟩ := a
  cases failure with
  | some failure => rfl
  | none =>
    cases hb : (b ()).failure <;> simp [andThen, hb]

theorem each_append (xs ys : List β) : each f (xs ++ ys) = (each f xs).andThen fun _ => each f ys := by
  induction xs with
  | nil => rfl
  | cons x xs ih => rw [List.cons_append, each, each, ih, andThen_assoc]

theorem each_map (g : α → β) (xs : List α) : each f (xs.map g) = each (fun x => f (g x)) xs := by
  induction xs with
  | nil => rfl
  | cons x xs ih => rw [List.map_cons, each, each, ih]

theorem each_flatMap (g : α → List β) (xs : List α) :
    each f (xs.flatMap g) = each (fun x => each f (g x)) xs := by
  induction xs with
  | nil => rfl
  | cons x xs ih => rw [List.flatMap_cons, each_append, each, ih]

end Collected

namespace SourceSet

variable {s : SourceSet}

/-- Whether the file at a relative path belongs to the set. -/
def acceptsAt (s : SourceSet) (segments : List String) : Bool :=
  s.accepts ("/".intercalate segments)

/-- A file that is accepted becomes an input file if one can have its relative path. -/
theorem file_of_all {segments : List String} (h : segments.all isSegment = true) (path : Path) :
    s.file segments path = if s.acceptsAt segments then ⟨[⟨segments, path, h⟩], [], none⟩ else .nothing := by
  rw [SourceSet.file, acceptsAt, InputFile.make, dif_pos h]

/-- A walk does the same with each of these relative paths. -/
theorem walk_eq_each (s : SourceSet) (depth : Nat) (segments : List String) (path : Path) :
    s.walk fs depth segments path
      = Collected.each (fun names => s.file (segments ++ names) (path.descend names)) (fs.listed depth path) := by
  induction depth generalizing segments path with
  | zero => rfl
  | succ depth ih =>
    rw [walk, listed]
    cases fs.scan path with
    | error e => rfl
    | ok listing =>
      dsimp only
      rw [Collected.each_append, Collected.each_map, Collected.each_flatMap]
      congr 1
      funext _
      congr 1
      funext name
      split_ifs
      · rfl
      · rw [ih, Collected.each_map]
        simp [Path.descend, Path.child]

/-- Of the relative paths that are accepted, those before the first that no input file can have become input
    files, and over that the walk fails. -/
theorem each_file (path : Path) (all : List (List String)) :
    let accepted := all.filter s.acceptsAt
    let found := Collected.each (fun segments => s.file segments (path.descend segments)) all
    found.files.map (·.segments) = accepted.takeWhile (·.all isSegment) ∧
      (∀ file ∈ found.files, file.path = path.descend file.segments) ∧
      found.failure = (accepted.find? fun segments => !segments.all isSegment).map misnaming := by
  induction all with
  | nil => exact ⟨rfl, List.forall_mem_nil _, rfl⟩
  | cons segments all ih =>
    obtain ⟨hfiles, hpath, hfailure⟩ := ih
    dsimp only
    rw [Collected.each]
    cases haccepts : s.acceptsAt segments with
    | false =>
      have hnothing : s.file segments (path.descend segments) = .nothing := by
        simp only [acceptsAt] at haccepts
        simp [SourceSet.file, haccepts]
      rw [hnothing, Collected.nothing_andThen, List.filter_cons_of_neg (by simp [haccepts])]
      exact ⟨hfiles, hpath, hfailure⟩
    | true =>
      rw [List.filter_cons_of_pos haccepts]
      by_cases hsegments : segments.all isSegment = true
      · rw [file_of_all hsegments, if_pos haccepts, List.takeWhile_cons_of_pos (by simpa using hsegments),
          List.find?_cons_of_neg (by simp [hsegments])]
        exact ⟨congrArg (segments :: ·) hfiles, List.forall_mem_cons.2 ⟨rfl, hpath⟩, hfailure⟩
      · have hfile : s.file segments (path.descend segments) = ⟨[], [], some (misnaming segments)⟩ := by
          rw [acceptsAt] at haccepts
          simp only [SourceSet.file, haccepts, InputFile.make, hsegments, if_true]
          rfl
        rw [hfile, List.takeWhile_cons_of_neg (by simpa using hsegments), List.find?_cons_of_pos (by simpa using hsegments)]
        exact ⟨rfl, List.forall_mem_nil _, rfl⟩

end SourceSet

/-! ## What is found -/

/-- Whether every name in a file system is the name of an entry: not empty, no dot, and without a slash. The
    system sees to that. -/
def FileSystem.HasEntryNames (fs : FileSystem) : Prop :=
  ∀ at_ name node, fs.node? (at_ ++ [name]) = some node → Path.IsOneName name

theorem FileSystem.hasEntryNames_of_nodes (h : ∀ e ∈ fs.nodes, ∀ name ∈ e.1.getLast?, Path.IsOneName name) :
    fs.HasEntryNames :=
  fun _ name _ hnode => h _ (mem_nodes_of_node? (by simp) hnode) name (by simp)

/-- Every name in the relative path of what lies below a directory is the name of an entry. -/
theorem FileSystem.Lies.exists_node {segments : List String} {name : String} (hfs : fs.WellFormed)
    (h : fs.Lies path segments) (hname : name ∈ segments) : ∃ at_ node, fs.node? (at_ ++ [name]) = some node := by
  obtain ⟨-, ⟨x, -, hthere⟩, -⟩ := h
  obtain ⟨front, back, hsplit⟩ := List.append_of_mem (List.mem_append_right x hname)
  rw [hsplit, List.append_cons] at hthere
  by_cases hback : back = []
  · obtain ⟨node, hnode⟩ := Option.isSome_iff_exists.1 hthere
    exact ⟨front, node, by simpa [hback] using hnode⟩
  · refine ⟨front, .directory, hfs.directory_above hthere (List.prefix_append _ _) ?_⟩
    exact fun heq => hback (by simpa using heq)

/-- What can be found under a source: the accepted relative paths of what lies below it, in order. -/
structure Lists (s : SourceSet) (fs : FileSystem) (source path : Path) (all : List (List String)) : Prop where
  isDir : fs.isDir source = .ok true
  absolute : fs.absolute source = .ok path
  ordered : all.Pairwise ComesBefore
  mem : ∀ segments, segments ∈ all ↔ fs.Lies path segments ∧ s.accepts ("/".intercalate segments) = true

/-- The input files with some relative paths below a directory. -/
def AreAt (path : Path) (all : List (List String)) (files : List InputFile) : Prop :=
  files.map (·.segments) = all ∧ ∀ file ∈ files, path.joinAll file.segments = file.path

/-- Whether there is a backslash in a relative path. -/
def HasBackslash (segments : List String) : Prop :=
  ∃ name ∈ segments, '\\' ∈ name.toList

/-- How a search breaks off at a source, and what it has found there before. -/
inductive Breaks (s : SourceSet) (fs : FileSystem) (source : Path) : List InputFile → Failure → Prop
  | notDirectory (h : fs.isDir source = .ok false) :
      Breaks s fs source [] (.io "read source directory" source "not a directory")
  | backslash {path : Path} {all front back : List (List String)} {bad : List String} {files : List InputFile}
      (hlists : Lists s fs source path all) (hall : all = front ++ bad :: back)
      (hfront : ∀ segments ∈ front, ¬HasBackslash segments) (hbad : HasBackslash bad)
      (hfiles : AreAt path front files) : Breaks s fs source files (SourceSet.misnaming bad)
  | tooLong (h : MeetsLongName fs source) : Breaks s fs source [] (.raw (.about .nameTooLong source.text))
  | lost (hdir : fs.isDir source = .ok true) (hlost : fs.workDirLost = true) (hrelative : source.isAbsolute = false) :
      Breaks s fs source [] (.raw SearchPath.workDirError)

/-- What a search finds under some sources, and how it ends: it finds everything there is, source by source, until
    it breaks off. -/
inductive Enumerates (s : SourceSet) (fs : FileSystem) : List Path → List InputFile → Option Failure → Prop
  | done : Enumerates s fs [] [] none
  | source {source path : Path} {sources : List Path} {all : List (List String)} {files more : List InputFile}
      {failure : Option Failure} (hlists : Lists s fs source path all)
      (hall : ∀ segments ∈ all, ¬HasBackslash segments) (hfiles : AreAt path all files)
      (hmore : Enumerates s fs sources more failure) : Enumerates s fs (source :: sources) (files ++ more) failure
  | breaks {source : Path} {sources : List Path} {files : List InputFile} {failure : Failure}
      (h : Breaks s fs source files failure) : Enumerates s fs (source :: sources) files (some failure)

namespace SourceSet

variable {s : SourceSet} {source : Path} {segments : List String}

/-- Of what lies below a directory, an input file cannot stand for what has a backslash in its relative path. -/
theorem all_isSegment_iff (hfs : fs.WellFormed) (hnames : fs.HasEntryNames) (h : fs.Lies path segments) :
    segments.all isSegment = true ↔ ¬HasBackslash segments := by
  have hentry : ∀ name ∈ segments, isSegment name = true ↔ '\\' ∉ name.toList := by
    intro name hname
    obtain ⟨at_, node, hnode⟩ := h.exists_node hfs hname
    have hup := (hfs.named at_ name node hnode).1
    obtain ⟨hname, hslash⟩ := hnames at_ name node hnode
    have hne : name ≠ "" ∧ name ≠ "." := by simpa [Path.isName] using hname
    rw [isSegment_iff]
    tauto
  simp only [List.all_eq_true, HasBackslash, not_exists, not_and]
  exact forall₂_congr hentry

/-- The relative paths that a walk of a source goes through are those of what lies below it. -/
theorem mem_listed_of_isDir (hfs : fs.WellFormed) (hdir : fs.isDir source = .ok true)
    (habs : fs.absolute source = .ok path) :
    segments ∈ fs.listed (fs.nodes.length + 1) path ↔ fs.Lies path segments := by
  obtain ⟨hnul, x, hx⟩ := leadsTo_of_isDir hfs hdir habs
  refine mem_listed hfs (isAbsolute_of_absolute habs) hnul hx fun names hthere => ?_
  have := length_le_nodes hfs hthere
  rw [List.length_append] at this
  omega

/-- What is found under a source that is a directory. -/
theorem walkRoot_enumerates (hfs : fs.WellFormed) (hnames : fs.HasEntryNames) (hdir : fs.isDir source = .ok true)
    (habs : fs.absolute source = .ok path) :
    let found := s.walk fs (fs.nodes.length + 1) [] path
    (∃ all, Lists s fs source path all ∧ (∀ segments ∈ all, ¬HasBackslash segments) ∧
        AreAt path all found.files ∧ found.failure = none) ∨
      ∃ failure, Breaks s fs source found.files failure ∧ found.failure = some failure := by
  intro found
  let listed := fs.listed (fs.nodes.length + 1) path
  have hfound : found = Collected.each (fun segments => s.file segments (path.descend segments)) listed := by
    simpa using walk_eq_each s (fs.nodes.length + 1) [] path
  have hlists : Lists s fs source path (listed.filter s.acceptsAt) := by
    refine ⟨hdir, habs, (listed_ordered hfs _ path).filter _, fun segments => ?_⟩
    rw [List.mem_filter, mem_listed_of_isDir hfs hdir habs]
    rfl
  have hsegments : ∀ segments ∈ listed.filter s.acceptsAt, segments.all isSegment = true ↔ ¬HasBackslash segments :=
    fun segments hmem => all_isSegment_iff hfs hnames ((hlists.mem segments).1 hmem).1
  obtain ⟨hfiles, hpaths, hfailure⟩ := each_file (s := s) path listed
  rw [← hfound] at hfiles hpaths hfailure
  have hpaths : ∀ file ∈ found.files, path.joinAll file.segments = file.path :=
    fun file hfile => (file.joinAll_segments path).trans (hpaths file hfile).symm
  cases hfind : (listed.filter s.acceptsAt).find? fun segments => !segments.all isSegment with
  | none =>
    have hall : ∀ segments ∈ listed.filter s.acceptsAt, segments.all isSegment = true := by
      simpa using hfind
    rw [List.takeWhile_eq_self_iff.2 hall] at hfiles
    exact .inl ⟨_, hlists, fun segments hmem => (hsegments segments hmem).1 (hall segments hmem),
      ⟨hfiles, hpaths⟩, by rw [hfailure, hfind]; rfl⟩
  | some bad =>
    obtain ⟨hbad, front, back, hall, hfront⟩ := List.find?_eq_some_iff_append.1 hfind
    have hfront : ∀ segments ∈ front, segments.all isSegment = true := by simpa using hfront
    have hbad' : ¬bad.all isSegment = true := by simpa using hbad
    rw [hall, List.takeWhile_append_of_pos hfront, List.takeWhile_cons_of_neg (by simpa using hbad'),
      List.append_nil] at hfiles
    rw [hall] at hsegments hlists
    have hmem : bad ∈ front ++ bad :: back := by simp
    refine .inr ⟨_, .backslash hlists rfl (fun segments h => ?_) ?_ ⟨hfiles, hpaths⟩, by rw [hfailure, hfind]; rfl⟩
    · exact (hsegments segments (List.mem_append_left _ h)).1 (hfront segments h)
    · exact not_not.1 fun h => hbad' ((hsegments bad hmem).2 h)

/-- A search finds one input file for each thing below its sources that is no directory and is accepted, in order
    and without repetitions, until it breaks off. -/
theorem collect_enumerates (hfs : fs.WellFormed) (hnames : fs.HasEntryNames) (s : SourceSet) :
    IsStrictOrder (List String) ComesBefore ∧
      Enumerates s fs s.roots (s.collect fs).files (s.collect fs).failure := by
  refine ⟨inferInstance, ?_⟩
  unfold collect
  induction s.roots with
  | nil => exact .done
  | cons source sources ih =>
    rw [Collected.each]
    unfold walkRoot
    cases hdir : fs.isDir source with
    | error e =>
      obtain ⟨hlong, rfl⟩ := asks_error hdir
      exact .breaks (.tooLong ⟨_, hlong⟩)
    | ok isDir =>
      cases isDir with
      | false => exact .breaks (.notDirectory hdir)
      | true =>
        cases habs : fs.absolute source with
        | error e =>
          obtain ⟨hlost, rfl⟩ := SearchPath.absolute_error habs
          refine .breaks (.lost hdir hlost ?_)
          by_contra hrelative
          rw [Bool.not_eq_false] at hrelative
          simp [FileSystem.absolute, hrelative] at habs
        | ok path =>
          obtain ⟨all, hlists, hall, hfiles, hnone⟩ | ⟨failure, hbreaks, hsome⟩ :=
            walkRoot_enumerates (s := s) hfs hnames hdir habs
          · simpa [Collected.andThen, hnone] using .source hlists hall hfiles ih
          · have hends : Enumerates s fs (source :: sources) _ (some failure) := .breaks hbreaks
            simpa [Collected.andThen, hsome] using hends

/-! ### Two sources, one of which has links -/

/-- A directory with files, a directory, a link to that and a link to nothing. -/
def linkedSource : FileSystem where
  nodes := [
    (["s"], .directory), (["s", "d"], .directory), (["s", "l"], .link "d"), (["s", "a"], .link "nothing"),
    (["s", "b"], .file .empty defaultMode 0), (["s", "d", "a"], .file .empty defaultMode 0)]
  workDir := []
  workDirLost := false
  clock := 1

theorem collect_enumerates_linked :
    let s : SourceSet := ⟨[Path.parse "s", Path.parse "/s/b", Path.parse "/s"], [], []⟩
    Enumerates s linkedSource s.roots (s.collect linkedSource).files (s.collect linkedSource).failure ∧
      (s.collect linkedSource).files.map (·.segments) = [["a"], ["b"], ["d", "a"]] ∧
      (s.collect linkedSource).failure
        = some (.io "read source directory" (Path.parse "/s/b") "not a directory") := by
  have hfs : linkedSource.WellFormed := wellFormed_of_nodes (by decide) (by decide) (by decide)
  have hnames : linkedSource.HasEntryNames := hasEntryNames_of_nodes (by decide)
  have hdepth : linkedSource.nodes.length = 6 := rfl
  refine ⟨(collect_enumerates hfs hnames _).2, ?_, ?_⟩
  · simp only [collect, Collected.each, walkRoot, hdepth, walk, scan, children_eq_insertionSort]
    decide +kernel
  · simp only [collect, Collected.each, walkRoot, hdepth, walk, scan, children_eq_insertionSort]
    decide +kernel

end SourceSet

end TemplateTree
