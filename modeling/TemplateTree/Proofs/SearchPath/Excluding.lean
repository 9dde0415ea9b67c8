import TemplateTree.Proofs.Compile.Targets
import TemplateTree.Proofs.SearchPath.Enumerating

/-!
# Excluding a directory

A pattern is matched against the names of a relative path with slashes between them. The pattern that consists of the
names of a directory, a slash and a star matches what lies below that directory, at any depth, and nothing else: the
slash tells the directory from those whose names only begin like its name. So a search with this pattern among its
exclude patterns finds everything but what is in the directory.

* `Glob.isMatch_concat_star`: plain characters with a star behind them.
* `intercalate_prefix_iff`: names with slashes between them that begin with the names of a directory.
* `SourceSet.accepts_excluding`, `SourceSet.file_excluding`: one file.
* `Collected.keeping`, `SourceSet.collect_excluding`: a search.
-/

namespace TemplateTree

/-! ## Patterns that end in a star -/

namespace Glob

variable {cs s : List Char} {parts : List Part}

/-- Whether a character of a pattern stands for itself wherever it is. -/
def IsPlain (c : Char) : Prop :=
  c ≠ '*' ∧ c ≠ '?' ∧ c ≠ '['

theorem parse_go_concat_star (hcs : ∀ c ∈ cs, IsPlain c) {fuel : Nat} (hfuel : cs.length < fuel) :
    parse.go fuel (cs ++ ['*']) = cs.map .literal ++ [.anyText] := by
  induction cs generalizing fuel with
  | nil =>
    obtain ⟨fuel, rfl⟩ := Nat.exists_eq_add_one.2 hfuel
    rw [List.nil_append, parse.go]
    cases fuel <;> rfl
  | cons c cs ih =>
    obtain ⟨⟨hstar, hmark, hbracket⟩, hcs⟩ := List.forall_mem_cons.1 hcs
    rw [List.length_cons] at hfuel
    obtain ⟨fuel, rfl⟩ := Nat.exists_eq_add_one.2 (Nat.zero_lt_of_lt hfuel)
    rw [List.cons_append, parse.go, ih hcs (by omega)]
    · rfl
    · exact hstar
    · exact hmark
    · exact hbracket

theorem matchParts_anyText (s : List Char) : matchParts [.anyText] s = true := by
  rw [matchParts]
  induction s with
  | nil => rw [matchParts.anySuffix, matchParts, List.isEmpty_nil]
  | cons c s ih => rw [matchParts.anySuffix, ih, Bool.or_true]

theorem matchParts_anyText_literal (c : Char) (s : List Char) :
    matchParts [.anyText, .literal c] s = (s.getLast? == some c) := by
  rw [matchParts]
  induction s with
  | nil => simp [matchParts.anySuffix, matchParts]
  | cons d s ih =>
    rw [matchParts.anySuffix, ih]
    cases s with
    | nil => simp [matchParts, fits]
    | cons e s => simp [matchParts, fits]

theorem matchParts_literals :
    matchParts (cs.map .literal ++ parts) s = true ↔ ∃ rest, s = cs ++ rest ∧ matchParts parts rest = true := by
  induction cs generalizing s with
  | nil => simp
  | cons c cs ih =>
    cases s with
    | nil => simp [matchParts]
    | cons c' s => simp [matchParts, fits, ih, and_assoc]

/-- Plain characters with a star behind them match the texts that begin with them. -/
theorem isMatch_concat_star {pattern text : String} (hcs : ∀ c ∈ cs, IsPlain c) (hpattern : pattern.toList = cs ++ ['*']) :
    isMatch pattern text = true ↔ cs <+: text.toList := by
  have hfuel : cs.length < (cs ++ ['*']).length + 1 := by
    rw [List.length_append]
    omega
  rw [isMatch, hpattern, parse, parse_go_concat_star hcs hfuel, matchParts_literals]
  constructor
  · rintro ⟨rest, hrest, -⟩
    exact ⟨rest, hrest.symm⟩
  · rintro ⟨rest, hrest⟩
    exact ⟨rest, hrest.symm, matchParts_anyText rest⟩

end Glob

/-! ## Names with slashes between them -/

variable {directory segments : List String}

/-- Whether a relative path leads below a directory. -/
def IsInside (directory segments : List String) : Prop :=
  directory <+: segments ∧ directory ≠ segments

instance (directory segments : List String) : Decidable (IsInside directory segments) :=
  inferInstanceAs (Decidable (directory <+: segments ∧ directory ≠ segments))

theorem mem_intercalate_slash {names : List String} {c : Char} (h : c ∈ ("/".intercalate names).toList) :
    c = '/' ∨ ∃ name ∈ names, c ∈ name.toList := by
  rw [String.toList_intercalate] at h
  induction names with
  | nil => simp at h
  | cons name names ih =>
    cases names with
    | nil => exact .inr ⟨name, List.mem_cons_self, by simpa using h⟩
    | cons next names =>
      rw [List.map_cons, List.map_cons, List.intercalate_cons_cons, List.mem_append] at h
      obtain hname | hrest := h
      · simp only [List.mem_append, String.reduceToList, List.mem_singleton] at hname
        exact hname.elim (fun h => .inr ⟨name, List.mem_cons_self, h⟩) .inl
      · exact (ih hrest).imp_right fun ⟨name', hmem, hc⟩ => ⟨name', List.mem_cons_of_mem _ hmem, hc⟩

theorem splitOn_intercalate_slash {names : List String} (hne : names ≠ []) (h : ∀ name ∈ names, '/' ∉ name.toList) :
    ("/".intercalate names).toList.splitOn '/' = names.map String.toList := by
  rw [String.toList_intercalate]
  exact List.splitOn_intercalate '/' (List.forall_mem_map.2 h) (by simpa using hne)

/-- Names begin with the names of a directory and a slash if they lead below that directory. -/
theorem intercalate_prefix_iff (hdirectory : directory ≠ []) (hsegments : segments ≠ [])
    (hplain : ∀ name ∈ directory, '/' ∉ name.toList) (hnames : ∀ name ∈ segments, '/' ∉ name.toList) :
    ("/".intercalate directory).toList ++ ['/'] <+: ("/".intercalate segments).toList ↔
      IsInside directory segments := by
  have hcut := splitOn_intercalate_slash hdirectory hplain
  constructor
  · rintro ⟨rest, hrest⟩
    rw [List.append_assoc, List.singleton_append] at hrest
    have hpieces := splitOn_intercalate_slash hsegments hnames
    rw [← hrest, List.splitOn_append_cons_self, hcut] at hpieces
    constructor
    · exact (List.prefix_map_iff_of_injective fun _ _ => String.toList_injective).1 ⟨_, hpieces⟩
    · rintro rfl
      exact List.splitOn_ne_nil _ _ (List.append_right_eq_self.1 hpieces)
  · rintro ⟨⟨below, rfl⟩, hne⟩
    have hbelow : below ≠ [] := fun h => hne (by rw [h, List.append_nil])
    have hpieces := splitOn_intercalate_slash hbelow fun name hname => hnames name (List.mem_append_right _ hname)
    refine ⟨("/".intercalate below).toList, ?_⟩
    -- Both texts are cut into the same names.
    have hsame : (("/".intercalate directory).toList ++ '/' :: ("/".intercalate below).toList).splitOn '/'
        = ("/".intercalate (directory ++ below)).toList.splitOn '/' := by
      rw [List.splitOn_append_cons_self, hcut, hpieces, splitOn_intercalate_slash hsegments hnames, List.map_append]
    have hback := congrArg (List.intercalate ['/']) hsame
    rw [List.intercalate_splitOn, List.intercalate_splitOn] at hback
    simpa using hback

/-! ## Searches that keep some of the files -/

namespace Collected

variable {α : Type} {f g : α → Collected} {xs : List α} {keep : InputFile → Bool}

/-- A search without those of its files that are not to be kept. -/
def keeping (keep : InputFile → Bool) (found : Collected) : Collected :=
  { found with files := found.files.filter keep }

theorem keeping_andThen (a : Collected) (b : Unit → Collected) :
    (a.andThen b).keeping keep = (a.keeping keep).andThen fun _ => (b ()).keeping keep := by
  obtain ⟨files, log, failure⟩ := a
  cases failure with
  | some failure => rfl
  | none => simp [andThen, keeping]

/-- Walks that each keep some of the files keep them one after the other. -/
theorem each_keeping (h : ∀ x ∈ xs, g x = (f x).keeping keep) : each g xs = (each f xs).keeping keep := by
  induction xs with
  | nil => rfl
  | cons x xs ih =>
    obtain ⟨hx, hxs⟩ := List.forall_mem_cons.1 h
    rw [each, each, keeping_andThen, hx, ih hxs]

end Collected

/-! ## Searches that exclude a directory -/

namespace SourceSet

variable {fs : FileSystem} {s : SourceSet} {before after : List String}

/-- The same source directories with other exclude patterns. -/
def withExcludes (s : SourceSet) (excludes : List String) : SourceSet :=
  { s with excludes }

/-- The pattern for what lies below a directory. -/
def belowPattern (directory : List String) : String :=
  "/".intercalate directory ++ "/*"

/-- Whether the names of a directory stand for themselves in a pattern: they are names without slashes, and without
    characters that mean something else there. -/
def ArePlainNames (directory : List String) : Prop :=
  ∀ name ∈ directory, ∀ c ∈ name.toList, c ≠ '/' ∧ Glob.IsPlain c

theorem isMatch_belowPattern (hne : directory ≠ []) (hplain : ArePlainNames directory) (hsegments : segments ≠ [])
    (hnames : ∀ name ∈ segments, '/' ∉ name.toList) :
    Glob.isMatch (belowPattern directory) ("/".intercalate segments) = true ↔ IsInside directory segments := by
  have hslash : ∀ name ∈ directory, '/' ∉ name.toList := fun name hname hmem => (hplain name hname _ hmem).1 rfl
  have hcs : ∀ c ∈ ("/".intercalate directory).toList ++ ['/'], Glob.IsPlain c := by
    intro c hc
    have hc : c = '/' ∨ ∃ name ∈ directory, c ∈ name.toList :=
      (List.mem_append.1 hc).elim mem_intercalate_slash fun h => .inl (List.mem_singleton.1 h)
    obtain rfl | ⟨name, hname, hmem⟩ := hc
    · exact ⟨by decide, by decide, by decide⟩
    · exact (hplain name hname c hmem).2
  rw [Glob.isMatch_concat_star hcs (by simp [belowPattern]), intercalate_prefix_iff hne hsegments hslash hnames]

/-- One more exclude pattern, wherever it stands. -/
theorem accepts_excluding (s : SourceSet) (before after : List String) (pattern name : String) :
    (s.withExcludes (before ++ pattern :: after)).accepts name
      = ((s.withExcludes (before ++ after)).accepts name && !Glob.isMatch pattern name) := by
  simp only [accepts, withExcludes, matchesAny, List.any_append, List.any_cons]
  cases Glob.isMatch pattern name <;> simp

/-- The files that are not in a directory. -/
def isOutside (directory : List String) (file : InputFile) : Bool :=
  !decide (IsInside directory file.segments)

/-- A file that can be an input file is found unless it is in the directory. -/
theorem file_excluding (hne : directory ≠ []) (hplain : ArePlainNames directory) (hproper : segments ≠ [])
    (hsegments : segments.all isSegment = true) (path : Path) :
    (s.withExcludes (before ++ belowPattern directory :: after)).file segments path
      = ((s.withExcludes (before ++ after)).file segments path).keeping (isOutside directory) := by
  have hnames : ∀ name ∈ segments, '/' ∉ name.toList := fun name hname =>
    (isSegment_iff.1 (List.all_eq_true.1 hsegments name hname)).2.2.2.1
  have hmatch := isMatch_belowPattern hne hplain hproper hnames
  rw [file_of_all hsegments, file_of_all hsegments, acceptsAt, acceptsAt, accepts_excluding]
  cases (s.withExcludes (before ++ after)).accepts ("/".intercalate segments) with
  | false => rfl
  | true =>
    by_cases hinside : IsInside directory segments
    · rw [hmatch.2 hinside]
      simp [Collected.keeping, Collected.nothing, isOutside, hinside]
    · rw [Bool.eq_false_iff.2 (mt hmatch.1 hinside)]
      simp [Collected.keeping, isOutside, hinside]

/-- A walk of a source finds what it found before except for what is in the directory. -/
theorem walkRoot_excluding (hfs : fs.WellFormed) (hnames : fs.HasEntryNames)
    (hslashes : ∀ at_ name node, fs.node? (at_ ++ [name]) = some node → '\\' ∉ name.toList) (hne : directory ≠ [])
    (hplain : ArePlainNames directory) (source : Path) :
    (s.withExcludes (before ++ belowPattern directory :: after)).walkRoot fs source
      = ((s.withExcludes (before ++ after)).walkRoot fs source).keeping (isOutside directory) := by
  unfold walkRoot
  cases hdir : fs.isDir source with
  | error e => rfl
  | ok isDir =>
    cases isDir with
    | false => rfl
    | true =>
      cases habs : fs.absolute source with
      | error e => rfl
      | ok path =>
        have hwalk : (s.withExcludes (before ++ belowPattern directory :: after)).walk fs (fs.nodes.length + 1) [] path
            = ((s.withExcludes (before ++ after)).walk fs (fs.nodes.length + 1) [] path).keeping
                (isOutside directory) := by
          rw [walk_eq_each, walk_eq_each]
          refine Collected.each_keeping fun segments hmem => ?_
          have hlies := (mem_listed_of_isDir hfs hdir habs).1 hmem
          refine file_excluding hne hplain hlies.proper ((all_isSegment_iff hfs hnames hlies).2 ?_) _
          rintro ⟨name, hname, hslash⟩
          obtain ⟨at_, node, hnode⟩ := hlies.exists_node hfs hname
          exact hslashes at_ name node hnode hslash
        dsimp only
        rw [hwalk]
        rfl

/-- Where no name has a backslash, a search with the pattern of a directory among its exclude patterns finds the same
    files as one without it, in the same order, except for those in the directory, and ends in the same way. It does
    not matter where among the exclude patterns the pattern stands. -/
theorem collect_excluding (hfs : fs.WellFormed) (hnames : fs.HasEntryNames)
    (hslashes : ∀ at_ name node, fs.node? (at_ ++ [name]) = some node → '\\' ∉ name.toList)
    (s : SourceSet) (before after : List String) (hne : directory ≠ []) (hplain : ArePlainNames directory) :
    let found := (s.withExcludes (before ++ after)).collect fs
    (s.withExcludes (before ++ belowPattern directory :: after)).collect fs =
      ⟨found.files.filter fun file => !decide (IsInside directory file.segments), found.log, found.failure⟩ :=
  Collected.each_keeping fun source _ => walkRoot_excluding hfs hnames hslashes hne hplain source

/-- A directory with a subdirectory, and beside it a file and a directory whose names begin like its name. -/
def siblings : FileSystem where
  nodes := [
    (["s"], .directory), (["s", "d"], .directory), (["s", "d", "x"], .file .empty FileSystem.defaultMode 0),
    (["s", "d", "e"], .directory), (["s", "d", "e", "y"], .file .empty FileSystem.defaultMode 0),
    (["s", "d.md"], .file .empty FileSystem.defaultMode 0), (["s", "da"], .directory),
    (["s", "da", "z"], .file .empty FileSystem.defaultMode 0), (["s", "da", "b"], .file .empty FileSystem.defaultMode 0)]
  workDir := []
  workDirLost := false
  clock := 1

/-- Nothing is left of the directory, and all that is beside it is left, except for what another pattern excludes. -/
theorem collect_excluding_siblings :
    let s : SourceSet := ⟨[Path.parse "s"], [], []⟩
    ((s.withExcludes ["*b", "d/*"]).collect siblings).files.map (·.segments) = [["d.md"], ["da", "z"]] ∧
      ((s.withExcludes ["*b"]).collect siblings).files.map (·.segments)
        = [["d.md"], ["d", "x"], ["d", "e", "y"], ["da", "z"]] := by
  intro s
  have hfs : siblings.WellFormed := FileSystem.wellFormed_of_nodes (by decide) (by decide) (by decide)
  have hnames : siblings.HasEntryNames := FileSystem.hasEntryNames_of_nodes (by decide)
  have hslashes : ∀ at_ name node, siblings.node? (at_ ++ [name]) = some node → '\\' ∉ name.toList := by
    intro at_ name node hnode
    have hall : ∀ e ∈ siblings.nodes, ∀ last ∈ e.1.getLast?, '\\' ∉ last.toList := by decide
    exact hall _ (FileSystem.mem_nodes_of_node? (by simp) hnode) name (by simp)
  have hplain : ArePlainNames ["d"] := by
    intro name hname c hc
    obtain rfl := List.mem_singleton.1 hname
    obtain rfl : c = 'd' := by simpa using hc
    exact ⟨by decide, by decide, by decide, by decide⟩
  have hfound : ((s.withExcludes ["*b"]).collect siblings).files.map (·.segments)
      = [["d.md"], ["d", "x"], ["d", "e", "y"], ["da", "z"]] := by
    have hdepth : siblings.nodes.length = 9 := rfl
    have hends : Glob.parse "*b".toList = [.anyText, .literal 'b'] := by cbv
    simp only [s, withExcludes, collect, Collected.each, walkRoot, hdepth, walk, FileSystem.scan,
      FileSystem.children_eq_insertionSort, file, accepts, matchesAny, List.nil_append, List.any_cons, List.any_nil,
      Glob.isMatch, hends, Glob.matchParts_anyText_literal]
    decide +kernel
  have hpattern : belowPattern ["d"] = "d/*" := by decide +kernel
  have hrest := collect_excluding hfs hnames hslashes s ["*b"] [] (List.cons_ne_nil "d" []) hplain
  rw [hpattern] at hrest
  refine ⟨?_, hfound⟩
  -- Whether a file is in the directory can be seen from its relative path.
  have hkept := congrArg (List.filter fun segments => !decide (IsInside ["d"] segments)) hfound
  rw [List.filter_map] at hkept
  refine (congrArg (fun found => found.files.map (·.segments)) hrest).trans (hkept.trans ?_)
  decide

end SourceSet

end TemplateTree
