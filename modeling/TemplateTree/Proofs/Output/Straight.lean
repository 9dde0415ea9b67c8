import TemplateTree.Proofs.FileSystem.Straight
import TemplateTree.Proofs.Output.Removals
import TemplateTree.Proofs.Output.Reporting

/-!
# Rebuilding at a straight path

What a rebuild does at a path without links on its way, in any file system: it succeeds unless a file stands
where a directory above the path would have to be, and then nothing changes. Nothing outside the directory is
touched apart from missing directories above it, whatever links there are in it, and no removal fails.

* `IsOpen`: nothing stands in the way of the directories above a path.
* `rebuild_open`, `rebuild_shut`: rebuilding where nothing stands in the way, and where a file does.
* `rebuild_straight`: both together; `rebuild_straight_tangled`: a directory full of links.
* `rebuild_astray`: a NUL character in the path, and the root directory.
-/

namespace TemplateTree.Output

open FileSystem

variable {A : FileSystem} {root : Path}

/-- Whatever is there above a path is a directory. -/
def IsOpen (A : FileSystem) (root : Path) : Prop :=
  ∀ y, y <+: root.parts → y ≠ root.parts → (A.node? y).isSome → A.node? y = some .directory

/-- What a file system is like when the directory at a location has been made anew: it is empty, what is above
    it are directories, and everything else is as it was. -/
def anew (A : FileSystem) (x y : Location) : Option Node :=
  if y <+: x then some .directory else if x <+: y then none else A.node? y

section

variable (hA : A.WellFormed) (hp : root.isAbsolute = true) (hdots : ".." ∉ root.parts)
  (hnul : hasNul root = false) (hsize : ∀ n ∈ root.parts, n.utf8ByteSize ≤ nameLimit)

include hp hnul

/-- Where a path stops on its way, nothing is in the way of the directory itself. -/
theorem obstacle_stopped (node : Option Node) (h : ∀ follow, A.locate follow root = .error (stopError node)) :
    obstacle A root = .ok .nothing := by
  have hasks : ∀ follow ask, A.asks follow root ask = .ok false := fun follow _ =>
    asks_stopped node hp hnul (h follow)
  simp only [obstacle, isLink, isFile, isDir, hasks, bind, Except.bind, Bool.false_eq_true, if_false]
  rfl

include hA hdots hsize

/-- Where nothing stands in the way, a rebuild succeeds. -/
theorem rebuild_open (hne : root.parts ≠ []) (hopen : IsOpen A root) :
    (rebuild A root).2.2 = none ∧ ∀ y, (rebuild A root).1.node? y = anew A root.parts y := by
  have hwithin : ∀ y, y <+: root.parent.parts → y <+: root.parts ∧ y ≠ root.parts := fun y hy =>
    ⟨(Path.prefix_parts_iff hne).2 (.inr hy), Path.ne_of_prefix_parent hne hy⟩
  by_cases hup : A.node? root.parent.parts = none
  · -- The directories above are missing, so that there is nothing to be removed.
    have hnone : A.node? root.parts = none := by
      rw [← Path.parent_parts_append hne]
      exact hA.node?_append_eq_none (by simp [hup]) _ (by simp)
    have hall : ∀ y, y <+: root.parts → (A.node? y).isSome → A.node? y = some .directory := by
      intro y hy hsome
      refine hopen y hy ?_ hsome
      rintro rfl
      simp [hnone] at hsome
    have hobstacle := obstacle_stopped hp hnul none fun _ => locate_missing hp hdots hA hne hsize hall hup
    obtain ⟨B, hmake, -, -, hB⟩ := makeDirs_straight hp hdots hnul hA hsize hall
    simp only [rebuild, hobstacle, makeRoot, hmake, Option.map_none, true_and]
    intro y
    rw [hB, anew]
    split_ifs with hy hy'
    · rfl
    · obtain ⟨rest, rfl⟩ := hy'
      exact hA.node?_append_eq_none (by simp [hnone]) rest fun h => hy (by simp [h])
    · rfl
  · have hthere := hopen _ (hwithin _ List.prefix_rfl).1 (hwithin _ List.prefix_rfl).2
      (Option.isSome_iff_ne_none.2 hup)
    have habove : ∀ y, y <+: root.parts → y ≠ root.parts → A.node? y = some .directory := by
      intro y hy hyne
      obtain ⟨rest, hrest⟩ := ((Path.prefix_parts_iff hne).1 hy).resolve_left hyne
      exact hA.directory_of_append (hrest ▸ hthere)
    obtain ⟨B, records, hrebuild, hB⟩ :=
      rebuild_named hp hdots hnul hA (names_pruned_straight hp hne hdots hsize habove)
    rw [hrebuild]
    refine ⟨rfl, fun y => ?_⟩
    rw [hB.node, anew]
    by_cases hy : y = root.parts
    · simp [hy]
    · rw [if_neg hy]
      by_cases hpre : y <+: root.parts
      · rw [if_pos hpre, if_neg fun h => hy (hpre.eq_of_length_le h.length_le), habove y hpre hy]
      · rw [if_neg hpre]

/-- Where a file stands in the way, a rebuild fails and changes nothing. Nothing has been removed. -/
theorem rebuild_shut (hlink : ∀ y, y <+: root.parts → y ≠ root.parts → ∀ t, A.node? y ≠ some (.link t))
    (hshut : ¬IsOpen A root) :
    rebuild A root = (A, [], some (.ofSystem "create directory" root (.about .notDirectory root.text))) ∧
      (tracedRebuild A root).removals = [] := by
  obtain ⟨y, hy, hyne, hsome, hdir⟩ : ∃ y, y <+: root.parts ∧ y ≠ root.parts ∧ (A.node? y).isSome ∧
      A.node? y ≠ some .directory := by
    simpa only [IsOpen, not_forall, exists_prop] using hshut
  obtain ⟨node, hnode⟩ := Option.isSome_iff_exists.1 hsome
  have hstop : ∀ follow, A.locate follow root = .error .notDirectory := by
    intro follow
    have hstopped : A.locate follow root = .error (stopError (A.node? y)) :=
      locate_stopped hp hdots hsize hy hyne (fun z hz hne => hA.directory_above hsome hz hne) hdir
        (hlink y hy hyne)
    rwa [hnode] at hstopped
  have hobstacle := obstacle_stopped hp hnul (some .directory) hstop
  constructor
  · simp only [rebuild, hobstacle, makeRoot, makeDirs_behind_file hp hnul hstop, Option.map_some]
  · simp only [tracedRebuild, hobstacle]
    rfl

/-- At a straight path other than the root directory, a rebuild succeeds exactly if whatever is there above the
    path is a directory. All that it asks to be removed is removed, each directory when nothing is left in it.
    Then there is an empty directory, with the directories above it, and everything else is as it was; if the
    rebuild fails, everything is as it was, and the failure says over which path. -/
theorem rebuild_straight (hne : root.parts ≠ [])
    (hlink : ∀ y, y <+: root.parts → y ≠ root.parts → ∀ t, A.node? y ≠ some (.link t)) :
    ((rebuild A root).2.2 = none ↔ IsOpen A root) ∧
      ((tracedRebuild A root).outcome = ((rebuild A root).1, (rebuild A root).2.2) ∧
        ∃ M, CarriedOut A (tracedRebuild A root).removals M) ∧
      match (rebuild A root).2.2 with
      | none => ∀ y, (rebuild A root).1.node? y = anew A root.parts y
      | some failure => IsIo failure ∧ (rebuild A root).1 = A := by
  by_cases hopen : IsOpen A root
  · obtain ⟨hnone, hnode⟩ := rebuild_open hA hp hdots hnul hsize hne hopen
    obtain ⟨M, hM, -⟩ := tracedRebuild_carriedOut hnone
    refine ⟨⟨fun _ => hopen, fun _ => hnone⟩, ⟨tracedRebuild_outcome A root, M, hM⟩, ?_⟩
    rw [hnone]
    exact hnode
  · obtain ⟨hfailed, hremovals⟩ := rebuild_shut hA hp hdots hnul hsize hlink hopen
    refine ⟨⟨fun h => ?_, fun h => absurd h hopen⟩, ⟨tracedRebuild_outcome A root, A, ?_⟩, ?_⟩
    · rw [hfailed] at h
      cases h
    · rw [hremovals]
      exact .nil A
    · rw [hfailed]
      exact ⟨isIo_ofSystem (by simp [SystemError.about]), rfl⟩

end

/-! ## A directory full of links -/

/-- An output directory with links to the directory above, to itself, to nothing, and to a directory and a
    file elsewhere. -/
def tangled : FileSystem where
  nodes :=
    [(["keep"], .directory), (["keep", "f"], .file "kept".toUTF8 defaultMode 0), (["out"], .directory),
      (["out", "d"], .directory), (["out", "d", "up"], .link ".."), (["out", "d", "e"], .directory),
      (["out", "d", "e", "old"], .file "stale".toUTF8 defaultMode 0), (["out", "self"], .link "self"),
      (["out", "gone"], .link "nowhere"), (["out", "dir"], .link "/keep"), (["out", "file"], .link "/keep/f")]
  workDir := []
  workDirLost := false
  clock := 0

theorem tangled_wellFormed : tangled.WellFormed :=
  wellFormed_of_nodes (by decide +kernel) (by decide +kernel) (by decide +kernel)

theorem isOpen_of_single {fs : FileSystem} {p : Path} (h : p.parts.length ≤ 1) : IsOpen fs p := by
  intro y hy hne _
  have hlength : y.length < p.parts.length := lt_of_le_of_ne hy.length_le fun h => hne (hy.eq_of_length h)
  obtain rfl : y = [] := List.length_eq_zero_iff.1 (by omega)
  exact node?_nil fs

/-- It is emptied and made anew, and the targets of its links are still there. -/
theorem rebuild_straight_tangled :
    (rebuild tangled ⟨.single, ["out"]⟩).2.2 = none ∧
      (∃ M, CarriedOut tangled (tracedRebuild tangled ⟨.single, ["out"]⟩).removals M) ∧
      ∀ y, (rebuild tangled ⟨.single, ["out"]⟩).1.node? y = anew tangled ["out"] y := by
  obtain ⟨hsucceeds, ⟨-, hremovals⟩, hnode⟩ := rebuild_straight tangled_wellFormed
    (show (Path.mk .single ["out"]).isAbsolute = true from rfl) (by decide) (by decide) (by decide) (by decide)
    (linkless_of_single rfl)
  have hnone := hsucceeds.2 (isOpen_of_single (Nat.le_refl 1))
  rw [hnone] at hnode
  exact ⟨hnone, hremovals, hnode⟩

/-- Above a path with a NUL character, and above the root directory, nothing stands in the way either. But there
    a rebuild fails: with an error that says nothing of the path, and after everything has been removed. -/
theorem rebuild_astray :
    (IsOpen tangled ⟨.single, ["a\x00b"]⟩ ∧ ¬IsIo .overNul ∧
        rebuild tangled ⟨.single, ["a\x00b"]⟩ = (tangled, [], some .overNul)) ∧
      IsOpen tangled ⟨.single, []⟩ ∧ (rebuild tangled ⟨.single, []⟩).2.2 ≠ none ∧
        tangled.node? ["keep"] = some .directory ∧ (rebuild tangled ⟨.single, []⟩).1.node? ["keep"] = none := by
  obtain ⟨B, records, failure, hrebuild, -, hbare⟩ := rebuild_top tangled_wellFormed rfl
    (show (Path.mk .single []).parts = [] from rfl)
  refine ⟨⟨isOpen_of_single (Nat.le_refl 1), ?_, rebuild_of_hasNul (by decide)⟩,
    isOpen_of_single (Nat.zero_le 1), ?_, rfl, ?_⟩
  · rintro ⟨operation, p, reason, h⟩
    cases h
  · rw [hrebuild]
    exact Option.some_ne_none failure
  · rw [hrebuild, hbare]

end TemplateTree.Output
