import TemplateTree.Proofs.Output.Clearing
import TemplateTree.Proofs.Output.Tree

/-!
# What a rebuild makes of its path

A path that names an entry, and does not need it, names a new empty directory after a rebuild, whatever
was there before: nothing, a file, a link, or a directory with anything in it. Where a path names nothing,
directories are made up to it.

* `Renewed`: an entry has given way to an empty directory.
* `rebuild_named`: rebuilding at a path that names an entry.
* `Fresh`: a new directory; `Fresh.again`: rebuilding it once more.
* `rebuild_unnamed`, `rebuild_top`: rebuilding at a path that names no entry, and at the root directory.
* `rebuild_ways`: a rebuild makes a new directory, or fails now and again.
-/

namespace TemplateTree.Output

open FileSystem

variable {A B C M : FileSystem} {root : Path} {X y : Location}

/-- Two file systems with the same nodes and the same current directory. -/
structure SameNodes (A B : FileSystem) : Prop where
  node : ∀ x, B.node? x = A.node? x
  workDir : B.workDir = A.workDir
  workDirLost : A.workDirLost = false → B.workDirLost = false

/-- `M` is `A` without an entry and what is below it. The current directory is lost only if it was there. -/
structure Gone (X : Location) (A M : FileSystem) : Prop where
  wellFormed : M.WellFormed
  node : ∀ y, M.node? y = if X <+: y then none else A.node? y
  clock : M.clock = A.clock
  workDir : M.workDir = A.workDir
  stays : ¬X <+: A.workDir → M.workDirLost = A.workDirLost

/-- `B` is `A` with an empty directory in place of an entry. The current directory is lost exactly if it was
    there. -/
structure Renewed (X : Location) (A B : FileSystem) : Prop where
  wellFormed : B.WellFormed
  node : ∀ y, B.node? y = if y = X then some .directory else if X <+: y then none else A.node? y
  clock : B.clock = A.clock
  workDir : B.workDir = A.workDir
  stays : ¬X <+: A.workDir → B.workDirLost = A.workDirLost
  lost : X <+: A.workDir → B.workDirLost = true

/-! ## An entry that a path names -/

section

variable (hp : root.isAbsolute = true) (hdots : ".." ∉ root.parts) (hnul : hasNul root = false)

include hp in
theorem names_of_pruned (hX : (A.pruned X).Names root X) (h : ∀ y, ¬X <+: y → B.node? y = A.node? y) :
    B.Names root X :=
  hX.mono hp (extends_of_pruned hX.ne_nil h)

include hp hdots

theorem leadsTo_of_names (hX : A.Names root X) (hdir : A.node? X = some .directory) : A.LeadsTo root X := by
  obtain ⟨hne, hsize, d, hd, rfl⟩ := hX
  have hname : root.name ≠ ".." := fun h => hdots (h ▸ Path.name_mem hne)
  have := hd.child_directory (p := root.parent) hp hname hsize hdir
  rwa [Path.parent_child hne] at this

include hnul

/-- Where the entry is gone, a directory is made. -/
theorem Gone.renewed (hX : (A.pruned X).Names root X) (h : Gone X A M) :
    ∃ B, makeRoot M root = (B, none) ∧ Renewed X A B := by
  have hnames : M.Names root X := names_of_pruned hp hX fun y hy => by rw [h.node, if_neg hy]
  have hnone : M.node? X = none := by rw [h.node, if_pos List.prefix_rfl]
  have hmake : M.makeDir root = .ok (M.put X .directory) :=
    (makeDir_eq_ok h.wellFormed hp hdots).2 ⟨hnul, X, hnames, hnone, rfl⟩
  refine ⟨M.put X .directory, ?_,
    hnames.wellFormed_put h.wellFormed hdots hnul (by simp [hnone]) _, fun y => ?_, h.clock, h.workDir,
    h.stays, fun hwork => ?_⟩
  · rw [makeRoot, makeDirs, makeDirsWithin, hmake]
    rfl
  · rw [node?_put M hX.ne_nil, h.node]
  · by_contra hlost
    have hdir := h.wellFormed.workDir (by simpa [FileSystem.put] using hlost)
    rw [h.node, h.workDir, if_pos hwork] at hdir
    cases hdir

/-- What is in the way of a new directory. -/
theorem obstacle_of_names (hA : A.WellFormed) (hX : A.Names root X) :
    obstacle A root = .ok (match A.node? X with
      | none => .nothing
      | some .directory => .tree
      | some _ => .entry) := by
  have hlink := isLink_of_names hA hp hdots hnul hX
  have hfollow := look_true_of_names hp hdots hnul hX
  unfold obstacle isFile isDir asks
  rw [hlink]
  cases hnode : A.node? X with
  | none =>
    rw [hfollow (by simp [hnode]), hnode]
    rfl
  | some node =>
    cases node with
    | link t => rfl
    | file =>
      rw [hfollow (by simp [hnode]), hnode]
      rfl
    | directory =>
      rw [hfollow (by simp [hnode]), hnode]
      rfl

omit hp hdots hnul in
/-- A file or link is removed. -/
theorem gone_erase (hA : A.WellFormed) (hX : X ≠ []) (hleaf : A.node? X ≠ some .directory) :
    Gone X A (A.erase X) := by
  refine ⟨hA.erase_leaf hX hleaf, fun y => ?_, rfl, rfl, fun _ => rfl⟩
  rw [node?_erase A hX]
  by_cases hy : X <+: y
  · obtain ⟨rest, rfl⟩ := hy
    by_cases hrest : rest = []
    · simp [hrest]
    · simp [hrest, hA.node?_append_eq_none hleaf rest hrest]
  · rw [if_neg hy, if_neg fun h : y = X => hy (h ▸ List.prefix_rfl)]

/-- A directory is removed with everything in it. -/
theorem gone_tree (hA : A.WellFormed) (hX : (A.pruned X).Names root X) (hdir : A.node? X = some .directory) :
    ∃ C M, clear (A.nodes.length + 1) root A = (C, none) ∧ removeDirectory C root = .ok M ∧ Gone X A M := by
  have hnames : ∀ C, Emptied X A C → C.Names root X := by
    intro C hC
    refine names_of_pruned hp hX fun y hy => ?_
    obtain heq | ⟨-, rest, -, rfl⟩ := hC.node y
    · exact heq
    · exact absurd (List.prefix_append _ _) hy
  have hat : ∀ C, Emptied X A C → C.node? X = some .directory := fun C hC => by
    rw [hC.beside (Nat.le_refl _), hdir]
  have hdepth : ∀ rest, (A.node? (X ++ rest)).isSome → rest.length < A.nodes.length + 1 := by
    intro rest hrest
    have := length_le_nodes hA hrest
    rw [List.length_append] at this
    omega
  obtain ⟨C, hclear, hswept, hbare⟩ := clear_sweeps (A.nodes.length + 1) hp hdots hnul hA
    (fun C hC => leadsTo_of_names hp hdots (hnames C hC) (hat C hC)) hdepth
  have hC := hswept.emptied
  refine ⟨C, C.dropDirectory X, hclear, removeDirectory_of_names hC.wellFormed hp hdots hnul (hnames C hC)
    (hat C hC) hbare, hC.wellFormed.dropDirectory hX.ne_nil hbare, fun y => ?_,
    (clock_dropDirectory C X).trans hC.clock, ?_, fun haway => ?_⟩
  · rw [node?_dropDirectory, node?_erase C hX.ne_nil]
    by_cases hy : X <+: y
    · obtain ⟨rest, rfl⟩ := hy
      cases rest with
      | nil => simp
      | cons n rest =>
        rw [if_neg (by simp), if_pos (List.prefix_append _ _)]
        cases rest with
        | nil => exact hbare n
        | cons m rest =>
          rw [List.append_cons]
          exact hC.wellFormed.node?_append_eq_none (by simp [hbare n]) _ (by simp)
    · rw [if_neg hy, if_neg fun h : y = X => hy (h ▸ List.prefix_rfl)]
      obtain heq | ⟨-, rest, -, rfl⟩ := hC.node y
      · exact heq
      · exact absurd (List.prefix_append _ _) hy
  · rw [workDir_dropDirectory, hswept.workDir]
  · have hne : (X == C.workDir) = false := by
      rw [hswept.workDir, beq_eq_false_iff_ne]
      exact fun h => haway (h ▸ List.prefix_rfl)
    rw [← hswept.stays fun rest _ h => haway (h ▸ List.prefix_append _ _)]
    simp [dropDirectory, FileSystem.erase, hne]

/-- At a path that names an entry, and does not need it, a rebuild succeeds. -/
theorem rebuild_named (hA : A.WellFormed) (hX : (A.pruned X).Names root X) :
    ∃ B records, rebuild A root = (B, records, none) ∧ Renewed X A B := by
  have hnames : A.Names root X := names_of_pruned hp hX fun _ _ => rfl
  have hobstacle := obstacle_of_names hp hdots hnul hA hnames
  have hleaf : ∀ node, A.node? X = some node → node ≠ .directory →
      ∃ M, removeFile A root = .ok M ∧ Gone X A M := by
    intro node hnode hne
    refine ⟨A.erase X, removeFile_of_names hA hp hdots hnul hnames hnode hne, ?_⟩
    exact gone_erase hA hX.ne_nil (by simpa [hnode] using hne)
  unfold rebuild
  rw [hobstacle]
  cases hnode : A.node? X with
  | none =>
    have hgone : Gone X A A := by
      refine ⟨hA, fun y => ?_, rfl, rfl, fun _ => rfl⟩
      split_ifs with hy
      · obtain ⟨rest, rfl⟩ := hy
        by_cases hrest : rest = []
        · rw [hrest, List.append_nil, hnode]
        · exact hA.node?_append_eq_none (by simp [hnode]) rest hrest
      · rfl
    obtain ⟨B, hmake, hB⟩ := hgone.renewed hp hdots hnul hX
    exact ⟨B, [], by simp only [hmake], hB⟩
  | some node =>
    cases node with
    | directory =>
      obtain ⟨C, M, hclear, hremove, hgone⟩ := gone_tree hp hdots hnul hA hX hnode
      obtain ⟨B, hmake, hB⟩ := hgone.renewed hp hdots hnul hX
      refine ⟨B, [LogRecord.debug ("Clearing output directory " ++ root.text)], ?_, hB⟩
      simp only [hclear, hremove, hmake]
    | file | link =>
      obtain ⟨M, hremove, hgone⟩ := hleaf _ hnode (by simp)
      obtain ⟨B, hmake, hB⟩ := hgone.renewed hp hdots hnul hX
      exact ⟨B, [], by simp only [hremove, hmake], hB⟩

end

/-! ## A new directory -/

/-- A path names an empty directory, and would name it also if it were not there. -/
structure Fresh (root : Path) (X : Location) (B : FileSystem) : Prop where
  wellFormed : B.WellFormed
  directory : B.node? X = some .directory
  bare : ∀ rest, rest ≠ [] → B.node? (X ++ rest) = none
  names : (B.pruned X).Names root X
  outside : B.workDirLost = false → ¬X <+: B.workDir

theorem Renewed.fresh (hp : root.isAbsolute = true) (hX : (A.pruned X).Names root X) (h : Renewed X A B) :
    Fresh root X B := by
  refine ⟨h.wellFormed, by rw [h.node, if_pos rfl], fun rest hrest => ?_, names_of_pruned hp hX fun y hy => ?_,
    fun hlost hwork => ?_⟩
  · rw [h.node, if_neg (by simpa using hrest), if_pos (List.prefix_append _ _)]
  · rw [node?_pruned B hX.ne_nil, if_neg hy, h.node, if_neg hy, if_neg fun h : y = X => hy (h ▸ List.prefix_rfl)]
  · rw [h.lost (h.workDir ▸ hwork)] at hlost
    cases hlost

theorem fresh_of_isNewAt (hp : root.isAbsolute = true) (hdots : ".." ∉ root.parts) (hnul : hasNul root = false)
    (h : IsNewAt A root X B) : Fresh root X B := by
  obtain ⟨M, hM, hnames, hnone, rfl⟩ := h.last
  have hbelow : ∀ y, X <+: y → M.node? y = none := by
    rintro y ⟨rest, rfl⟩
    by_cases hrest : rest = []
    · rw [hrest, List.append_nil, hnone]
    · exact hM.node?_append_eq_none (by simp [hnone]) rest hrest
  have hkeep : ∀ y node, M.node? y = some node → ((M.put X .directory).pruned X).node? y = some node := by
    intro y node hy
    have hne : ¬X <+: y := fun h => by simp [hbelow y h] at hy
    rw [node?_pruned _ hnames.ne_nil, if_neg hne, node?_put M hnames.ne_nil,
      if_neg fun h : y = X => hne (h ▸ List.prefix_rfl), hy]
  refine ⟨hnames.wellFormed_put hM hdots hnul (by simp [hnone]) _, h.leadsTo.1, h.bare,
    hnames.mono hp ⟨fun y => hkeep y _, fun y t => hkeep y _⟩, fun hlost hwork => ?_⟩
  have hdir := hM.workDir hlost
  rw [hbelow M.workDir hwork] at hdir
  cases hdir

/-- A new directory is an output directory. -/
theorem Fresh.isTree (hp : root.isAbsolute = true) (hdots : ".." ∉ root.parts) (h : Fresh root X B) :
    IsTree root X B := by
  have hnames := names_of_pruned hp h.names fun _ _ => rfl
  exact .of_bare h.wellFormed (leadsTo_of_names hp hdots hnames h.directory) hnames h.bare

theorem Fresh.congr (hp : root.isAbsolute = true) (h : Fresh root X A) (hB : B.WellFormed)
    (hnode : ∀ x, B.node? x = A.node? x) (hwork : B.workDir = A.workDir)
    (hlost : B.workDirLost = A.workDirLost) : Fresh root X B := by
  refine ⟨hB, by rw [hnode, h.directory], fun rest hrest => by rw [hnode, h.bare rest hrest], ?_, ?_⟩
  · refine h.names.mono hp (extends_of_pruned h.names.ne_nil fun y hy => ?_)
    rw [node?_pruned B h.names.ne_nil, if_neg hy, hnode]
  · rw [hwork, hlost]
    exact h.outside

/-- Rebuilding once more, after entries have been added to the new directory, makes the same of it. -/
theorem Fresh.again (hp : root.isAbsolute = true) (hdots : ".." ∉ root.parts) (hnul : hasNul root = false)
    (h : Fresh root X B) (hC : C.WellFormed) (hsame : ∀ y, ¬X <+: y → C.node? y = B.node? y)
    (hwork : C.workDir = B.workDir) (hlost : C.workDirLost = B.workDirLost) :
    ∃ D records, rebuild C root = (D, records, none) ∧ D.WellFormed ∧ SameNodes B D := by
  have hX : (C.pruned X).Names root X := by
    refine h.names.mono hp (extends_of_pruned h.names.ne_nil fun y hy => ?_)
    rw [node?_pruned C h.names.ne_nil, if_neg hy, hsame y hy]
  obtain ⟨D, records, hrebuild, hD⟩ := rebuild_named hp hdots hnul hC hX
  refine ⟨D, records, hrebuild, hD.wellFormed, fun y => ?_, hD.workDir.trans hwork, fun hthere => ?_⟩
  · rw [hD.node]
    split_ifs with hy hy'
    · rw [hy, h.directory]
    · obtain ⟨rest, rfl⟩ := hy'
      rw [h.bare rest (by simpa using hy)]
    · exact hsame y hy'
  · rw [hD.stays (hwork ▸ h.outside hthere), hlost, hthere]

/-! ## A path that names nothing -/

/-- At a path that names no entry there is nothing, or it cannot be examined. -/
theorem obstacle_unnamed (hA : A.WellFormed) (hp : root.isAbsolute = true) (hdots : ".." ∉ root.parts)
    (hne : root.parts ≠ []) (hnone : hasNul root = true ∨ ∀ x, ¬A.Names root x) :
    obstacle A root = .ok .nothing ∨ ∃ e, obstacle A root = .error e := by
  have hno : ∀ follow ask, A.asks follow root ask ≠ .ok true := by
    intro follow ask hask
    obtain ⟨node, hlook, -⟩ := (asks_eq_true ask).1 hask
    obtain ⟨hnul, s, hs, -⟩ := (look_eq_ok hp).1 hlook
    obtain ⟨s', hs'⟩ : ∃ s', A.locate false root = .ok s' := by
      cases follow with
      | false => exact ⟨s, hs⟩
      | true =>
        rw [locate_of_isAbsolute hp] at hs ⊢
        obtain ⟨s', hs', -⟩ := walk_unfollowed _ _ _ hs
        exact ⟨s', hs'⟩
    obtain ⟨hnil, -⟩ | ⟨hx, -⟩ := (locate_false_eq_ok hA hp hdots).1 hs'
    · exact hne hnil
    · obtain hnul' | hnone := hnone
      · simp [hnul] at hnul'
      · exact hnone _ hx
  have hfalse : ∀ follow ask, A.asks follow root ask = .ok false ∨ ∃ e, A.asks follow root ask = .error e := by
    intro follow ask
    cases hask : A.asks follow root ask with
    | ok b =>
      cases b with
      | true => exact absurd hask (hno follow ask)
      | false => exact .inl rfl
    | error e => exact .inr ⟨e, rfl⟩
  unfold obstacle isLink isFile isDir
  obtain h | ⟨e, h⟩ := hfalse false _ <;> rw [h]
  · obtain h | ⟨e, h⟩ := hfalse true _ <;> rw [h]
    · obtain h | ⟨e, h⟩ := hfalse true _ <;> rw [h]
      · exact .inl rfl
      · exact .inr ⟨e, rfl⟩
    · exact .inr ⟨e, rfl⟩
  · exact .inr ⟨e, rfl⟩

/-- A rebuild at a path that names no entry makes directories, or does nothing. -/
theorem rebuild_unnamed (hA : A.WellFormed) (hp : root.isAbsolute = true) (hdots : ".." ∉ root.parts)
    (hne : root.parts ≠ []) (hnone : hasNul root = true ∨ ∀ x, ¬A.Names root x) :
    (∃ failure, rebuild A root = (A, [], some failure)) ∨
      (A.isDir root ≠ .ok true ∧ rebuild A root = ((makeRoot A root).1, [], (makeRoot A root).2)) := by
  obtain h | ⟨e, h⟩ := obstacle_unnamed hA hp hdots hne hnone
  · refine .inr ⟨(obstacle_eq_ok h).1 rfl, ?_⟩
    simp only [rebuild, h]
  · exact .inl ⟨.raw e, by simp only [rebuild, h]⟩

/-- A path that is blocked cannot be examined. -/
theorem rebuild_blocked (hp : root.isAbsolute = true) (hdots : ".." ∉ root.parts) (hnul : hasNul root = false)
    (h : A.IsBlocked root) : ∃ failure, rebuild A root = (A, [], some failure) := by
  have hlook : A.look false root = .error (.about .nameTooLong root.text) := by
    have hhere : isHere root = false := by simp [isHere, hp]
    simp only [look, hhere, find, hnul, h.locate hp hdots, Bool.false_eq_true, if_false, bind, Except.bind,
      Except.mapError]
  have hobstacle : obstacle A root = .error (.about .nameTooLong root.text) := by
    simp only [obstacle, isLink, asks, hlook]
    rfl
  exact ⟨.raw (.about .nameTooLong root.text), by simp only [rebuild, hobstacle]⟩

theorem makeDirs_of_hasNul (hnul : hasNul root = true) : A.makeDirs root = (A, some .nulByte) := by
  have hmake : A.makeDir root = .error .nulByte := by
    simp only [makeDir, find, hnul, if_true, bind, Except.bind]
  rw [makeDirs, makeDirsWithin, hmake]

/-- Where no directory was, there is a new one when directories have been made up to it. -/
theorem fresh_of_makeDirs (hA : A.WellFormed) (hp : root.isAbsolute = true) (hdots : ".." ∉ root.parts)
    (hdir : A.isDir root ≠ .ok true) (h : A.makeDirs root = (B, none)) :
    hasNul root = false ∧ ∃ X, Fresh root X B := by
  have hnul : hasNul root = false := by
    rw [Bool.eq_false_iff]
    intro hnul
    rw [makeDirs_of_hasNul hnul] at h
    cases h
  obtain ⟨-, hisDir⟩ | ⟨X, hX⟩ := makeDirs_isNewAt hp hdots hA h
  · exact absurd hisDir hdir
  · exact ⟨hnul, X, fresh_of_isNewAt hp hdots hnul hX⟩

/-! ## The root directory -/

/-- The root directory can be cleared, but not removed. -/
theorem rebuild_top (hA : A.WellFormed) (hp : root.isAbsolute = true) (hnil : root.parts = []) :
    ∃ B records failure, rebuild A root = (B, records, some failure) ∧ Swept [] A B ∧
      ∀ n, B.node? [n] = none := by
  have hdots : ".." ∉ root.parts := by simp [hnil]
  have hnul : hasNul root = false := by simp [hasNul, hnil]
  have hlocate : ∀ (C : FileSystem) follow, C.locate follow root = .ok ⟨[], none⟩ := by
    intro C follow
    rw [locate_of_isAbsolute hp, hnil]
    rfl
  have hlook : ∀ follow, A.look follow root = .ok .directory := fun follow =>
    (look_eq_ok hp).2 ⟨hnul, _, hlocate A follow, node?_nil A⟩
  have hobstacle : obstacle A root = .ok .tree := by
    simp only [obstacle, isLink, isFile, isDir, asks, hlook]
    rfl
  have hdepth : ∀ rest, (A.node? ([] ++ rest)).isSome → rest.length < A.nodes.length + 1 :=
    fun rest hrest => Nat.lt_succ_of_le (length_le_nodes hA hrest)
  obtain ⟨B, hclear, hswept, hbare⟩ := clear_sweeps (L := []) (A.nodes.length + 1) hp hdots hnul hA
    (fun C _ => leadsTo_nil hp hnil) hdepth
  have hremove : ∃ failure, removeDirectory B root = .error failure := by
    simp only [removeDirectory, removeDir, find_eq_ok.2 ⟨hnul, hlocate B false⟩, bind, Except.bind]
    exact ⟨_, rfl⟩
  obtain ⟨failure, hremove⟩ := hremove
  refine ⟨B, [LogRecord.debug ("Clearing output directory " ++ root.text)], failure, ?_, hswept, hbare⟩
  simp only [rebuild, hobstacle, hclear, hremove]

/-! ## Rebuilding twice -/

/-- A rebuild fails, and fails again without changing anything. -/
def Stalls (A : FileSystem) (root : Path) : Prop :=
  ∃ B records failure C records' failure', rebuild A root = (B, records, some failure) ∧
    rebuild B root = (C, records', some failure') ∧ SameNodes B C

theorem stalls_of_unchanged {records : List LogRecord} {failure : Failure}
    (h : rebuild A root = (A, records, some failure)) : Stalls A root :=
  ⟨A, records, failure, A, records, failure, h, h, fun _ => rfl, rfl, id⟩

/-- Where nothing is in the root directory, nothing is anywhere. -/
theorem node?_cons_eq_none (hB : B.WellFormed) (hbare : ∀ n, B.node? [n] = none) (n : String)
    (rest : List String) : B.node? (n :: rest) = none := by
  by_cases hrest : rest = []
  · rw [hrest, hbare]
  · exact hB.node?_append_eq_none (show B.node? [n] ≠ some .directory by simp [hbare]) rest hrest

theorem stalls_top (hA : A.WellFormed) (hp : root.isAbsolute = true) (hnil : root.parts = []) :
    Stalls A root := by
  obtain ⟨B, records, failure, hB, hswept, hbare⟩ := rebuild_top hA hp hnil
  have hBwf := hswept.emptied.wellFormed
  obtain ⟨C, records', failure', hC, hswept', hbare'⟩ := rebuild_top hBwf hp hnil
  refine ⟨B, records, failure, C, records', failure', hB, hC, fun x => ?_, hswept'.workDir, fun hlost => ?_⟩
  · cases x with
    | nil => simp
    | cons n rest =>
      rw [node?_cons_eq_none hBwf hbare, node?_cons_eq_none hswept'.emptied.wellFormed hbare']
  · -- The current directory is there, so it is the root directory.
    have hwork := hBwf.workDir hlost
    rw [hswept'.stays, hlost]
    rintro rest hrest hdir
    obtain ⟨n, rest, rfl⟩ := List.exists_cons_of_ne_nil hrest
    rw [hdir, List.nil_append, node?_cons_eq_none hBwf hbare] at hwork
    cases hwork

/-- At a path that does not need its own entry, a rebuild makes a new directory, or stalls. -/
theorem rebuild_ways (hA : A.WellFormed) (hp : root.isAbsolute = true) (hdots : ".." ∉ root.parts)
    (halone : A.StandsAlone root) :
    (∃ X B records, rebuild A root = (B, records, none) ∧ hasNul root = false ∧ Fresh root X B) ∨
      Stalls A root := by
  by_cases hne : root.parts = []
  · exact .inr (stalls_top hA hp hne)
  by_cases hnamed : hasNul root = false ∧ ∃ X, A.Names root X
  · obtain ⟨hnul, X, hX⟩ := hnamed
    obtain ⟨B, records, hrebuild, hB⟩ := rebuild_named hp hdots hnul hA (halone X hX)
    exact .inl ⟨X, B, records, hrebuild, hnul, hB.fresh hp (halone X hX)⟩
  · have hnone : hasNul root = true ∨ ∀ x, ¬A.Names root x := by
      simpa only [not_and_or, Bool.not_eq_false, not_exists] using hnamed
    obtain ⟨failure, h⟩ | ⟨hdir, h⟩ := rebuild_unnamed hA hp hdots hne hnone
    · exact .inr (stalls_of_unchanged h)
    · cases hmade : A.makeDirs root with
      | mk B error =>
        simp only [makeRoot, hmade] at h
        cases error with
        | none =>
          obtain ⟨hnul, X, hX⟩ := fresh_of_makeDirs hA hp hdots hdir hmade
          exact .inl ⟨X, B, [], h, hnul, hX⟩
        | some e =>
          obtain rfl | ⟨hnul, hblocked⟩ := makeDirsWithin_failed hp hdots hA _ hmade
          · exact .inr (stalls_of_unchanged h)
          · obtain ⟨failure, hagain⟩ := rebuild_blocked hp hdots hnul hblocked
            exact .inr ⟨B, [], _, B, [], failure, h, hagain, fun _ => rfl, rfl, id⟩

end TemplateTree.Output
