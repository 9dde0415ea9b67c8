import TemplateTree.Proofs.Compile.Twins
import TemplateTree.Proofs.SearchPath.Resolving
import TemplateTree.Proofs.Template.Twins

/-!
# What was in the output directory before

The old content of the output directory has no influence on a run. Whatever is there, a rebuild makes an empty
directory of it, or fails in a way that has nothing to do with it. So two file systems that agree on
everything else are the same from then on, but for their clocks.

* `SameElsewhere`: two file systems that agree on everything but an entry and what is below it.
* `IsStraight`: paths without links before the last name.
* `rebuild_forgets`: a rebuild ends in the same way in both.
* `compile_forgets`: whole runs.
-/

namespace TemplateTree

open FileSystem Output

variable {A B : FileSystem} {root : Path} {α σ : Type}

/-! ## File systems that agree elsewhere -/

/-- Two file systems that agree on everything but an entry and what is below it, whatever their clocks show. -/
structure SameElsewhere (X : Location) (A B : FileSystem) : Prop where
  node : ∀ x, ¬X <+: x → B.node? x = A.node? x
  workDir : B.workDir = A.workDir
  workDirLost : B.workDirLost = A.workDirLost

/-- A path from the root directory without double dots, and without links before its last name. -/
structure IsStraight (fs : FileSystem) (p : Path) : Prop where
  isAbsolute : p.isAbsolute = true
  noDots : ".." ∉ p.parts
  noLink : ∀ x, x <+: p.parts → x ≠ p.parts → ∀ t, fs.node? x ≠ some (.link t)

/-- The current directory is there, and not within an entry. -/
structure WorksOutside (X : Location) (fs : FileSystem) : Prop where
  there : fs.workDirLost = false
  outside : ¬X <+: fs.workDir

theorem WorksOutside.ne_nil {X : Location} (h : WorksOutside X A) : X ≠ [] := by
  rintro rfl
  exact h.outside List.nil_prefix

/-! ## Rebuilding -/

/-- File systems with the same nodes have the same nodes when the same directories have been made. -/
theorem node?_of_made {M N : FileSystem} (hnode : ∀ x, B.node? x = A.node? x) (hM : Made root A M)
    (hN : Made root B N) (h : SameEntries M N) (x : Location) : N.node? x = M.node? x := by
  have hsame := h.isDirectoryAt_eq x
  obtain hA | ⟨-, hA, -⟩ := hM.node x
  · obtain hB | ⟨-, hB, -⟩ := hN.node x
    · rw [hA, hB, hnode]
    · rw [isDirectoryAt_eq_true.2 hB, isDirectoryAt_eq_true] at hsame
      rw [hsame, hB]
  · rw [isDirectoryAt_eq_true.2 hA, eq_comm, isDirectoryAt_eq_true] at hsame
    rw [hsame, hA]

/-- At a path that names no entry, a rebuild ends in the same way in file systems with the same nodes. -/
theorem rebuild_unnamed_alike (hA : A.WellFormed) (hB : B.WellFormed) (hp : root.isAbsolute = true)
    (hdots : ".." ∉ root.parts) (hne : root.parts ≠ [])
    (hnone : hasNul root = true ∨ ∀ x, ¬A.Names root x) (hnode : ∀ x, B.node? x = A.node? x)
    (hwork : B.workDir = A.workDir) (hlost : B.workDirLost = A.workDirLost) :
    RebuiltAlike root (rebuild A root) (rebuild B root) := by
  have h := sameEntries_of_nodes hnode hwork hlost
  have hobstacle : obstacle B root = obstacle A root := by
    have hasks : ∀ {ask : Node → Bool}, (∀ a b, SameNode a b → ask a = ask b) →
        ∀ follow, B.asks follow root ask = A.asks follow root ask :=
      fun hask follow => (h.asks_eq hask follow root).symm
    unfold obstacle isLink isFile isDir
    rw [hasks (by rintro _ _ ⟨⟩ <;> rfl), hasks (by rintro _ _ ⟨⟩ <;> rfl), hasks (by rintro _ _ ⟨⟩ <;> rfl)]
  obtain hnothing | ⟨e, herror⟩ := obstacle_unnamed hA hp hdots hne hnone
  · have hdir := (obstacle_eq_ok hnothing).1 rfl
    have hdirs := h.makeDirs root
    have hmade := (makeDirs_grown hA root).toMade
    obtain ⟨hmade', hN, -, -⟩ := makeDirs_grown hB root
    have hrebuild : ∀ fs, obstacle fs root = .ok .nothing →
        rebuild fs root = ((makeRoot fs root).1, [], (makeRoot fs root).2) := fun fs hfs => by
      simp only [rebuild, hfs]
    rw [hrebuild A hnothing, hrebuild B (hobstacle.trans hnothing)]
    unfold makeRoot
    cases hM : A.makeDirs root with
    | mk M error =>
      cases hN' : B.makeDirs root with
      | mk N error' =>
        rw [hM] at hmade hdirs
        rw [hN'] at hmade' hN hdirs
        obtain ⟨hMN, rfl⟩ : SameEntries M N ∧ error = error' := hdirs
        cases error with
        | some e => exact .failed _ _ _ hMN
        | none =>
          obtain ⟨-, X, hX⟩ := fresh_of_makeDirs hA hp hdots hdir hM
          exact .done _ _ hX hN (node?_of_made hnode hmade hmade' hMN) hMN.workDir.symm hMN.workDirLost.symm
  · rw [show rebuild A root = (A, [], some (.raw e)) by simp only [rebuild, herror],
      show rebuild B root = (B, [], some (.raw e)) by simp only [rebuild, hobstacle, herror]]
    exact .failed _ _ _ h

/-- Rebuilds of two file systems that agree elsewhere end in the same way. -/
theorem rebuild_forgets (hA : A.WellFormed) (hB : B.WellFormed) (hroot : IsStraight A root)
    (hwork : WorksOutside root.parts A) (hsame : SameElsewhere root.parts A B) :
    RebuiltAlike root (rebuild A root) (rebuild B root) := by
  have hp := hroot.isAbsolute
  have hdots := hroot.noDots
  have hne := hwork.ne_nil
  have hpruned : ∀ y, (B.pruned root.parts).node? y = (A.pruned root.parts).node? y := by
    intro y
    rw [node?_pruned B hne, node?_pruned A hne]
    split_ifs with hy
    · rfl
    · exact hsame.node y hy
  have hnames : (A.pruned root.parts).Names root root.parts ↔ (B.pruned root.parts).Names root root.parts :=
    ⟨fun h => h.mono hp ⟨fun y hy => by rw [hpruned, hy], fun y t hy => by rw [hpruned, hy]⟩,
      fun h => h.mono hp ⟨fun y hy => by rw [← hpruned, hy], fun y t hy => by rw [← hpruned, hy]⟩⟩
  by_cases hnamed : hasNul root = false ∧ (A.pruned root.parts).Names root root.parts
  · -- The path names the same entry in both, and a new directory takes its place.
    obtain ⟨hnul, hX⟩ := hnamed
    obtain ⟨A', records, hA', hrenewed⟩ := rebuild_named hp hdots hnul hA hX
    obtain ⟨B', records', hB', hrenewed'⟩ := rebuild_named hp hdots hnul hB (hnames.1 hX)
    have haway : ¬root.parts <+: B.workDir := hsame.workDir ▸ hwork.outside
    rw [hA', hB']
    refine .done _ _ (hrenewed.fresh hp hX) hrenewed'.wellFormed (fun x => ?_) ?_ ?_
    · rw [hrenewed.node, hrenewed'.node]
      split_ifs with hx hx'
      · rfl
      · rfl
      · exact hsame.node x hx'
    · rw [hrenewed.workDir, hrenewed'.workDir, hsame.workDir]
    · rw [hrenewed.stays hwork.outside, hrenewed'.stays haway, hsame.workDirLost]
  · -- There is nothing under the path in either, so that they agree everywhere.
    have hbare : ∀ C : FileSystem, C.WellFormed →
        ((C.pruned root.parts).Names root root.parts → (A.pruned root.parts).Names root root.parts) →
        ∀ x, root.parts <+: x → C.node? x = none := by
      rintro C hC hback _ ⟨rest, rfl⟩
      have hnone : C.node? root.parts = none := by
        rw [← Option.not_isSome_iff_eq_none]
        intro hsome
        refine hnamed ⟨?_, hback (names_of_present hC hp hne hdots hsome)⟩
        simpa [hasNul] using fun n hn => (hC.isEntryName_of_mem hsome hn).2.2
      by_cases hrest : rest = []
      · rw [hrest, List.append_nil, hnone]
      · exact hC.node?_append_eq_none (by simp [hnone]) rest hrest
    have hnode : ∀ x, B.node? x = A.node? x := by
      intro x
      by_cases hx : root.parts <+: x
      · rw [hbare A hA id x hx, hbare B hB hnames.2 x hx]
      · exact hsame.node x hx
    have hnone : hasNul root = true ∨ ∀ x, ¬A.Names root x := by
      rw [← Bool.not_eq_false, or_iff_not_imp_left, not_not]
      intro hnul x hx
      obtain rfl := names_straight hA hp hdots hroot.noLink hx
      exact hnamed ⟨hnul, standsAlone_of_linkless hA hp hdots hroot.noLink _ hx⟩
    exact rebuild_unnamed_alike hA hB hp hdots hne hnone hnode hsame.workDir hsame.workDirLost

/-! ## Whole runs -/

/-- The template engine cannot tell stamps apart. -/
theorem engine_unstamped (sink : Template.Sink) : Unstamped (Template.engine sink) Template.SameSession :=
  ⟨fun _ _ config s => .configure config s, fun hsteady h => h.steady hsteady,
    fun request _ _ hfiles hst => Template.render_twins sink hfiles request hst⟩

/-- Whatever has been in the output directory, a run has the same outcome. -/
theorem compile_forgets (sink : Template.Sink) (job : Job Template.Value) (state : Template.Session)
    {files : List InputFile} (hinputs : job.inputs = .files files) (hA : A.WellFormed) (hB : B.WellFormed)
    (houtput : IsStraight A job.output) (hwork : WorksOutside job.output.parts A)
    (hsame : SameElsewhere job.output.parts A B) :
    SameOutcome (compile (Template.engine sink) job A state) (compile (Template.engine sink) job B state) := by
  have habsolute : ∀ C : FileSystem, C.absolute job.output = .ok job.output := fun C => by
    rw [FileSystem.absolute, if_pos houtput.isAbsolute]
  unfold compile
  rw [habsolute A, habsolute B, hinputs]
  exact compileFiles_twins (engine_unstamped sink) job houtput.isAbsolute houtput.noDots files rfl rfl
    (absolute_congr hsame.workDir hsame.workDirLost) (resolve_isOk hwork.there _ _ _)
    (rebuild_forgets hA hB houtput hwork hsame)

/-! ## With and without a link in the output directory -/

/-- The file system with a link out of the output directory, before there was an output directory. -/
def unlinked : FileSystem :=
  ((FileSystem.empty []).put ["keep"] .directory).put ["keep", "f"] (.file "kept".toUTF8 defaultMode 0)

theorem unlinked_wellFormed : unlinked.WellFormed :=
  wellFormed_of_nodes (by decide +kernel) (by decide +kernel) (by decide +kernel)

/-- A job that renders the file beside the output directory. -/
def copying : Job Template.Value where
  inputs := .files [⟨["copy"], ⟨.single, ["keep", "f"]⟩, by decide⟩]
  includeDirs := []
  base := none
  output := ⟨.single, ["out"]⟩
  project := .text ""
  options := {}

theorem compile_forgets_linked :
    SameOutcome (compile (Template.engine .file) copying unlinked .fresh)
      (compile (Template.engine .file) copying linked .fresh) := by
  refine compile_forgets .file copying .fresh rfl unlinked_wellFormed linked_wellFormed
    ⟨rfl, by decide, linkless_of_single rfl⟩ ⟨rfl, by decide⟩ ⟨fun x hx => ?_, rfl, rfl⟩
  -- What the link adds is all within the output directory.
  have hout : ∀ rest, x ≠ "out" :: rest := by
    rintro rest rfl
    exact hx (by simp [copying])
  simp [linked, unlinked, node?_put, hout]

end TemplateTree
