import TemplateTree.Proofs.Compile.FinalTree

/-!
# What a run leaves alone

Whatever the outcome of a run, nothing changes outside its output directory, except that directories
above that may be new. The output directory is the entry that the output path names, with all that is
in it if it is a directory; a link there is not followed.

* `renderAll_frame`: rendering changes nothing but what is below the output directory.
* `compile_frame`: whole runs.
-/

namespace TemplateTree

open FileSystem Output

variable {α σ : Type} {engine : Engine α σ} {job : Job α} {root : Path} {L x : Location}
variable {fs : FileSystem} {state : σ}

/-! ## Rendering -/

theorem after_frame (hp : root.isAbsolute = true) (hdots : ".." ∉ root.parts) {file : InputFile}
    {run next : Run σ} {failure : Option Failure} (h : IsTree root L run.files)
    (hresult : renderFile engine job root file run = (next, failure)) :
    IsTree root L next.files ∧ Extends run.files next.files ∧
      ∀ x, ¬L <+: x → next.files.node? x = run.files.node? x := by
  obtain ⟨htree, hext, text, hwrote, -⟩ := renderFile_step hp hdots h hresult
  refine ⟨htree, hext, fun x hx => ?_⟩
  obtain heq | ⟨-, -, q, -, -, rfl⟩ | ⟨-, rfl⟩ := hwrote.node x
  · exact heq
  · exact absurd (List.prefix_append L q) hx
  · exact absurd (List.prefix_append L _) hx

/-- What the rendering of single files keeps is kept by rendering them all, however it ends. -/
theorem renderAll_keeps {P : FileSystem → Prop}
    (hstep : ∀ file (run : Run σ), P run.files → P (renderFile engine job root file run).1.files)
    (files : List InputFile) (report : Report) {run : Run σ} (h : P run.files) :
    P (renderAll engine job root files report run).1.files := by
  induction files generalizing report run with
  | nil => exact h
  | cons file files ih =>
    have hnext := hstep file run h
    rw [renderAll]
    generalize renderFile engine job root file run = result at hnext ⊢
    obtain ⟨next, failure⟩ := result
    cases failure with
    | none => exact ih _ hnext
    | some failure =>
      dsimp only
      split_ifs
      · exact hnext
      · exact ih _ hnext
      · exact hnext

/-- However the rendering of files ends, what is not below the output directory stays as it is. -/
theorem renderAll_frame (engine : Engine α σ) (job : Job α) (hp : root.isAbsolute = true)
    (hdots : ".." ∉ root.parts) (files : List InputFile) (report : Report) {run : Run σ}
    (h : IsTree root L run.files) :
    IsTree root L (renderAll engine job root files report run).1.files ∧
      Extends run.files (renderAll engine job root files report run).1.files ∧
      ∀ x, ¬L <+: x →
        (renderAll engine job root files report run).1.files.node? x = run.files.node? x := by
  refine renderAll_keeps (P := fun fs => IsTree root L fs ∧ Extends run.files fs ∧
    ∀ x, ¬L <+: x → fs.node? x = run.files.node? x) (fun file start hstart => ?_) files report
    ⟨h, .refl _, fun _ _ => rfl⟩
  obtain ⟨htree, hext, hframe⟩ := hstart
  obtain ⟨htree', hext', hframe'⟩ := after_frame hp hdots htree rfl
  exact ⟨htree', hext.trans hext', fun x hx => (hframe' x hx).trans (hframe x hx)⟩

/-! ## Whole runs -/

/-- Apart from what is within a path, everything is as it was, and what is new are directories above
    the path. -/
structure Outside (root : Path) (A B : FileSystem) : Prop where
  kept : ∀ x node, ¬Within A root x → A.node? x = some node → B.node? x = some node
  new : ∀ x node, ¬Within A root x → A.node? x = none → B.node? x = some node →
    Within B root x ∨ (node = .directory ∧ ∃ k, B.Names (root.upTo k) x)

theorem Outside.refl (root : Path) (A : FileSystem) : Outside root A A :=
  ⟨fun _ _ _ h => h, fun x node _ hnone h => by rw [hnone] at h; cases h⟩

theorem rebuild_outside (hp : root.isAbsolute = true) (hdots : ".." ∉ root.parts)
    (hfs : fs.WellFormed) : Outside root fs (rebuild fs root).1 := by
  obtain ⟨-, -, hnode⟩ := rebuild_aside hp hdots hfs
  constructor
  · intro x node hx hold
    obtain heq | ⟨hnone, -⟩ := hnode x hx
    · rw [heq, hold]
    · rw [hold] at hnone
      cases hnone
  · intro x node hx hnone hnew
    obtain heq | ⟨-, hdir, hnames⟩ := hnode x hx
    · rw [heq, hnone] at hnew
      cases hnew
    · rw [hdir] at hnew
      exact .inr ⟨(Option.some.inj hnew).symm, hnames⟩

/-- What is within a path that names a directory. -/
theorem within_iff_of_isTree (hp : root.isAbsolute = true) (hdots : ".." ∉ root.parts)
    (h : IsTree root L fs) : Within fs root x ↔ L <+: x := by
  obtain ⟨s, rfl, hname, hd⟩ := h.names.spot
  have hs := (locate_false_eq_ok h.wellFormed hp hdots).2 (.inr ⟨h.names, hd, hname⟩)
  constructor
  · rintro ⟨s', hs', hx⟩
    rw [hs] at hs'
    cases hs'
    obtain rfl | ⟨-, hx⟩ := hx
    · exact List.prefix_refl _
    · exact hx
  · exact fun hx => ⟨s, hs, .inr ⟨h.leadsTo.1, hx⟩⟩

/-- Rendering into an empty output directory adds nothing outside it. -/
theorem Outside.rendered (hp : root.isAbsolute = true) (hdots : ".." ∉ root.parts)
    {A B C : FileSystem} (h : Outside root A B) (hB : Laid root L [] B) (hC : IsTree root L C)
    (hext : Extends B C) (hframe : ∀ x, ¬L <+: x → C.node? x = B.node? x) : Outside root A C := by
  constructor
  · intro x node hx hold
    have hmid := h.kept x node hx hold
    by_cases hL : L <+: x
    · obtain ⟨rest, rfl⟩ := hL
      by_cases hrest : rest = []
      · subst hrest
        rw [List.append_nil] at hmid ⊢
        rw [hB.isTree.leadsTo.1] at hmid
        rw [hC.leadsTo.1, hmid]
      · obtain hnone | ⟨-, entry, hmem, -⟩ := hB.rest rest hrest rfl
        · rw [hmid] at hnone
          cases hnone
        · cases hmem
    · rw [hframe x hL, hmid]
  · intro x node hx hnone hnew
    by_cases hL : L <+: x
    · exact .inl ((within_iff_of_isTree hp hdots hC).2 hL)
    · rw [hframe x hL] at hnew
      obtain hwithin | ⟨hdir, k, hk⟩ := h.new x node hx hnone hnew
      · exact absurd ((within_iff_of_isTree hp hdots hB.isTree).1 hwithin) hL
      · exact .inr ⟨hdir, k, hk.mono hp hext⟩

/-- Whatever the outcome of a run, everything outside its output directory is as it was, and what is new
    there are directories above the output directory. -/
theorem compile_frame (engine : Engine α σ) (job : Job α) (state : σ) (hfs : fs.WellFormed)
    (hdots : ".." ∉ job.output.parts) :
    match fs.absolute job.output with
    | .error _ => (compile engine job fs state).1.files = fs
    | .ok root => Outside root fs (compile engine job fs state).1.files := by
  unfold compile
  cases hroot : fs.absolute job.output with
  | error e => rfl
  | ok root =>
    obtain ⟨hp, hdots'⟩ := absolute_eq_ok hfs hdots hroot
    dsimp only
    split
    · exact .refl root fs
    · unfold compileFiles
      have hbegun : ((Run.mk fs state [] []).logged (job.inputs.collect fs).log).files = fs := rfl
      cases hprepare : prepare engine job root (job.inputs.collect fs).files
          ((Run.mk fs state [] []).logged (job.inputs.collect fs).log) with
      | mk start result =>
        have hstart : Outside root fs start.files := by
          have := prepare_files engine job root
            (job.inputs.collect fs).files
            ((Run.mk fs state [] []).logged (job.inputs.collect fs).log)
          rw [hprepare, hbegun] at this
          obtain heq | heq := this
          · rw [heq]
            exact .refl root fs
          · rw [heq]
            exact rebuild_outside hp hdots' hfs
        cases result with
        | error failure => exact hstart
        | ok searchPath =>
          obtain ⟨L, hempty⟩ := prepare_laid hp hdots' (hbegun ▸ hfs) hprepare
          obtain ⟨htree, hext, hframe⟩ := renderAll_frame engine job hp hdots'
            (job.inputs.collect fs).files ⟨root, searchPath, [], []⟩ hempty.isTree
          have := hstart.rendered hp hdots' hempty htree hext hframe
          dsimp only
          split
          all_goals
            rename_i hrender
            rw [hrender] at this
            exact this

/-! ## A link out of the output directory -/

/-- An output directory that holds a file and a link to another directory. -/
def linked : FileSystem :=
  (((((FileSystem.empty []).put ["keep"] .directory).put ["keep", "f"]
    (.file "kept".toUTF8 defaultMode 0)).put ["out"] .directory).put ["out", "l"]
    (.link "/keep")).put ["out", "old"] (.file "stale".toUTF8 defaultMode 0)

theorem linked_wellFormed : linked.WellFormed :=
  wellFormed_of_nodes (by decide +kernel) (by decide +kernel) (by decide +kernel)

/-- A job that renders a missing template into that directory. -/
def replacing : Job Datum where
  inputs := .files [⟨["file"], ⟨.single, ["missing"]⟩, by decide⟩]
  includeDirs := []
  base := none
  output := ⟨.single, ["out"]⟩
  project := .text ""
  options := {}

theorem compile_frame_linked : Outside ⟨.single, ["out"]⟩ linked
    (compile recorder replacing linked []).1.files :=
  compile_frame recorder replacing [] linked_wellFormed (by decide)

end TemplateTree
