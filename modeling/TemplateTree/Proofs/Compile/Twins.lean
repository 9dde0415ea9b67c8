import TemplateTree.Proofs.Compile.Frame
import TemplateTree.Proofs.Output.Rebuilding
import TemplateTree.Proofs.Output.Twins

/-!
# Runs in file systems whose clocks differ

A run of an engine that cannot tell stamps apart has the same report in two file systems with the same entries,
and leaves two file systems with the same entries. It is enough that the file systems are the same once the
output directory has been rebuilt: all that is written then is written below that, where no file was.

* `Unstamped`: engines that cannot tell stamps apart.
* `renderAll_twins`: rendering.
* `RebuiltAlike`: two rebuilds that end in the same way.
* `compileFiles_twins`: runs.
-/

namespace TemplateTree

open FileSystem Output

variable {α σ : Type} {A B M N : FileSystem} {R : Epoch → FileSystem → σ → σ → Prop} {e : Epoch}
variable {root p : Path} {L X : Location}

/-! ## Rendering -/

/-- An engine that cannot tell stamps apart. `R` says which of its states belong together; they do so as long
    as paths lead where they lead. -/
structure Unstamped (E : Engine α σ) (R : Epoch → FileSystem → σ → σ → Prop) : Prop where
  configure : ∀ e A config s, R e A (E.configure config s).1 (E.configure config s).1
  steady : ∀ {e A B s t}, Steady A B → R e A s t → R e B s t
  evaluate : ∀ {e A B} (request : Request α) {s t}, Twins e A B → R e A s t →
    SameWritten (R e A) (E.evaluate A request s) (E.evaluate B request t)

/-- Two runs with an output directory each that differ in stamps, and in what they have logged. -/
structure SameRun (e : Epoch) (R : Epoch → FileSystem → σ → σ → Prop) (root : Path) (L : Location)
    (run run' : Run σ) : Prop where
  tree : IsTree root L run.files
  tree' : IsTree root L run'.files
  files : Twins e run.files run'.files
  engine : R e run.files run.engine run'.engine
  warnings : run.warnings = run'.warnings

theorem SameRun.logged {run run' : Run σ} (h : SameRun e R root L run run') (records records' : List LogRecord) :
    SameRun e R root L (run.logged records) (run'.logged records') :=
  ⟨h.tree, h.tree', h.files, h.engine, h.warnings⟩

section

variable {E : Engine α σ} (hE : Unstamped E R) (hp : root.isAbsolute = true) (hdots : ".." ∉ root.parts)
variable (hheld : ∀ x, e.held x → ¬L <+: x)

include hE hp hdots hheld

theorem renderUnit_twins (context : Entries α) (source : Path) (name : String) {segments : List String}
    (hsegs : ".." ∉ segments) (hA : IsTree root L A) (hB : IsTree root L B) (hfiles : Twins e A B) {s t : σ}
    (hst : R e A s t) :
    let r := renderUnit E context source name (root.descend segments) A s
    let r' := renderUnit E context source name (root.descend segments) B t
    Twins e r.1 r'.1 ∧ R e r.1 r.2.1 r'.2.1 ∧ r.2.2 = r'.2.2 := by
  unfold renderUnit
  rw [hfiles.entries.read_eq]
  cases B.read source with
  | error e => exact ⟨hfiles, hst, rfl⟩
  | ok bytes =>
    have hwrite := writeAtomically_twins (R := R e) hE.steady hp hdots hA hB hfiles hheld hsegs defaultMode hst
      (fun S T hST hst => hE.evaluate ⟨context, Text.decodeFile bytes, name⟩ hST hst)
    dsimp only at hwrite ⊢
    exact ⟨hwrite.1, hwrite.2.1, congrArg (Option.map (namingSource source)) hwrite.2.2⟩

variable (job : Job α) {run run' : Run σ}

theorem renderFile_twins (file : InputFile) (h : SameRun e R root L run run') :
    SameRun e R root L (renderFile E job root file run).1 (renderFile E job root file run').1 ∧
      (renderFile E job root file run).2 = (renderFile E job root file run').2 := by
  have htree : IsTree root L (renderFile E job root file run).1.files := (after_frame hp hdots h.tree rfl).1
  have htree' : IsTree root L (renderFile E job root file run').1.files := (after_frame hp hdots h.tree' rfl).1
  unfold renderFile at htree htree' ⊢
  dsimp only [Run.logged, Run.warned] at htree htree' ⊢
  generalize contextViolations _ = violations at htree htree' ⊢
  cases violations with
  | cons => exact ⟨⟨h.tree, h.tree', h.files, h.engine, congrArg (· ++ _) h.warnings⟩, rfl⟩
  | nil =>
    obtain ⟨hfiles, hengine, hfailure⟩ := renderUnit_twins hE hp hdots hheld
      (buildContext E.ofText job.base file job.project job.options.sourceExtension) file.path
      file.relativeName file.not_mem_segments h.tree h.tree' h.files h.engine
    exact ⟨⟨htree, htree', hfiles, hengine, congrArg (· ++ _) h.warnings⟩, hfailure⟩

/-- Twin runs go the same way, file by file. -/
theorem renderAll_twins (files : List InputFile) (report : Report) (h : SameRun e R root L run run') :
    SameRun e R root L (renderAll E job root files report run).1 (renderAll E job root files report run').1 ∧
      (renderAll E job root files report run).2 = (renderAll E job root files report run').2 := by
  induction files generalizing report run run' with
  | nil => exact ⟨h, rfl⟩
  | cons file files ih =>
    have hstep := renderFile_twins hE hp hdots hheld job file h
    rw [renderAll, renderAll]
    generalize renderFile E job root file run = a at hstep ⊢
    generalize renderFile E job root file run' = b at hstep ⊢
    obtain ⟨next, failure⟩ := a
    obtain ⟨next', failure'⟩ := b
    obtain ⟨hnext, rfl⟩ : SameRun e R root L next next' ∧ failure = failure' := hstep
    cases failure with
    | none => exact ih _ hnext
    | some failure =>
      dsimp only
      split_ifs
      · exact ⟨hnext, rfl⟩
      · exact ih _ (hnext.logged _ _)
      · exact ⟨hnext, rfl⟩

end

/-! ## The search path -/

theorem absolute_congr (hwork : B.workDir = A.workDir) (hlost : B.workDirLost = A.workDirLost) (p : Path) :
    A.absolute p = B.absolute p := by
  simp only [FileSystem.absolute, workPath, hwork, hlost]

/-- The search path does not depend on anything but the current directory. -/
theorem resolve_congr (h : ∀ p, A.absolute p = B.absolute p) (files : List InputFile) (includeDirs : List Path)
    (mode : IncludePathMode) :
    SearchPath.resolve A files includeDirs mode = SearchPath.resolve B files includeDirs mode := by
  have hdirs : SearchPath.absoluteDirs A includeDirs = SearchPath.absoluteDirs B includeDirs := by
    induction includeDirs with
    | nil => rfl
    | cons dir dirs ih => rw [SearchPath.absoluteDirs, SearchPath.absoluteDirs, h, ih]
  simp only [SearchPath.resolve, h, hdirs]

/-! ## Rebuilding -/

/-- Two rebuilds end in the same way: with new directories in file systems with the same nodes, or with the
    same failure in file systems with the same entries. -/
inductive RebuiltAlike (root : Path) : FileSystem × List LogRecord × Option Failure →
    FileSystem × List LogRecord × Option Failure → Prop
  | done {A B : FileSystem} {X : Location} (records records' : List LogRecord) (fresh : Fresh root X A)
      (wellFormed : B.WellFormed) (node : ∀ x, B.node? x = A.node? x) (workDir : B.workDir = A.workDir)
      (workDirLost : B.workDirLost = A.workDirLost) :
      RebuiltAlike root (A, records, none) (B, records', none)
  | failed {A B : FileSystem} (records records' : List LogRecord) (failure : Failure)
      (entries : SameEntries A B) : RebuiltAlike root (A, records, some failure) (B, records', some failure)

/-- Below a new directory no file is held. -/
theorem held_outside (h : Fresh root X A) (B : FileSystem) (x : Location) (hx : (beginning A B).held x) :
    ¬X <+: x := by
  obtain ⟨content, mode, stamp, hx⟩ := hx
  rintro ⟨rest, rfl⟩
  by_cases hrest : rest = []
  · rw [hrest, List.append_nil, h.directory] at hx
    cases hx
  · rw [h.bare rest hrest] at hx
    cases hx

/-! ## Both halves -/

/-- Two runs have the same outcome: the same report or failure, the same warnings, and file systems with the
    same entries. -/
structure SameOutcome (r r' : Run σ × Except Failure Report) : Prop where
  result : r.2 = r'.2
  warnings : r.1.warnings = r'.1.warnings
  files : SameEntries r.1.files r'.1.files

/-- When rebuilding the output directory ends in the same way in both file systems, a run has the same outcome
    in both. -/
theorem compileFiles_twins {E : Engine α σ} (hE : Unstamped E R) (job : Job α) (hp : root.isAbsolute = true)
    (hdots : ".." ∉ root.parts) (files : List InputFile) {run run' : Run σ} (hengine : run'.engine = run.engine)
    (hwarnings : run.warnings = run'.warnings) (habsolute : ∀ p, run.files.absolute p = run'.files.absolute p)
    (hresolve : (SearchPath.resolve run.files files job.includeDirs job.options.includePathMode).2.isOk)
    (hrebuild : RebuiltAlike root (rebuild run.files root) (rebuild run'.files root)) :
    SameOutcome (compileFiles E job root files run) (compileFiles E job root files run') := by
  have hsame := resolve_congr habsolute files job.includeDirs job.options.includePathMode
  unfold compileFiles prepare
  rw [← hsame]
  generalize SearchPath.resolve run.files files _ _ = resolved at hresolve ⊢
  obtain ⟨log, searchPath⟩ := resolved
  cases searchPath with
  | error e => cases hresolve
  | ok searchPath =>
    dsimp only [Run.logged]
    generalize rebuild run.files root = a at hrebuild ⊢
    generalize rebuild run'.files root = b at hrebuild ⊢
    cases hrebuild with
    | failed records records' failure hentries => exact ⟨rfl, hwarnings, hentries⟩
    | @done A B X records records' hfresh hB hnode hwork hlost =>
      dsimp only
      rw [hengine]
      generalize hstart : Run.mk A (E.configure _ run.engine).1 _ run.warnings = start
      generalize hstart' : Run.mk B (E.configure _ run.engine).1 _ run'.warnings = start'
      have hrun : SameRun (beginning A B) R root X start start' := by
        rw [← hstart, ← hstart']
        exact ⟨hfresh.isTree hp hdots, (hfresh.congr hp hB hnode hwork hlost).isTree hp hdots,
          twins_beginning hnode hwork hlost, hE.configure _ _ _ _, hwarnings⟩
      have hrender := renderAll_twins hE hp hdots (held_outside hfresh B) job files ⟨root, searchPath, [], []⟩ hrun
      generalize renderAll E job root files _ start = a at hrender ⊢
      generalize renderAll E job root files _ start' = b at hrender ⊢
      obtain ⟨final, result⟩ := a
      obtain ⟨final', result'⟩ := b
      obtain ⟨hfinal, rfl⟩ : SameRun (beginning A B) R root X final final' ∧ result = result' := hrender
      cases result with
      | error failure => exact ⟨rfl, hfinal.warnings, hfinal.files.entries⟩
      | ok report => exact ⟨rfl, hfinal.warnings, hfinal.files.entries⟩

end TemplateTree
