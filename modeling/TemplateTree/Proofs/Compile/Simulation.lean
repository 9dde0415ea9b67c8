import TemplateTree.Compile
import TemplateTree.Proofs.Output.Stamps

/-!
# Engines that go along with each other

Two engines that write the same texts, run for run, make the same output tree and the same report. They
have to do so only in related states. How their states are related may depend on the file system, as long
as that only grows older; and the first engine may reach states from which the second one need not follow.

* `Simulates`: one engine goes along with another.
* `Alike`: runs that differ in their engines and logs only.
* `Simulates.renderAll`, `Simulates.compile`: whole runs.
-/

namespace TemplateTree

open FileSystem Output

variable {α σ τ : Type}

/-- The engine `F` goes along with `E` while the states of `E` are `good`. `related` says which states of
    both belong together at a file system, between two writes. -/
structure Simulates (E : Engine α σ) (F : Engine α τ) (good : σ → Prop)
    (related : FileSystem → σ → τ → Prop) : Prop where
  ofText : F.ofText = E.ofText
  back : ∀ fs request s, good (E.evaluate fs request s).state → good s
  later : ∀ {A B s t}, related A s t → Later A B → related B s t
  evaluate : ∀ {A S request s t}, Later A S → related A s t → good (E.evaluate S request s).state →
    (F.evaluate S request t).text = (E.evaluate S request s).text ∧
      (F.evaluate S request t).failure = (E.evaluate S request s).failure ∧
      ∀ {B}, Stretch A S B → related B (E.evaluate S request s).state (F.evaluate S request t).state

/-- Two runs that differ in their engines and logs only. -/
structure Alike (related : FileSystem → σ → τ → Prop) (run : Run σ) (run' : Run τ) : Prop where
  files : run'.files = run.files
  warnings : run'.warnings = run.warnings
  engine : related run.files run.engine run'.engine

/-- The same job with the cache of the engine switched on or off. -/
def Job.cached (job : Job α) (isCached : Bool) : Job α :=
  { job with options := { job.options with cacheEnabled := isCached } }

/-- Rendering does not look at whether templates are cached. -/
theorem renderAll_cached (E : Engine α σ) (job : Job α) (isCached : Bool) (root : Path)
    (files : List InputFile) (report : Report) (run : Run σ) :
    renderAll E (job.cached isCached) root files report run = renderAll E job root files report run := by
  induction files generalizing report run with
  | nil => rfl
  | cons file files ih =>
    simp only [renderAll, ih]
    rfl

variable {E : Engine α σ} {F : Engine α τ} {good : σ → Prop} {related : FileSystem → σ → τ → Prop}
variable {job : Job α} {root : Path} {run : Run σ} {run' : Run τ} {isCached isCached' : Bool}

/-- Whether templates are cached shows in how the engine is configured only. -/
theorem prepare_alike (job : Job α) (root : Path) (files : List InputFile) (hfiles : run'.files = run.files)
    (hwarnings : run'.warnings = run.warnings) (hdated : run.files.Dated)
    (hconfigure : ∀ A (config : EngineConfig), A.Dated →
      related A (E.configure { config with cacheEnabled := isCached } run.engine).1
        (F.configure { config with cacheEnabled := isCached' } run'.engine).1) :
    let r := prepare E (job.cached isCached) root files run
    let r' := prepare F (job.cached isCached') root files run'
    r'.1.files = r.1.files ∧ r'.1.warnings = r.1.warnings ∧ r'.2 = r.2 ∧
      (r.2.isOk → related r.1.files r.1.engine r'.1.engine) := by
  have hrebuilt := rebuild_dated hdated root
  unfold prepare
  dsimp only [Job.cached, Run.logged]
  rw [hfiles]
  split
  · exact ⟨rfl, hwarnings, rfl, nofun⟩
  · rename_i searchPath _
    split
    · exact ⟨rfl, hwarnings, rfl, nofun⟩
    · rename_i hrebuild
      rw [hrebuild] at hrebuilt
      have := hconfigure _ { searchPath, strictUndefined := job.options.strictUndefined } hrebuilt
      exact ⟨rfl, hwarnings, rfl, fun _ => this⟩

namespace Simulates

variable (h : Simulates E F good related)

include h

/-! ## One file -/

theorem writeAtomically {p : Path} (hp : p.isAbsolute = true) {A : FileSystem} {s : σ} {t : τ}
    (hst : related A s t) (mode : Nat) (request : Request α)
    (hgood : good (Output.writeAtomically A p mode s fun fs s => E.evaluate fs request s).2.1) :
    let r := Output.writeAtomically A p mode s fun fs s => E.evaluate fs request s
    let r' := Output.writeAtomically A p mode t fun fs t => F.evaluate fs request t
    r'.1 = r.1 ∧ r'.2.2 = r.2.2 ∧ related r.1 r.2.1 r'.2.1 := by
  have hbefore := stage_later A p
  unfold Output.writeAtomically at hgood ⊢
  cases hstage : stage A p with
  | mk S result =>
    rw [hstage] at hgood hbefore
    cases result with
    | error failure => exact ⟨rfl, rfl, h.later hst hbefore⟩
    | ok temp =>
      dsimp only at hgood ⊢
      obtain ⟨htext, hfailure, hstate⟩ := h.evaluate hbefore hst hgood
      rw [htext, hfailure]
      exact ⟨rfl, rfl, hstate (stage_stretch hp hstage mode _ _)⟩

theorem renderUnit (target : Path) (hp : target.isAbsolute = true) {A : FileSystem} {s : σ} {t : τ}
    (hst : related A s t) (context : Entries α) (source : Path) (name : String)
    (hgood : good (TemplateTree.renderUnit E context source name target A s).2.1) :
    let r := TemplateTree.renderUnit E context source name target A s
    let r' := TemplateTree.renderUnit F context source name target A t
    r'.1 = r.1 ∧ r'.2.2 = r.2.2 ∧ related r.1 r.2.1 r'.2.1 := by
  unfold TemplateTree.renderUnit at hgood ⊢
  cases hread : A.read source with
  | error e => exact ⟨rfl, rfl, hst⟩
  | ok bytes =>
    rw [hread] at hgood
    obtain ⟨hfiles, hfailure, hstate⟩ := h.writeAtomically hp hst defaultMode _ hgood
    exact ⟨hfiles, congrArg (Option.map (namingSource source)) hfailure, hstate⟩

theorem renderFile (hroot : root.isAbsolute = true) (file : InputFile) (halike : Alike related run run')
    (hgood : good (TemplateTree.renderFile E job root file run).1.engine) :
    let r := TemplateTree.renderFile E job root file run
    let r' := TemplateTree.renderFile F job root file run'
    Alike related r.1 r'.1 ∧ r'.2 = r.2 := by
  obtain ⟨hfiles, hwarnings, hrelated⟩ := halike
  unfold TemplateTree.renderFile at hgood ⊢
  rw [h.ofText]
  dsimp only [Run.logged, Run.warned] at hgood ⊢
  rw [hfiles, hwarnings]
  split
  · exact ⟨⟨rfl, rfl, hrelated⟩, rfl⟩
  · rename_i hvalid
    rw [hvalid] at hgood
    obtain ⟨hsame, hfailure, hstate⟩ := h.renderUnit (root.descend file.segments) hroot hrelated
      _ _ _ hgood
    exact ⟨⟨hsame, rfl, hstate⟩, hfailure⟩

/-! ## All files -/

theorem back_renderFile (file : InputFile)
    (hgood : good (TemplateTree.renderFile E job root file run).1.engine) : good run.engine := by
  unfold TemplateTree.renderFile at hgood
  dsimp only [Run.logged, Run.warned] at hgood
  split at hgood
  · exact hgood
  · unfold TemplateTree.renderUnit at hgood
    split at hgood
    · exact hgood
    · unfold Output.writeAtomically at hgood
      dsimp only at hgood
      split at hgood
      · exact hgood
      · exact h.back _ _ _ hgood

omit h in
theorem back_head {file : InputFile} {files : List InputFile} {report : Report}
    (hrest : ∀ report next, good (TemplateTree.renderAll E job root files report next).1.engine →
      good next.engine)
    (hgood : good (TemplateTree.renderAll E job root (file :: files) report run).1.engine) :
    good (TemplateTree.renderFile E job root file run).1.engine := by
  rw [TemplateTree.renderAll] at hgood
  split at hgood
  · rename_i next hfile
    rw [hfile]
    exact hrest _ _ hgood
  · rename_i next failure hfile
    rw [hfile]
    dsimp only at hgood
    split_ifs at hgood
    · exact hgood
    · exact hrest _ (next.logged _) hgood
    · exact hgood

/-- What holds of the state at the end has held all the time. -/
theorem back_renderAll (files : List InputFile) (report : Report) (run : Run σ)
    (hgood : good (TemplateTree.renderAll E job root files report run).1.engine) : good run.engine := by
  induction files generalizing run report with
  | nil => exact hgood
  | cons file files ih => exact h.back_renderFile file (back_head ih hgood)

/-- Runs go on as they have begun. -/
theorem renderAll (job : Job α) (hroot : root.isAbsolute = true) (files : List InputFile) (report : Report)
    (halike : Alike related run run')
    (hgood : good (TemplateTree.renderAll E job root files report run).1.engine) :
    let r := TemplateTree.renderAll E job root files report run
    let r' := TemplateTree.renderAll F job root files report run'
    Alike related r.1 r'.1 ∧ r'.2 = r.2 := by
  induction files generalizing run run' report with
  | nil => exact ⟨halike, rfl⟩
  | cons file files ih =>
    have hstep := h.renderFile hroot file halike (back_head (h.back_renderAll files) hgood)
    rw [TemplateTree.renderAll] at hgood ⊢
    rw [TemplateTree.renderAll]
    cases hfile : TemplateTree.renderFile E job root file run with
    | mk next failure =>
      cases hfile' : TemplateTree.renderFile F job root file run' with
      | mk next' failure' =>
        rw [hfile] at hgood
        rw [hfile, hfile'] at hstep
        obtain ⟨hnext, rfl⟩ := hstep
        cases failure' with
        | none => exact ih _ hnext hgood
        | some failure =>
          have hlogged : ∀ records records', Alike related (next.logged records) (next'.logged records') :=
            fun _ _ => ⟨hnext.files, hnext.warnings, hnext.engine⟩
          dsimp only at hgood ⊢
          split_ifs at hgood ⊢
          · exact ⟨hnext, rfl⟩
          · exact ih _ (hlogged _ _) hgood
          · exact ⟨hnext, rfl⟩

/-! ## Whole runs -/

theorem compileFiles (hroot : root.isAbsolute = true) (files : List InputFile)
    (hfiles : run'.files = run.files) (hwarnings : run'.warnings = run.warnings)
    (hdated : run.files.Dated)
    (hconfigure : ∀ A (config : EngineConfig), A.Dated →
      related A (E.configure { config with cacheEnabled := isCached } run.engine).1
        (F.configure { config with cacheEnabled := isCached' } run'.engine).1)
    (hgood : good (TemplateTree.compileFiles E (job.cached isCached) root files run).1.engine) :
    let r := TemplateTree.compileFiles E (job.cached isCached) root files run
    let r' := TemplateTree.compileFiles F (job.cached isCached') root files run'
    r'.1.files = r.1.files ∧ r'.1.warnings = r.1.warnings ∧ r'.2 = r.2 := by
  have hprepare := prepare_alike job root files hfiles hwarnings hdated hconfigure
  unfold TemplateTree.compileFiles at hgood ⊢
  generalize TemplateTree.prepare E (job.cached isCached) root files run = ready at hprepare hgood ⊢
  generalize TemplateTree.prepare F (job.cached isCached') root files run' = ready' at hprepare ⊢
  obtain ⟨start, result⟩ := ready
  obtain ⟨start', result'⟩ := ready'
  obtain ⟨hfiles, hwarnings, rfl, hrelated⟩ := hprepare
  cases result' with
  | error failure => exact ⟨hfiles, hwarnings, rfl⟩
  | ok searchPath =>
    simp only [renderAll_cached] at hgood ⊢
    have hrender := h.renderAll job hroot files ⟨root, searchPath, [], []⟩
      ⟨hfiles, hwarnings, hrelated rfl⟩
    generalize TemplateTree.renderAll E job root files ⟨root, searchPath, [], []⟩ start = final
      at hrender hgood ⊢
    generalize TemplateTree.renderAll F job root files ⟨root, searchPath, [], []⟩ start' = final'
      at hrender ⊢
    obtain ⟨final, report⟩ := final
    obtain ⟨final', report'⟩ := final'
    cases report with
    | error failure =>
      obtain ⟨halike, rfl⟩ := hrender hgood
      exact ⟨halike.files, halike.warnings, rfl⟩
    | ok report =>
      obtain ⟨halike, rfl⟩ := hrender hgood
      exact ⟨halike.files, halike.warnings, rfl⟩

/-- Engines that go along with each other make the same output and the same report. -/
theorem compile (job : Job α) (isCached isCached' : Bool) {fs : FileSystem} {s : σ} {t : τ}
    (hdated : fs.Dated)
    (hconfigure : ∀ A (config : EngineConfig), A.Dated →
      related A (E.configure { config with cacheEnabled := isCached } s).1
        (F.configure { config with cacheEnabled := isCached' } t).1)
    (hgood : good (TemplateTree.compile E (job.cached isCached) fs s).1.engine) :
    let r := TemplateTree.compile E (job.cached isCached) fs s
    let r' := TemplateTree.compile F (job.cached isCached') fs t
    r'.1.files = r.1.files ∧ r'.1.warnings = r.1.warnings ∧ r'.2 = r.2 := by
  unfold TemplateTree.compile at hgood ⊢
  have houtput : ∀ b, (job.cached b).output = job.output := fun _ => rfl
  have hinputs : ∀ b, (job.cached b).inputs = job.inputs := fun _ => rfl
  simp only [houtput, hinputs] at hgood ⊢
  cases hroot : fs.absolute job.output with
  | error e => exact ⟨rfl, rfl, rfl⟩
  | ok root =>
    rw [hroot] at hgood
    dsimp only at hgood ⊢
    split
    · exact ⟨rfl, rfl, rfl⟩
    · rename_i hnone
      rw [hnone] at hgood
      exact h.compileFiles (isAbsolute_of_absolute hroot) _ rfl rfl hdated hconfigure hgood

end Simulates

end TemplateTree
