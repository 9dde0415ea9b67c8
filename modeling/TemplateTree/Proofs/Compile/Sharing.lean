import Mathlib.Data.List.Chain
import TemplateTree.CommandLine.Invocation
import TemplateTree.Proofs.Compile.Stopping
import TemplateTree.Proofs.Template.Giving

/-!
# Values that files share

The base values of a run are given to the engine once, and every file is rendered with the same ones. Which
values there are, and under which keys, never changes. But what a template does to a list or a map is seen by
all files after it, and through all values that the list or map belongs to, so that a file sees a base value as
it was given only as long as the cells of that value are what they were.

* `Stage.context`: the context of a file.
* `ReadsAs`: an entry that reads as it was given, unless its value was changed.
* `SharesValues`: how a run treats base values.
* `compile_shares`: every run treats them so.
-/

namespace TemplateTree

open Template CommandLine

variable {α β σ ν : Type} [Vertices ν] {graphs : List (Graph × CellId)} {cells cells' : Array Cell} {root : Path}

/-! ## Contexts -/

/-- The context that the file of a stage is rendered with. -/
def Stage.context (s : Stage σ) (engine : Engine α σ) (job : Job α) : Entries α :=
  buildContext engine.ofText job.base s.file job.project job.options.sourceExtension

section

variable {R : α → β → Prop} {entries : Entries α} {entries' : Entries β}

theorem insert_related (h : List.Forall₂ (fun e e' => e.1 = e'.1 ∧ R e.2 e'.2) entries entries')
    (key : Scalar) {a : α} {b : β} (hab : R a b) :
    List.Forall₂ (fun e e' => e.1 = e'.1 ∧ R e.2 e'.2) (entries.insert key a) (entries'.insert key b) := by
  induction h with
  | nil => exact .cons ⟨rfl, hab⟩ .nil
  | @cons e e' _ _ he hrest ih =>
    rw [Entries.insert, Entries.insert, he.1]
    split_ifs
    · exact .cons ⟨rfl, hab⟩ hrest
    · exact .cons he ih

/-- Related base values make related contexts. -/
theorem buildContext_related {ofText : String → α} {ofText' : String → β} {base : Option (Entries α)}
    {base' : Option (Entries β)} {project : α} {project' : β} (hText : ∀ s, R (ofText s) (ofText' s))
    (hbase : List.Forall₂ (fun e e' => e.1 = e'.1 ∧ R e.2 e'.2) (base.getD []) (base'.getD []))
    (hproject : R project project') (file : InputFile) (extension : Option String) :
    List.Forall₂ (fun e e' => e.1 = e'.1 ∧ R e.2 e'.2) (buildContext ofText base file project extension)
      (buildContext ofText' base' file project' extension) :=
  insert_related (insert_related (insert_related hbase _ hproject) _ (hText _)) _ (hText _)

end

/-! ## What an entry reads as -/

/-- The own cells of a value are what they were. -/
def Untouched (before after : Array Cell) (v : Value) : Prop :=
  ∀ id, PartOf before id v → after[id]? = before[id]?

/-- An entry has the key of another one, and unless its value has been changed it shows the value of that. -/
structure ReadsAs (graphs : List (Graph × CellId)) (before after : Array Cell) (e : Scalar × Value)
    (e' : Scalar × Tree ν) : Prop where
  key : e.1 = e'.1
  value : Untouched before after e.2 → Shows graphs after e.2 e'.2

theorem readsAs_of_shows {e : Scalar × Value} {e' : Scalar × Tree ν}
    (h : e.1 = e'.1 ∧ Shows graphs cells e.2 e'.2) (after : Array Cell) : ReadsAs graphs cells after e e' :=
  ⟨h.1, h.2.frame fun _ _ h => h⟩

/-! ## Giving a job -/

/-- A job that is given to an engine is the same, with values for what was given. -/
theorem giveJob_given (job : Job (Tree ν)) {s : Session} (hplaced : s.machine.Placed) :
    let given := giveJob job s
    Given given.2.machine (given.1.base.getD []) (job.base.getD []) ∧
      Shows given.2.machine.graphs given.2.machine.cells given.1.project job.project := by
  obtain ⟨m, hsession, hm, hgiven⟩ := giveEntries_given s (job.base.getD [])
  have hbase : (job.base.map fun _ => (s.giveEntries (job.base.getD [])).1).getD []
      = (s.giveEntries (job.base.getD [])).1 := by
    cases job.base <;> rfl
  obtain ⟨v, m', hproject, hm', hgave⟩ := give_eq (s.giveEntries (job.base.getD [])).2 job.project
  rw [hsession] at hm' hgave
  simp only [giveJob, hbase, hproject]
  exact ⟨(hgiven hplaced).extend hm', (hgave (hm.placed hplaced)).shows⟩

/-! ## The stages of a run -/

section

variable (engine : Engine α σ) (job : Job α)

theorem stages_begin (files : List InputFile) (run : Run σ) :
    ∀ s ∈ (stages engine job root files run).head?, s.before = run := by
  cases files with
  | nil => exact nofun
  | cons file rest =>
    rintro s ⟨⟩
    rfl

/-- Every stage takes on the engine that the one before it has left. -/
theorem stages_chain (files : List InputFile) (run : Run σ) :
    (stages engine job root files run).IsChain fun s t => t.before.engine = s.after.engine := by
  have hnext : ∀ s : Stage σ, s.next.engine = s.after.engine := by
    intro s
    unfold Stage.next
    split <;> rfl
  induction files generalizing run with
  | nil => exact .nil
  | cons file rest ih =>
    rw [stages]
    split
    · exact .singleton _
    · refine List.isChain_cons.2 ⟨fun t ht => ?_, ih _⟩
      rw [stages_begin engine job rest _ t ht, hnext]

theorem stages_stageOf (files : List InputFile) (run : Run σ) :
    ∀ s ∈ stages engine job root files run, s = stageOf engine job root s.file s.before := by
  induction files generalizing run with
  | nil => simp [stages]
  | cons file rest ih =>
    rw [stages]
    refine List.forall_mem_cons.2 ⟨rfl, ?_⟩
    split
    · simp
    · exact ih _

variable {engine job}

/-- The engine after the last stage is that at the end of the rendering. -/
theorem Goes.engine_eq {files : List InputFile} {report : Report} {run : Run σ} {done : List (Stage σ)}
    {r : Run σ × Except Failure Report} (h : Goes job root files report run done r) :
    done.map (·.file) <+: files ∧ r.1.engine = (done.getLast?.map (·.after.engine)).getD run.engine := by
  cases h with
  | through all goesOn =>
    refine ⟨all ▸ List.prefix_rfl, ?_⟩
    unfold lastRun
    cases done.getLast? with
    | none => rfl
    | some s =>
      simp only [Option.map_some, Option.getD_some, Stage.next]
      split <;> rfl
  | upTo begun goesOn ending => exact ⟨begun, by simp⟩

end

/-- Up to the first file, no cell of the engine is changed. -/
theorem setOut_cells (sink : Sink) (job : Job Value) (fs : FileSystem) (state : Session) :
    (setOut (engine sink) job fs state).1.engine.machine.cells = state.machine.cells := by
  have hprepare : ∀ root files (run : Run Session),
      (prepare (engine sink) job root files run).1.engine.machine.cells = run.engine.machine.cells := by
    intro root files run
    unfold prepare
    split
    · rfl
    · dsimp only [Run.logged]
      split <;> rfl
  unfold setOut
  split
  · rfl
  · rename_i root _
    split
    · rfl
    · have h := hprepare root (job.found fs) (job.begun fs state)
      split <;> rename_i heq <;> rw [heq] at h <;> exact h

/-! ## Whole runs -/

/-- How the stages of a run treat the values of a job, which have been put into some cells: -/
structure SharesValues (job : Job (Tree ν)) (given : Job Value) (fs : FileSystem) (begun : Machine)
    (stages : List (Stage Session)) (final : Machine) : Prop where
  /-- Two base values have those cells in common that are vertices which were given with both. -/
  meet : (((given.base.getD []).map (·.2)).zip ((job.base.getD []).map (·.2))).Pairwise (MeetInVertices begun)
  /-- The stages are those of the first input files. -/
  files : stages.map (·.file) <+: (job.inputs.collect fs).files
  /-- Each stage renders its file with its context. -/
  renders : ∃ root, ∀ s ∈ stages, s = stageOf (engine .file) given root s.file s.before
  /-- The context of a file reads as that of the data, but for values that were changed. -/
  contexts : ∀ s ∈ stages, List.Forall₂ (ReadsAs begun.graphs begun.cells s.before.engine.machine.cells)
    (s.context (engine .file) given)
    (buildContext (fun text => .scalar (.text text)) job.base s.file job.project job.options.sourceExtension)
  /-- So do the base values after the run. -/
  base : List.Forall₂ (ReadsAs begun.graphs begun.cells final.cells) (given.base.getD []) (job.base.getD [])
  /-- Before the first file, no cell has been changed. -/
  begins : ∀ s ∈ stages.head?, s.before.engine.machine.cells = begun.cells
  /-- Between two files, and after the last one, no cell is changed. -/
  passesOn : stages.IsChain fun s t => t.before.engine = s.after.engine
  ends : final.cells = (stages.getLast?.map (·.after.engine.machine.cells)).getD begun.cells

/-- The stages of a run, with the engine that they begin and end with. -/
theorem stagesOf_engine (sink : Sink) (job : Job Value) (fs : FileSystem) (state : Session)
    {done : List (Stage Session)} (hdone : stagesOf (engine sink) job fs state = done) :
    done.map (·.file) <+: (job.inputs.collect fs).files ∧
      (∃ root, ∀ s ∈ done, s = stageOf (engine sink) job root s.file s.before) ∧
      (∀ s ∈ done.head?, s.before.engine.machine.cells = state.machine.cells) ∧
      (done.IsChain fun s t => t.before.engine = s.after.engine) ∧
      (compile (engine sink) job fs state).1.engine.machine.cells
        = (done.getLast?.map (·.after.engine.machine.cells)).getD state.machine.cells := by
  have hcells := setOut_cells sink job fs state
  cases hset : setOut (engine sink) job fs state with
  | mk run result =>
    rw [hset] at hcells
    cases result with
    | error failure =>
      obtain rfl : [] = done := by rw [← hdone, stagesOf, hset]
      rw [compile_of_setOut job hset]
      exact ⟨List.nil_prefix, ⟨job.output, fun s hs => absurd hs List.not_mem_nil⟩, fun s hs => absurd hs (by simp),
        .nil, hcells⟩
    | ok found =>
      obtain ⟨root, searchPath⟩ := found
      obtain ⟨r, hcompile, hgoes⟩ := compile_goes job hset
      rw [hdone] at hgoes
      obtain ⟨hfiles, hengine⟩ := hgoes.engine_eq
      have hconcluded : (concluded r).1.engine = r.1.engine := by
        obtain ⟨run, _ | _⟩ := r <;> rfl
      rw [hcompile, hconcluded, hengine]
      obtain rfl : stages (engine sink) job root (job.found fs) run = done := by
        rw [← hdone, stagesOf, hset]
      refine ⟨hfiles, ⟨root, stages_stageOf _ _ _ _⟩, fun s hs => ?_, stages_chain _ _ _ _, ?_⟩
      · rw [stages_begin _ _ _ _ s hs, hcells]
      · cases (stages (engine sink) job root (job.found fs) run).getLast? with
        | none => exact hcells
        | some s => rfl

/-- Every run treats its base values so. -/
theorem compile_shares (job : Job (Tree ν)) (fs : FileSystem) :
    let given := giveJob job .fresh
    SharesValues job given.1 fs given.2.machine (stagesOf (engine .file) given.1 fs given.2)
      (compileTemplates job fs).1.engine.machine := by
  intro given
  obtain ⟨hgiven, hproject⟩ := giveJob_given job (s := .fresh) (Machine.placed_empty true)
  obtain ⟨hfiles, hstages, hbegins, hchain, hends⟩ := stagesOf_engine .file given.1 fs given.2 rfl
  have hcontexts : ∀ file : InputFile,
      List.Forall₂ (fun e e' => e.1 = e'.1 ∧ Shows given.2.machine.graphs given.2.machine.cells e.2 e'.2)
        (buildContext Value.text given.1.base file given.1.project given.1.options.sourceExtension)
        (buildContext (fun text => .scalar (.text text)) job.base file job.project
          job.options.sourceExtension) :=
    fun file => buildContext_related (fun s => .scalar (.text s)) hgiven.shows hproject file _
  refine ⟨hgiven.meet, hfiles, hstages, fun s hs => ?_, ?_, hbegins, hchain, hends⟩
  · exact (hcontexts s.file).imp fun e e' he => readsAs_of_shows he _
  · exact hgiven.shows.imp fun e e' he => readsAs_of_shows he _

/-! ## A list that grows from file to file -/

/-- A template that appends to a list and prints it. -/
def appending : FileSystem :=
  (FileSystem.empty []).put ["t"]
    (.file "\x7b\x7b xs.append(1) \x7d\x7d\x7b\x7b xs \x7d\x7d".toUTF8 FileSystem.defaultMode 0)

/-- A job that renders it into two files, with an empty list. -/
def appendingTwice : Job Datum where
  inputs := .files [⟨["first"], ⟨.single, ["t"]⟩, Eq.refl true⟩, ⟨["second"], ⟨.single, ["t"]⟩, Eq.refl true⟩]
  includeDirs := []
  base := some [(.text "xs", .list [])]
  output := ⟨.single, ["out"]⟩
  project := .text ""
  options := { cacheEnabled := false }

-- The second file sees what the template has appended for the first one.
example :
    let files := (compileTemplates appendingTwice appending).1.files
    let texts := ["first", "second"].map fun name =>
      (files.read ⟨.single, ["out", name]⟩).toOption.bind fun bytes => String.fromUTF8? bytes
    texts = [some "None[1]", some "None[1, 1]"] := by
  decide +kernel

end TemplateTree
