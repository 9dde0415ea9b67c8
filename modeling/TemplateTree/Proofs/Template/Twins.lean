import Mathlib.Data.List.Forall2
import TemplateTree.Proofs.Output.Twins
import TemplateTree.Proofs.Template.Library
import TemplateTree.Proofs.Template.Machine
import TemplateTree.Template.Engine

/-!
# Templates in file systems whose clocks differ

The engine looks at stamps to see whether a file has changed since it was read. As long as the path of a
template leads where it led when that was read, its stamp is the same as before in one file system exactly if
it is in the other. So an evaluation goes the same way in both, and leaves the same machine.

* `SameLibrary`, `SameSession`: libraries and engines that differ in stamps only.
* `SameLibrary.answer`: a question has the same answer.
* `Script.play_twins`: a computation goes the same way.
* `render_twins`: a template is rendered to the same text.
-/

namespace TemplateTree.Template

open FileSystem Output

variable {e : Epoch} {A B : FileSystem} {lib lib' : Library} {α : Type}

/-! ## Files -/

theorem stamp?_twins (h : Twins e A B) (p : Path) : Option.Rel (e.Found A p) (stamp? A p) (stamp? B p) := by
  unfold stamp?
  obtain ⟨a, b, hA, hB, hnode⟩ | ⟨error, hA, hB⟩ := (h.entries.look true p).ends <;> rw [hA, hB]
  · cases hnode with
    | file content mode => exact .some (h.found hA hB)
    | link | directory => exact .none
  · exact .none

/-- The same file is found first. -/
theorem findFile?_twins (h : Twins e A B) (parts dirs : List String) :
    Option.Rel (fun a b => a.1 = b.1 ∧ e.Found A b.1 a.2 b.2) (findFile? A parts dirs)
      (findFile? B parts dirs) := by
  induction dirs with
  | nil => exact .none
  | cons dir dirs ih =>
    rw [findFile?, findFile?]
    have hstamp := stamp?_twins h ((Path.parse dir).descend parts)
    generalize stamp? A _ = a at hstamp ⊢
    generalize stamp? B _ = b at hstamp ⊢
    cases hstamp with
    | some hfound => exact .some ⟨rfl, hfound⟩
    | none => exact ih

/-! ## Libraries -/

/-- The same template on two shelves, with the stamps of the file that its path leads to. -/
structure SameKept (e : Epoch) (A : FileSystem) (k k' : Kept) : Prop where
  label : k.label = k'.label
  origin : k.origin = k'.origin
  loaded : k.loaded = k'.loaded
  module : k.module = k'.module
  stamp : e.Found A k'.origin k.stamp k'.stamp

theorem SameKept.steady {k k' : Kept} (h : SameKept e A k k') (hB : Steady A B) : SameKept e B k k' :=
  ⟨h.label, h.origin, h.loaded, h.module, h.stamp.steady hB⟩

/-- Two libraries that differ in stamps, and in the files that they see. -/
structure SameLibrary (e : Epoch) (A : FileSystem) (lib lib' : Library) : Prop where
  shelf : List.Forall₂ (fun e₁ e₂ => e₁.1 = e₂.1 ∧ SameKept e A e₁.2 e₂.2) lib.shelf lib'.shelf
  rest : lib' = { lib with files := lib'.files, shelf := lib'.shelf }

theorem SameLibrary.steady (h : SameLibrary e A lib lib') (hB : Steady A B) : SameLibrary e B lib lib' :=
  ⟨h.shelf.imp fun _ _ hkept => ⟨hkept.1, hkept.2.steady hB⟩, h.rest⟩

section

variable {R : α → α → Prop} {entries entries' : List (String × α)}

theorem named?_related (h : List.Forall₂ (fun e e' => e.1 = e'.1 ∧ R e.2 e'.2) entries entries')
    (name : String) : Option.Rel R (named? entries name) (named? entries' name) := by
  induction h with
  | nil => exact .none
  | @cons e e' _ _ he _ ih =>
    rw [named?_cons, named?_cons, he.1]
    split_ifs
    · exact .some he.2
    · exact ih

theorem setNamed_related (h : List.Forall₂ (fun e e' => e.1 = e'.1 ∧ R e.2 e'.2) entries entries')
    (name : String) {a a' : α} (ha : R a a') :
    List.Forall₂ (fun e e' => e.1 = e'.1 ∧ R e.2 e'.2) (setNamed name a entries)
      (setNamed name a' entries') := by
  induction h with
  | nil => exact .cons ⟨rfl, ha⟩ .nil
  | @cons e e' _ _ he hrest ih =>
    rw [setNamed, setNamed, he.1]
    split_ifs
    · exact .cons ⟨rfl, ha⟩ hrest
    · exact .cons he ih

end

/-- A kept template is still current in both, or in none. -/
theorem SameKept.isCurrent_eq {k k' : Kept} (h : SameKept e A k k') (hfiles : Twins e A B) :
    k.isCurrent A = k'.isCurrent B := by
  unfold Kept.isCurrent
  rw [h.origin]
  have hstamp := stamp?_twins hfiles k'.origin
  generalize stamp? A k'.origin = a at hstamp ⊢
  generalize stamp? B k'.origin = b at hstamp ⊢
  cases hstamp with
  | none => rfl
  | @some s t hfound =>
    rw [Bool.eq_iff_iff]
    simpa using hfound.eq_iff h.stamp

namespace SameLibrary

variable (h : SameLibrary e A lib lib')

include h

theorem config : lib.config = lib'.config :=
  (congrArg Library.config h.rest).symm

theorem searchPath : lib.searchPath = lib'.searchPath :=
  (congrArg Library.searchPath h.rest).symm

theorem next : lib.next = lib'.next :=
  (congrArg Library.next h.rest).symm

theorem reachesOut : lib.reachesOut = lib'.reachesOut :=
  (congrArg Library.reachesOut h.rest).symm

theorem attach (first : CellId) (labels : List Nat) :
    SameLibrary e A (lib.attach first labels) (lib'.attach first labels) := by
  refine ⟨h.shelf, ?_⟩
  rw [h.rest]
  rfl

theorem begun (id : TemplateId) : SameLibrary e A (lib.begun id) (lib'.begun id) := by
  refine ⟨h.shelf, ?_⟩
  rw [h.rest]
  rfl

theorem labelsOf_eq (ids : List CellId) : lib'.labelsOf ids = lib.labelsOf ids := by
  rw [h.rest]
  induction ids with
  | nil => rfl
  | cons id ids ih =>
    rw [Library.labelsOf, Library.labelsOf, ih]
    rfl

theorem change (id : CellId) :
    (lib.change id).1 = (lib'.change id).1 ∧ SameLibrary e A (lib.change id).2 (lib'.change id).2 := by
  obtain ⟨hshelf, hrest⟩ := h
  rw [hrest]
  have hlabel : Library.label? { lib with files := lib'.files, shelf := lib'.shelf } id = lib.label? id := rfl
  unfold Library.change
  rw [hlabel]
  cases lib.label? id with
  | none => exact ⟨rfl, hshelf, rfl⟩
  | some label => exact ⟨rfl, hshelf, rfl⟩

theorem again (kept : KeptModule) (cells : Array Cell) :
    (lib.again kept cells).1 = (lib'.again kept cells).1 ∧
      SameLibrary e A (lib.again kept cells).2 (lib'.again kept cells).2 := by
  obtain ⟨hshelf, hrest⟩ := h
  rw [hrest]
  have hunchanged : Library.isUnchanged { lib with files := lib'.files, shelf := lib'.shelf } kept
      = lib.isUnchanged kept := rfl
  have hplace : Library.place? { lib with files := lib'.files, shelf := lib'.shelf } kept = lib.place? kept := rfl
  unfold Library.again
  rw [hunchanged, hplace]
  split
  · exact ⟨rfl, hshelf, rfl⟩
  · cases lib.place? kept with
    | some id => exact ⟨rfl, hshelf, rfl⟩
    | none => exact ⟨rfl, hshelf, rfl⟩

theorem keep {k k' : Option Kept} (hkept : Option.Rel (SameKept e A) k k') (name : String) (made : Made)
    (first : CellId) (labels : List Nat) (cells : Option (Array Cell)) :
    SameLibrary e A (lib.keep name k made first labels cells) (lib'.keep name k' made first labels cells) := by
  have hattached := h.attach first labels
  have hchanged : lib.changed = lib'.changed := (congrArg Library.changed h.rest).symm
  obtain ⟨result, made⟩ := made
  unfold Library.keep
  cases hkept with
  | none => exact hattached
  | some hkept =>
    cases result with
    | error f => exact hattached
    | ok cell =>
      refine ⟨setNamed_related h.shelf name ⟨hkept.label, hkept.origin, hkept.loaded, ?_, hkept.stamp⟩, ?_⟩
      · rw [hchanged]
      · dsimp only
        rw [hattached.rest]

theorem readAt_eq (hfiles : Twins e lib.files lib'.files) (name : String) (p : Path) :
    lib.readAt name p = lib'.readAt name p := by
  unfold Library.readAt
  rw [hfiles.entries.read_eq, h.config]

theorem read (hA : lib.files = A) (hfiles : Twins e A lib'.files) (label : Nat) (name shownName : String) :
    SameEnd (SameKept e A) (lib.read label name shownName) (lib'.read label name shownName) := by
  subst hA
  unfold Library.read
  rw [h.searchPath]
  cases nameParts? name with
  | none => exact .error _
  | some parts =>
    dsimp only
    have hfound := findFile?_twins hfiles parts lib'.searchPath
    generalize findFile? lib.files parts lib'.searchPath = a at hfound ⊢
    generalize findFile? lib'.files parts lib'.searchPath = b at hfound ⊢
    cases hfound with
    | none => exact .error _
    | @some x y hsame =>
      obtain ⟨p, stamp⟩ := x
      obtain ⟨p', stamp'⟩ := y
      obtain ⟨rfl, hstamp⟩ : p = p' ∧ e.Found lib.files p' stamp stamp' := hsame
      dsimp only
      rw [h.readAt_eq hfiles]
      cases lib'.readAt name p with
      | error f => exact .error f
      | ok loaded => exact .ok ⟨rfl, rfl, rfl, rfl, hstamp⟩

theorem onShelf? (hA : lib.files = A) (hfiles : Twins e A lib'.files) (name : String) :
    Option.Rel (SameKept e A) (lib.onShelf? name) (lib'.onShelf? name) := by
  subst hA
  unfold Library.onShelf?
  have hkept := named?_related h.shelf name
  generalize named? lib.shelf name = a at hkept ⊢
  generalize named? lib'.shelf name = b at hkept ⊢
  cases hkept with
  | none => exact .none
  | @some k k' hkept =>
    rw [Option.filter_some, Option.filter_some, hkept.isCurrent_eq hfiles]
    split_ifs
    · exact .some hkept
    · exact .none

theorem module?_eq (hA : lib.files = A) (hfiles : Twins e A lib'.files) (name : String) :
    lib.module? name = lib'.module? name := by
  have hkept := h.onShelf? hA hfiles name
  unfold Library.module?
  generalize lib.onShelf? name = k at hkept ⊢
  generalize lib'.onShelf? name = k' at hkept ⊢
  cases hkept with
  | none => rfl
  | some hkept => exact hkept.module

theorem template (hA : lib.files = A) (hfiles : Twins e A lib'.files) (id : TemplateId) (name shownName : String) :
    (lib.template id name shownName).1 = (lib'.template id name shownName).1 ∧
      SameLibrary e A (lib.template id name shownName).2 (lib'.template id name shownName).2 := by
  have hread := h.read hA hfiles lib.next name shownName
  have hshelf := h.onShelf? hA hfiles name
  unfold Library.template
  rw [h.config, ← h.next]
  generalize lib.onShelf? name = k at hshelf ⊢
  generalize lib'.onShelf? name = k' at hshelf ⊢
  split_ifs
  · refine ⟨?_, h⟩
    obtain ⟨a, b, ha, hb, hkept⟩ | ⟨f, ha, hb⟩ := hread.ends <;> rw [ha, hb]
    exact congrArg Except.ok hkept.loaded
  · cases hshelf with
    | @some kept kept' hkept =>
      have hattached := h.attach id [kept.label]
      dsimp only
      rw [← hkept.label]
      exact ⟨congrArg Except.ok hkept.loaded, hattached⟩
    | none =>
      dsimp only
      obtain ⟨a, b, ha, hb, hkept⟩ | ⟨f, ha, hb⟩ := hread.ends <;> rw [ha, hb]
      · refine ⟨congrArg Except.ok hkept.loaded, setNamed_related h.shelf name hkept, ?_⟩
        dsimp only
        rw [(h.attach id [b.label]).rest, hkept.label]
      · exact ⟨rfl, h⟩

/-- After the same evaluation in a machine of its own. -/
theorem ended {after after' : Library} (hafter : SameLibrary e A after after') (hA : lib.files = A)
    (hfiles : Twins e A lib'.files) (name : String) (cells : Array Cell) (made : Made) :
    SameLibrary e A (lib.ended after name cells made) (lib'.ended after' name cells made) := by
  have hkept := h.onShelf? hA hfiles name
  have hback : ∀ next, SameLibrary e A
      { after with labels := lib.labels, outside := lib.outside, reachesOut := lib.reachesOut, next }
      { after' with labels := lib'.labels, outside := lib'.outside, reachesOut := lib'.reachesOut, next } := by
    refine fun next => ⟨hafter.shelf, ?_⟩
    rw [h.rest, hafter.rest]
  have hcached : after'.config.cacheEnabled = after.config.cacheEnabled := by rw [hafter.config]
  have hnext : after'.next = after.next := hafter.next.symm
  unfold Library.ended
  dsimp only
  rw [hcached, hnext, hafter.labelsOf_eq]
  split
  · exact hback after.next
  · exact (hback _).keep hkept ..

theorem endedHere {after after' : Library} (hafter : SameLibrary e A after after') (hA : lib.files = A)
    (hfiles : Twins e A lib'.files) (name : String) (first : CellId) (made : Made) :
    SameLibrary e A (lib.endedHere after name first made) (lib'.endedHere after' name first made) := by
  have hkept := h.onShelf? hA hfiles name
  have hnext : ∀ next, SameLibrary e A { after with next } { after' with next } := by
    refine fun next => ⟨hafter.shelf, ?_⟩
    rw [hafter.rest]
  unfold Library.endedHere
  rw [hafter.labelsOf_eq]
  exact (hnext _).keep hkept ..

theorem answerWith {make : Library → TemplateId → String → Array Cell → Made × Library} (hA : lib.files = A)
    (hfiles : Twins e A lib'.files)
    (hmake : ∀ id name cells, (make lib id name cells).1 = (make lib' id name cells).1 ∧
      SameLibrary e A (make lib id name cells).2 (make lib' id name cells).2) (q : Question) :
    (lib.answerWith make q).1 = (lib'.answerWith make q).1 ∧
      SameLibrary e A (lib.answerWith make q).2 (lib'.answerWith make q).2 := by
  cases q with
  | content p =>
    subst hA
    exact ⟨hfiles.entries.content?_eq p, h⟩
  | template id name shownName => exact h.template hA hfiles id name shownName
  | isKeyed => exact ⟨congrArg EngineConfig.cacheEnabled h.config, h⟩
  | isSame a b =>
    refine ⟨?_, h⟩
    rw [h.rest]
    rfl
  | changes id => exact h.change id
  | module id name cells =>
    simp only [Library.answerWith]
    rw [← h.module?_eq hA hfiles name]
    cases lib.module? name with
    | some kept => exact h.again kept cells
    | none => exact hmake id name cells

end SameLibrary

/-! ## Whole computations -/

/-- A computation goes the same way, if every question has the same answer. -/
theorem Script.playWith_twins {answer : Library → (q : Question) → q.Answer × Library}
    (hsetting : ∀ lib q, (answer lib q).2.setting = lib.setting)
    (hanswer : ∀ {lib lib'}, SameLibrary e A lib lib' → lib.files = A → lib'.files = B → ∀ q,
      (answer lib q).1 = (answer lib' q).1 ∧ SameLibrary e A (answer lib q).2 (answer lib' q).2)
    (x : Script α) (h : SameLibrary e A lib lib') (hA : lib.files = A) (hB : lib'.files = B) :
    (x.playWith answer lib).1 = (x.playWith answer lib').1 ∧
      (x.playWith answer lib).2.1 = (x.playWith answer lib').2.1 ∧
      SameLibrary e A (x.playWith answer lib).2.2 (x.playWith answer lib').2.2 := by
  have hboth : ∀ a b q, (SameLibrary e A a b ∧ a.files = A ∧ b.files = B) →
      (answer a q).1 = (answer b q).1 ∧
        SameLibrary e A (answer a q).2 (answer b q).2 ∧ (answer a q).2.files = A ∧ (answer b q).2.files = B := by
    rintro a b q ⟨hab, ha, hb⟩
    obtain ⟨hsame, hnext⟩ := hanswer hab ha hb q
    exact ⟨hsame, hnext, (Library.files_of_setting (hsetting a q)).trans ha,
      (Library.files_of_setting (hsetting b q)).trans hb⟩
  obtain ⟨hresult, hmachine, hrest, -⟩ := x.playWith_alike hboth ⟨h, hA, hB⟩
  exact ⟨hresult, hmachine, hrest⟩

/-- A module is made in the same way, by induction on how deep modules may be inside each other. -/
theorem SameLibrary.make (depth : Nat) (h : SameLibrary e A lib lib') (hA : lib.files = A) (hB : lib'.files = B)
    (hfiles : Twins e A B) (id : TemplateId) (name : String) (cells : Array Cell) :
    (lib.make depth id name cells).1 = (lib'.make depth id name cells).1 ∧
      SameLibrary e A (lib.make depth id name cells).2 (lib'.make depth id name cells).2 := by
  induction depth generalizing lib lib' id name cells with
  | zero => exact ⟨rfl, h⟩
  | succ depth ih =>
    have hanswer : ∀ {a b : Library}, SameLibrary e A a b → a.files = A → b.files = B → ∀ q,
        (a.answerWith (Library.make depth) q).1 = (b.answerWith (Library.make depth) q).1 ∧
          SameLibrary e A (a.answerWith (Library.make depth) q).2 (b.answerWith (Library.make depth) q).2 :=
      fun hab ha hb q => hab.answerWith ha (hb ▸ hfiles) (ih hab ha hb) q
    have hsetting : ∀ (lib : Library) q, (lib.answerWith (Library.make depth) q).2.setting = lib.setting :=
      fun lib q => lib.setting_answerWith (Library.setting_make · depth) q
    obtain ⟨hsame, hread⟩ := h.template hA (hB ▸ hfiles) id name name
    have hread_files := (Library.files_of_setting (lib.setting_template id name name)).trans hA
    have hread_files' := (Library.files_of_setting (lib'.setting_template id name name)).trans hB
    unfold Library.make
    generalize lib.template id name name = answered at hsame hread hread_files ⊢
    generalize lib'.template id name name = answered' at hsame hread hread_files' ⊢
    obtain ⟨answer, read⟩ := answered
    obtain ⟨answer', read'⟩ := answered'
    obtain rfl : answer = answer' := hsame
    cases answer with
    | error f => exact ⟨rfl, hread⟩
    | ok l =>
      replace hread_files : read.files = A := hread_files
      replace hread_files' : read'.files = B := hread_files'
      dsimp only at hread ⊢
      rw [← hread.config]
      obtain ⟨hresult, hmachine, hafter⟩ := Script.playWith_twins hsetting hanswer
        (moduleAlone read.config.strictUndefined l) (hread.begun id) hread_files hread_files'
      obtain ⟨hresult', hmachine', hafter'⟩ := Script.playWith_twins hsetting hanswer
        (moduleHere read.config.strictUndefined id cells) hread hread_files hread_files'
      rw [← hresult, ← hmachine, ← hresult', ← hmachine', ← hafter.reachesOut]
      split
      · exact ⟨rfl, hread.endedHere hafter' hread_files (hread_files' ▸ hfiles) ..⟩
      · exact ⟨rfl, hread.ended hafter hread_files (hread_files' ▸ hfiles) ..⟩

/-- Every question has the same answer. -/
theorem SameLibrary.answer (h : SameLibrary e A lib lib') (hA : lib.files = A) (hB : lib'.files = B)
    (hfiles : Twins e A B) (q : Question) :
    (lib.answer q).1 = (lib'.answer q).1 ∧ SameLibrary e A (lib.answer q).2 (lib'.answer q).2 :=
  h.answerWith hA (hB ▸ hfiles) (h.make depthLimit hA hB hfiles) q

/-- A computation goes the same way. -/
theorem Script.play_twins (x : Script α) (h : SameLibrary e A lib lib') (hA : lib.files = A)
    (hB : lib'.files = B) (hfiles : Twins e A B) :
    (x.play lib).1 = (x.play lib').1 ∧ (x.play lib).2.1 = (x.play lib').2.1 ∧
      SameLibrary e A (x.play lib).2.2 (x.play lib').2.2 :=
  x.playWith_twins Library.setting_answer (fun hab ha hb q => hab.answer ha hb hfiles q) h hA hB

/-! ## One template -/

/-- Two engines that differ in stamps, and in the files that they have seen. -/
structure SameSession (e : Epoch) (A : FileSystem) (s t : Session) : Prop where
  machine : s.machine = t.machine
  library : SameLibrary e A s.library t.library
  isConfigured : s.isConfigured = t.isConfigured

theorem SameSession.steady {s t : Session} (h : SameSession e A s t) (hB : Steady A B) : SameSession e B s t :=
  ⟨h.machine, h.library.steady hB, h.isConfigured⟩

/-- A new configuration empties the shelf. -/
theorem SameSession.configure (config : EngineConfig) (s : Session) :
    SameSession e A (Template.configure config s).1 (Template.configure config s).1 :=
  ⟨rfl, ⟨.nil, rfl⟩, rfl⟩

theorem finish_twins (sink : Sink) (name : String) (m : Machine) (fault : Option Fault) {s t : Session}
    (h : SameSession e A s t) :
    SameWritten (SameSession e A) (finish sink name m fault s) (finish sink name m fault t) := by
  unfold finish
  dsimp only
  split
  · exact ⟨rfl, rfl, ⟨rfl, h.library, h.isConfigured⟩⟩
  · exact ⟨rfl, rfl, ⟨rfl, h.library, h.isConfigured⟩⟩

/-- A template is rendered to the same text, or fails in the same way. -/
theorem render_twins (sink : Sink) (hfiles : Twins e A B) (request : Request Value) {s t : Session}
    (h : SameSession e A s t) :
    SameWritten (SameSession e A) (render sink A request s) (render sink B request t) := by
  obtain ⟨machine, library, isConfigured⟩ := s
  obtain ⟨machine', library', isConfigured'⟩ := t
  obtain ⟨rfl, hlibrary, rfl⟩ : machine = machine' ∧ SameLibrary e A library library' ∧
      isConfigured = isConfigured' := ⟨h.machine, h.library, h.isConfigured⟩
  have hprogram : ∀ source, programOf library.config source = programOf library'.config source := by
    rw [hlibrary.config]
    exact fun _ => rfl
  unfold render
  dsimp only
  split_ifs
  · exact ⟨rfl, rfl, h⟩
  · cases request.source with
    | error fault => exact ⟨rfl, rfl, h⟩
    | ok source =>
      dsimp only
      rw [hprogram]
      cases programOf library'.config source with
      | error f => exact finish_twins sink request.name _ (some f) h
      | ok program =>
        dsimp only
        have hseen : SameLibrary e A { library with files := A } { library' with files := B } :=
          ⟨hlibrary.shelf, by rw [hlibrary.rest]⟩
        obtain ⟨hresult, hmachine, hrest⟩ := Script.play_twins (renderProgram request.name program
          request.context machine.begun) hseen rfl rfl hfiles
        generalize Script.play _ { library with files := A } = a at hresult hmachine hrest ⊢
        generalize Script.play _ { library' with files := B } = b at hresult hmachine hrest ⊢
        obtain ⟨result, m, seen⟩ := a
        obtain ⟨result', m', seen'⟩ := b
        obtain rfl : result = result' := hresult
        obtain rfl : m = m' := hmachine
        have hafter : SameSession e A ⟨machine, seen, isConfigured⟩ ⟨machine, seen', isConfigured⟩ :=
          ⟨rfl, hrest, rfl⟩
        cases result with
        | ok _ => exact finish_twins sink request.name m none hafter
        | error f => exact finish_twins sink request.name m (some f) hafter

end TemplateTree.Template
