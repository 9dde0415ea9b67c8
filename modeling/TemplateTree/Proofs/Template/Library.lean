import TemplateTree.Template.Library

/-!
# Worlds that answer questions

What each answer preserves is preserved by a whole computation, and worlds that answer alike carry a
computation through alike. A library keeps templates and modules, but always sees the same files in the same
way.

* `Script.playWith_preserves`, `Script.playWith_alike`: from answers to computations.
* `Library.setting_answer`, `Library.setting_play`: what a library sees stays the same.
-/

namespace TemplateTree.Template

variable {α ω ω' : Type}

/-! ## From answers to computations -/

section

variable {answer : ω → (q : Question) → q.Answer × ω} {answer' : ω' → (q : Question) → q.Answer × ω'}

/-- What every answer preserves, a computation preserves. -/
theorem Script.playWith_preserves {P : ω → Prop} (hanswer : ∀ w q, P w → P (answer w q).2) (x : Script α) {w : ω}
    (h : P w) : P (x.playWith answer w).2.2 := by
  induction x generalizing w with
  | ok a m => exact h
  | error f m => exact h
  | ask q next ih => exact ih _ (hanswer w q h)

/-- With the same answers, a computation goes the same way. -/
theorem Script.playWith_alike {R : ω → ω' → Prop}
    (hanswer : ∀ w w' q, R w w' → (answer w q).1 = (answer' w' q).1 ∧ R (answer w q).2 (answer' w' q).2)
    (x : Script α) {w : ω} {w' : ω'} (h : R w w') :
    (x.playWith answer w).1 = (x.playWith answer' w').1 ∧
      (x.playWith answer w).2.1 = (x.playWith answer' w').2.1 ∧
      R (x.playWith answer w).2.2 (x.playWith answer' w').2.2 := by
  induction x generalizing w w' with
  | ok a m => exact ⟨rfl, rfl, h⟩
  | error f m => exact ⟨rfl, rfl, h⟩
  | ask q next ih =>
    obtain ⟨hsame, hworlds⟩ := hanswer w w' q h
    simp only [Script.playWith, ← hsame]
    exact ih _ hworlds

end

/-! ## What a library sees -/

/-- The file that is found first for the name of a template, and its stamp. -/
def Library.found? (lib : Library) (name : String) : Option (Path × Nat) :=
  (nameParts? name).bind fun parts => findFile? lib.files parts lib.searchPath

theorem stamp?_eq_some {files : FileSystem} {p : Path} {stamp : Nat} :
    stamp? files p = some stamp ↔ ∃ content mode, files.look true p = .ok (.file content mode stamp) := by
  unfold stamp?
  split
  · rename_i hlook
    simp [hlook]
  · rename_i hother
    simpa using fun content mode => hother content mode stamp

/-- The file that is found has the stamp that is said. -/
theorem stamp?_of_findFile? {files : FileSystem} {parts dirs : List String} {p : Path} {stamp : Nat}
    (h : findFile? files parts dirs = some (p, stamp)) : stamp? files p = some stamp := by
  induction dirs with
  | nil => cases h
  | cons dir dirs ih =>
    rw [findFile?] at h
    split at h
    · cases h
      assumption
    · exact ih h

/-- How a library is configured, and where it looks for templates. -/
def Library.manner (lib : Library) : EngineConfig × List String :=
  (lib.config, lib.searchPath)

/-- The files that a library sees, and how it does. -/
def Library.setting (lib : Library) : FileSystem × EngineConfig × List String :=
  (lib.files, lib.manner)

namespace Library

section

variable {lib lib' : Library}

theorem config_of_manner (h : lib'.manner = lib.manner) : lib'.config = lib.config :=
  congrArg Prod.fst h

theorem searchPath_of_manner (h : lib'.manner = lib.manner) : lib'.searchPath = lib.searchPath :=
  congrArg Prod.snd h

theorem files_of_setting (h : lib'.setting = lib.setting) : lib'.files = lib.files :=
  congrArg Prod.fst h

theorem manner_of_setting (h : lib'.setting = lib.setting) : lib'.manner = lib.manner :=
  congrArg Prod.snd h

end

variable (lib : Library)

theorem setting_template (id : TemplateId) (name shownName : String) :
    (lib.template id name shownName).2.setting = lib.setting := by
  unfold Library.template
  split
  · rfl
  · cases lib.onShelf? name with
    | some kept => rfl
    | none => cases lib.read lib.next name shownName <;> rfl

theorem setting_change (id : CellId) : (lib.change id).2.setting = lib.setting := by
  unfold Library.change
  split <;> rfl

theorem setting_again (kept : KeptModule) (cells : Array Cell) : (lib.again kept cells).2.setting = lib.setting := by
  unfold Library.again
  split
  · rfl
  · split <;> rfl

theorem setting_keep (name : String) (kept : Option Kept) (made : Made) (first : CellId) (labels : List Nat)
    (cells : Option (Array Cell)) : (lib.keep name kept made first labels cells).setting = lib.setting := by
  unfold Library.keep
  split <;> rfl

theorem setting_ended (after : Library) (name : String) (cells : Array Cell) (made : Made) :
    (lib.ended after name cells made).setting = after.setting := by
  unfold Library.ended
  dsimp only
  split
  · rfl
  · exact setting_keep ..

theorem setting_endedHere (after : Library) (name : String) (first : CellId) (made : Made) :
    (lib.endedHere after name first made).setting = after.setting :=
  setting_keep ..

theorem setting_answerWith {make : Library → TemplateId → String → Array Cell → Made × Library}
    (hmake : ∀ lib id name cells, (make lib id name cells).2.setting = lib.setting) (q : Question) :
    (lib.answerWith make q).2.setting = lib.setting := by
  cases q with
  | template id name shownName => exact lib.setting_template id name shownName
  | changes id => exact lib.setting_change id
  | module id name cells =>
    simp only [Library.answerWith]
    cases lib.module? name with
    | some kept => exact lib.setting_again kept cells
    | none => exact hmake lib id name cells
  | _ => rfl

theorem setting_make (depth : Nat) (id : TemplateId) (name : String) (cells : Array Cell) :
    (lib.make depth id name cells).2.setting = lib.setting := by
  induction depth generalizing lib id name cells with
  | zero => rfl
  | succ depth ih =>
    have hanswer : ∀ (start : Library) (x : Script CellId),
        (x.playWith (answerWith (make depth)) start).2.2.setting = start.setting := fun start x =>
      x.playWith_preserves (P := (setting · = start.setting))
        (fun lib q h => (lib.setting_answerWith ih q).trans h) rfl
    rw [← lib.setting_template id name name]
    unfold Library.make
    generalize lib.template id name name = answered
    obtain ⟨answer, lib⟩ := answered
    cases answer with
    | error f => rfl
    | ok l =>
      dsimp only
      split
      · exact (setting_endedHere ..).trans (hanswer ..)
      · exact (setting_ended ..).trans (hanswer ..)

/-- An answer changes nothing in what a library sees. -/
theorem setting_answer (q : Question) : (lib.answer q).2.setting = lib.setting :=
  lib.setting_answerWith (setting_make · depthLimit) q

end Library

end TemplateTree.Template
