import TemplateTree.Proofs.Output.Removal

/-!
# The removals of a rebuild

A rebuild is followed removal by removal: what it asks the system to remove, in the order in which it asks.
Following it changes nothing about it.

* `Removal`, `CarriedOut`: removals one after the other, each of which meets what it is for.
* `tracedClear`, `tracedRebuild`: clearing and rebuilding with the removals that are asked for.
* `tracedClear_outcome`, `tracedRebuild_outcome`: these do what clearing and rebuilding do.
* `tracedClear_faithful`, `tracedRebuild_carriedOut`: if they succeed, so has every removal.
-/

namespace TemplateTree.Output

open FileSystem

variable {A B C : FileSystem} {p root : Path}

/-! ## Removals -/

/-- A removal that the system is asked for. -/
inductive Removal
  | file (p : Path)
  | directory (p : Path)
  deriving DecidableEq, Repr

namespace Removal

/-- What comes of a removal. -/
def run (fs : FileSystem) : Removal → Except Failure FileSystem
  | .file p => removeFile fs p
  | .directory p => removeDirectory fs p

/-- A removal meets what it is for: a file or a link, or a directory in which nothing is left. -/
def Meets (fs : FileSystem) : Removal → Prop
  | .file p => ∃ s node, fs.locate false p = .ok s ∧ fs.node? s.location = some node ∧ node ≠ .directory
  | .directory p => ∃ s, fs.locate false p = .ok s ∧ fs.node? s.location = some .directory ∧
      ∀ name, fs.node? (s.location ++ [name]) = none

/-- A removal that succeeds has met what it is for. -/
theorem meets_of_run {r : Removal} (h : r.run A = .ok B) : r.Meets A := by
  cases r with
  | file p =>
    obtain ⟨s, hfind, h⟩ := bind_eq_ok.1 (removeFile_eq_ok.1 h)
    split at h
    · cases h
    · cases h
    · cases h
    · rename_i node hdir _ hnode
      exact ⟨s, node, (find_eq_ok.1 hfind).2, hnode, hdir⟩
  | directory p =>
    obtain ⟨s, hfind, h⟩ := bind_eq_ok.1 (removeDirectory_eq_ok.1 h)
    split at h
    · cases h
    · cases h
    · rename_i hnode
      split_ifs at h with hbare
      refine ⟨s, (find_eq_ok.1 hfind).2, hnode, fun name => ?_⟩
      rw [List.isEmpty_iff, List.eq_nil_iff_forall_not_mem] at hbare
      simpa [mem_children] using hbare name
    · cases h

end Removal

/-- Removals that have been carried out one after the other, each of which met what it is for. -/
inductive CarriedOut : FileSystem → List Removal → FileSystem → Prop
  | nil (A : FileSystem) : CarriedOut A [] A
  | cons {A B C : FileSystem} {r : Removal} {rs : List Removal} (meets : r.Meets A) (run : r.run A = .ok B)
      (rest : CarriedOut B rs C) : CarriedOut A (r :: rs) C

theorem CarriedOut.append {rs rs' : List Removal} (h : CarriedOut A rs B) (h' : CarriedOut B rs' C) :
    CarriedOut A (rs ++ rs') C := by
  induction h with
  | nil => exact h'
  | cons meets run _ ih => exact .cons meets run (ih h')

/-! ## Changes that are followed -/

/-- A change with the removals that it has asked for. -/
structure Traced where
  removals : List Removal
  outcome : FileSystem × Option Failure

namespace Traced

/-- A change without removals. -/
def still (outcome : FileSystem × Option Failure) : Traced :=
  ⟨[], outcome⟩

/-- One change after another, unless the first one fails. -/
def andThen (t : Traced) (next : FileSystem → Traced) : Traced :=
  match t.outcome with
  | (_, some _) => t
  | (fs, none) => ⟨t.removals ++ (next fs).removals, (next fs).outcome⟩

/-- If a change succeeds, its removals have been carried out, and nothing else has been done. -/
def Faithful (A : FileSystem) (t : Traced) : Prop :=
  t.outcome.2 = none → CarriedOut A t.removals t.outcome.1

theorem Faithful.andThen {t : Traced} {next : FileSystem → Traced} (h : t.Faithful A)
    (hnext : ∀ B, (next B).Faithful B) : (t.andThen next).Faithful A := by
  intro hnone
  obtain ⟨removals, B, failure⟩ := t
  cases failure with
  | some failure => cases hnone
  | none => exact (h rfl).append (hnext B hnone)

end Traced

/-- A removal that is followed. -/
def Removal.traced (r : Removal) (fs : FileSystem) : Traced :=
  ⟨[r], orKeep fs (r.run fs)⟩

theorem Removal.traced_faithful (r : Removal) : (r.traced A).Faithful A := by
  intro hnone
  cases hrun : r.run A with
  | ok B =>
    simp only [traced, hrun, orKeep]
    exact .cons (meets_of_run hrun) hrun (.nil B)
  | error failure => simp [traced, hrun, orKeep] at hnone

/-- Changes one after the other until one fails, as they are followed. -/
def eachTraced {α : Type} (step : FileSystem → α → Traced) : List α → FileSystem → Traced
  | [], fs => .still (fs, none)
  | x :: xs, fs => (step fs x).andThen (eachTraced step xs)

section

variable {α : Type} {step : FileSystem → α → Traced}

theorem eachTraced_outcome {change : FileSystem → α → FileSystem × Option Failure}
    (hstep : ∀ fs x, (step fs x).outcome = change fs x) (xs : List α) (fs : FileSystem) :
    (eachTraced step xs fs).outcome = eachOf change xs fs := by
  induction xs generalizing fs with
  | nil => rfl
  | cons x xs ih =>
    rw [eachTraced, eachOf, Traced.andThen, ← hstep]
    rcases hx : (step fs x).outcome with ⟨next, _ | failure⟩
    · exact ih next
    · exact hx

theorem eachTraced_faithful (hstep : ∀ fs x, (step fs x).Faithful fs) (xs : List α) (fs : FileSystem) :
    (eachTraced step xs fs).Faithful fs := by
  induction xs generalizing fs with
  | nil => exact fun _ => .nil fs
  | cons x xs ih => exact (hstep fs x).andThen ih

end

/-! ## Clearing -/

/-- Removes a subdirectory, which is empty by then, or a link to a directory. -/
def tracedEntry (fs : FileSystem) (p : Path) : Traced :=
  match fs.isLink p with
  | .error e => .still (fs, some (.raw e))
  | .ok true => (Removal.file p).traced fs
  | .ok false => (Removal.directory p).traced fs

theorem tracedEntry_faithful (fs : FileSystem) (p : Path) : (tracedEntry fs p).Faithful fs := by
  unfold tracedEntry
  split
  · exact nofun
  · exact Removal.traced_faithful _
  · exact Removal.traced_faithful _

/-- Clears a directory as `clear` does, and says what it asks to be removed. -/
def tracedClear : Nat → Path → FileSystem → Traced
  | 0, _, fs => .still (fs, none)
  | depth + 1, p, fs =>
    match fs.scan p with
    | .error _ => .still (fs, none)
    | .ok listing =>
      let inner := listing.directories.filter fun name => !fs.isLinkEntry (p.child name)
      (eachTraced (fun fs name => tracedClear depth (p.child name) fs) inner fs).andThen fun fs =>
        (eachTraced (fun fs name => (Removal.file (p.child name)).traced fs) listing.others fs).andThen fun fs =>
          eachTraced (fun fs name => tracedEntry fs (p.child name)) listing.directories fs

theorem andThen_outcome {t : Traced} {next : FileSystem → Traced} :
    (t.andThen next).outcome = match t.outcome with
      | (fs, some failure) => (fs, some failure)
      | (fs, none) => (next fs).outcome := by
  unfold Traced.andThen
  rcases h : t.outcome with ⟨fs, _ | failure⟩
  · rfl
  · exact h

theorem tracedClear_outcome (depth : Nat) (p : Path) (fs : FileSystem) :
    (tracedClear depth p fs).outcome = clear depth p fs := by
  induction depth generalizing p fs with
  | zero => rfl
  | succ depth ih =>
    rw [tracedClear, clear]
    cases fs.scan p with
    | error e => rfl
    | ok listing =>
      simp only [andThen_outcome]
      rw [eachTraced_outcome fun fs name => ih (p.child name) fs]
      rcases eachOf (fun fs name => clear depth (p.child name) fs)
        (listing.directories.filter fun name => !fs.isLinkEntry (p.child name)) fs with ⟨B, _ | failure⟩
      · dsimp only
        have hothers : (eachTraced (fun fs name => (Removal.file (p.child name)).traced fs) listing.others B).outcome
            = eachOf (fun fs name => orKeep fs (removeFile fs (p.child name))) listing.others B :=
          eachTraced_outcome (fun _ _ => rfl) listing.others B
        rw [hothers]
        rcases eachOf (fun fs name => orKeep fs (removeFile fs (p.child name))) listing.others B
          with ⟨C, _ | failure⟩
        · refine eachTraced_outcome (fun fs name => ?_) _ _
          unfold tracedEntry
          rcases fs.isLink (p.child name) with e | _ | _ <;> rfl
        · rfl
      · rfl

theorem tracedClear_faithful (depth : Nat) (p : Path) (fs : FileSystem) :
    (tracedClear depth p fs).Faithful fs := by
  induction depth generalizing p fs with
  | zero => exact fun _ => .nil fs
  | succ depth ih =>
    rw [tracedClear]
    split
    · exact fun _ => .nil fs
    · refine (eachTraced_faithful (fun fs name => ih (p.child name) fs) _ fs).andThen fun B => ?_
      refine (eachTraced_faithful (fun _ _ => Removal.traced_faithful _) _ B).andThen fun C => ?_
      exact eachTraced_faithful (fun fs name => tracedEntry_faithful fs (p.child name)) _ C

/-! ## Rebuilding -/

/-- Removes what is at a path, as it has been found there. -/
def tracedRemoval (fs : FileSystem) (root : Path) : Obstacle → Traced
  | .nothing => .still (fs, none)
  | .entry => (Removal.file root).traced fs
  | .tree => (tracedClear (fs.nodes.length + 1) root fs).andThen fun fs => (Removal.directory root).traced fs

/-- Rebuilds a directory as `rebuild` does, and says what it asks to be removed. -/
def tracedRebuild (fs : FileSystem) (root : Path) : Traced :=
  match obstacle fs root with
  | .error e => .still (fs, some (.raw e))
  | .ok found => (tracedRemoval fs root found).andThen fun fs => .still (makeRoot fs root)

theorem tracedRemoval_faithful (fs : FileSystem) (root : Path) (found : Obstacle) :
    (tracedRemoval fs root found).Faithful fs := by
  cases found with
  | nothing => exact fun _ => .nil fs
  | entry => exact Removal.traced_faithful _
  | tree => exact (tracedClear_faithful _ root fs).andThen fun _ => Removal.traced_faithful _

theorem tracedRebuild_outcome (fs : FileSystem) (root : Path) :
    (tracedRebuild fs root).outcome = ((rebuild fs root).1, (rebuild fs root).2.2) := by
  unfold tracedRebuild rebuild
  rcases obstacle fs root with e | found
  · rfl
  · simp only [andThen_outcome]
    cases found with
    | nothing => rfl
    | entry =>
      simp only [tracedRemoval, Removal.traced, Removal.run]
      cases removeFile fs root <;> rfl
    | tree =>
      simp only [tracedRemoval, andThen_outcome, tracedClear_outcome, Removal.traced, Removal.run]
      rcases clear (fs.nodes.length + 1) root fs with ⟨B, _ | failure⟩
      · dsimp only
        cases removeDirectory B root <;> rfl
      · rfl

/-- If a rebuild succeeds, everything that it has asked to be removed has been, before the new directory is
    made. -/
theorem tracedRebuild_carriedOut (h : (rebuild A root).2.2 = none) :
    ∃ M, CarriedOut A (tracedRebuild A root).removals M ∧ makeRoot M root = ((rebuild A root).1, none) := by
  have houtcome := tracedRebuild_outcome A root
  rw [h] at houtcome
  unfold tracedRebuild at houtcome ⊢
  cases hobstacle : obstacle A root with
  | error e => simp [hobstacle, Traced.still] at houtcome
  | ok found =>
    simp only [hobstacle, andThen_outcome] at houtcome
    have hfaithful := tracedRemoval_faithful A root found
    simp only [Traced.andThen]
    rcases hremoval : (tracedRemoval A root found).outcome with ⟨M, _ | failure⟩
    · have hM := hfaithful (by rw [hremoval])
      simp only [hremoval, Traced.still, List.append_nil] at houtcome hM ⊢
      exact ⟨M, hM, houtcome⟩
    · rw [hremoval] at houtcome
      cases houtcome

end TemplateTree.Output
