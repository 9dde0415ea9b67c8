import TemplateTree.Proofs.FileSystem.Later
import TemplateTree.Proofs.Output.Creating
import TemplateTree.Proofs.Output.Removal

/-!
# Writes and stamps

However a write ends, the file system comes after the one before it. The only file that a write loses is
its temporary file. This holds for every path, also for one with double dots or links in it.

* `stage_later`, `settle_follows`: the two halves of a write.
* `Stretch`, `stage_stretch`: a write with a body in it.
* `rebuild_dated`: rebuilding a directory makes no files.
-/

namespace TemplateTree.Output

open FileSystem

variable {A B M R S fs : FileSystem} {p temp root : Path} {D : Location} {name : String}

/-! ## Making directories -/

theorem makeDir_later (h : fs.makeDir p = .ok B) : Later fs B := by
  obtain ⟨s, -, h⟩ := bind_eq_ok.1 h
  split at h
  · rename_i n hname hnone
    cases h
    exact later_put_directory (by simp [Spot.location, hname]) hnone
  · cases h

theorem makeDirsWithin_later (fs : FileSystem) (depth : Nat) (p : Path) :
    Later fs (fs.makeDirsWithin depth p).1 := by
  induction depth generalizing p with
  | zero =>
    rw [makeDirsWithin]
    split
    · exact makeDir_later ‹_›
    · exact .refl fs
  | succ depth ih =>
    rw [makeDirsWithin]
    split
    · exact makeDir_later ‹_›
    · split
      · exact .refl fs
      · have above := ih p.parent
        split <;> rename_i hrec <;> rw [hrec] at above
        · exact above
        · split
          · exact above.trans (makeDir_later ‹_›)
          · split <;> exact above
    · exact .refl fs
    · split <;> exact .refl fs

/-! ## Before the body -/

theorem later_withTemp (h : M.node? (D ++ [name]) = none) : Later M (withTemp M D name) := by
  refine ⟨Nat.le_succ _, rfl, rfl, fun x => ?_⟩
  rw [node?_withTemp]
  split_ifs with hx
  · rw [hx, h]
    exact .written nofun (Nat.lt_succ_self _) (Nat.le_refl _)
  · exact .same _

theorem makeTemp_later {directory : Path} {stem : String}
    (h : makeTemp M directory stem = .ok (S, temp)) : Later M S := by
  obtain ⟨absolute, -, h⟩ := bind_eq_ok.1 h
  obtain ⟨spot, -, h⟩ := bind_eq_ok.1 h
  dsimp only at h
  split at h
  · cases h
  · rename_i k hk
    cases h
    exact later_withTemp (by simpa using List.find?_some hk)

theorem stage_later (A : FileSystem) (p : Path) : Later A (stage A p).1 := by
  have hdirs := makeDirsWithin_later A (p.parent.parts.length + 1) p.parent
  unfold stage ensureParent makeDirs
  generalize A.makeDirsWithin (p.parent.parts.length + 1) p.parent = made at hdirs
  obtain ⟨M, error | e⟩ := made
  · dsimp only [Option.map_none]
    split
    · exact hdirs
    · exact hdirs.trans (makeTemp_later ‹_›)
  · exact hdirs

/-! ## After the body -/

theorem unlink_ok (h : fs.unlink p = .ok B) :
    ∃ s, fs.locate false p = .ok s ∧ s.location ≠ [] ∧ fs.node? s.location ≠ none ∧
      B = fs.erase s.location := by
  obtain ⟨s, hfind, h⟩ := bind_eq_ok.1 h
  refine ⟨s, (find_eq_ok.1 hfind).2, ?_⟩
  split at h
  · cases h
  · cases h
  · cases h
  · rename_i hname hnode
    cases h
    exact ⟨by simp [Spot.location, hname], by simp [hnode], rfl⟩

theorem removeDir_ok (h : fs.removeDir p = .ok B) :
    ∃ s : Spot, s.location ≠ [] ∧ B = fs.dropDirectory s.location := by
  obtain ⟨s, -, h⟩ := bind_eq_ok.1 h
  refine ⟨s, ?_⟩
  split at h
  · cases h
  · cases h
  · rename_i hname hnode
    split_ifs at h
    · cases h
      exact ⟨by simp [Spot.location, hname], rfl⟩
  · cases h

/-- Removing the temporary file loses only that, whatever else has changed. -/
theorem discardTemp_follows {x : Location}
    (hlocate : ∀ s, R.locate false temp = .ok s → s.location = x)
    (hfile : R.node? x ≠ none → ∃ content mode stamp, R.node? x = some (.file content mode stamp)) :
    Follows [x] R (discardTemp R temp) := by
  unfold discardTemp
  split
  · obtain ⟨s, hs, -, hsome, rfl⟩ := unlink_ok ‹_›
    obtain rfl := hlocate s hs
    obtain ⟨content, mode, stamp, hfile⟩ := hfile hsome
    exact follows_erase hfile
  · exact .refl _ _

theorem setMode_later {mode : Nat} (h : fs.setMode p mode = .ok B) : Later fs B := by
  obtain ⟨s, -, h⟩ := bind_eq_ok.1 h
  split at h
  · cases h
    exact later_put_mode ‹_› mode
  · cases h
    exact .refl _
  · cases h

theorem follows_placed {x : Location} (hx : x ≠ []) (text : String) (hdir : S.node? x ≠ some .directory)
    {content : ByteArray} {mode stamp : Nat}
    (htemp : S.node? (D ++ [name]) = some (.file content mode stamp)) :
    Follows [D ++ [name]] S (placed S D name text x) := by
  refine ⟨Nat.le_succ _, rfl, rfl, fun y => ?_⟩
  rw [node?_placed _ _ _ _ hx]
  split_ifs with hyx hyt
  · exact .written (hyx ▸ hdir) (Nat.lt_succ_self _) (Nat.le_refl _)
  · rw [hyt, htemp]
    exact .lost (by simp)
  · exact .same _

/-- The end of a write loses only the temporary file. -/
theorem settle_follows (h : Staged S temp D name) (mode : Nat) (text : String)
    (failure : Option Failure) : Follows [D ++ [name]] S (settle S temp p mode text failure).1 := by
  obtain ⟨stamp, htemp⟩ := h.node
  have hdiscard : Follows [D ++ [name]] S (discardTemp S temp) := by
    refine discardTemp_follows (fun s hs => ?_) fun _ => ⟨_, _, _, htemp⟩
    rw [h.locate] at hs
    cases hs
    rfl
  unfold settle
  split
  · exact hdiscard
  · split
    · exact hdiscard
    · rename_i R hcommit
      obtain ⟨-, -, s, -, hnamed, hplain, rfl⟩ := h.commit_eq_ok hcommit
      have hne := Fits.ne_nil hnamed
      have hdir : S.node? s.location ≠ some .directory := by
        intro hdir
        have : s.location ≠ D ++ [name] := by
          intro heq
          rw [heq, htemp] at hdir
          cases hdir
        rw [Bool.eq_false_iff] at hplain
        exact hplain (isDirectoryAt_eq_true.2 (by rw [node?_filled, if_neg this, hdir]))
      have hplaced := follows_placed hne text hdir htemp
      have hlinks : ∀ x ∈ [D ++ [name]], ∀ target, S.node? x ≠ some (.link target) := by
        intro x hx target
        rw [List.mem_singleton.1 hx, htemp]
        nofun
      split
      · -- Where the temporary path can still be followed, it leads to where it led before.
        refine hplaced.trans (discardTemp_follows (fun z hz => ?_) fun hsome => ?_) hlinks
        · have := locate_mono h.isAbsolute (placed_extends_filled S D name text hne) (by simp) hz
          rw [h.locate_filled] at this
          cases this
          rfl
        · rw [node?_placed _ _ _ _ hne] at hsome ⊢
          split_ifs at hsome ⊢
          · exact ⟨_, _, _, rfl⟩
          · exact absurd rfl hsome
          · exact absurd rfl ‹_›
      · exact hplaced.trans_later (setMode_later ‹_›) hlinks

/-! ## Whole writes -/

/-- A write that has a body: the file systems before it, when the body is evaluated, and after it. -/
structure Stretch (A S B : FileSystem) : Prop where
  before : Later A S
  whole : Later A B
  lasting : S.Dated → Lasting S B

theorem stage_stretch (hp : p.isAbsolute = true) (h : stage A p = (S, .ok temp)) (mode : Nat)
    (text : String) (failure : Option Failure) :
    Stretch A S (settle S temp p mode text failure).1 := by
  obtain ⟨M, D, name, hdirs, hstaged, rfl, hfree⟩ := stage_eq_ok hp h
  have hmade := makeDirsWithin_later A (p.parent.parts.length + 1) p.parent
  rw [← makeDirs, hdirs] at hmade
  have hbefore := hmade.trans (later_withTemp hfree)
  have hfollows := settle_follows (p := p) hstaged mode text failure
  obtain ⟨stamp, htemp⟩ := hstaged.node
  have hnode := hmade.node (D ++ [name])
  rw [hfree] at hnode
  have hnone := hnode.eq_none (by simp)
  refine ⟨hbefore, ?_, fun hdated => hfollows.lasting hdated ?_⟩
  · refine ((hbefore.imp (by simp)).trans hfollows ?_).later ?_
    all_goals simp [hnone]
  · simp [htemp]

/-- A whole write, however it ends. -/
theorem writeAtomically_later {σ : Type} (hp : p.isAbsolute = true) (mode : Nat) (state : σ)
    (body : FileSystem → σ → Written σ) : Later A (writeAtomically A p mode state body).1 := by
  have hbefore := stage_later A p
  unfold writeAtomically
  cases hstage : stage A p with
  | mk S result =>
    rw [hstage] at hbefore
    cases result with
    | error failure => exact hbefore
    | ok temp => exact (stage_stretch hp hstage mode _ _).whole

/-! ## Rebuilding a directory -/

theorem dated_of_node? (hA : A.Dated) (hclock : B.clock = A.clock)
    (hfile : ∀ x content mode stamp, B.node? x = some (.file content mode stamp) →
      A.node? x = some (.file content mode stamp)) : B.Dated := by
  intro x content mode stamp hx
  rw [hclock]
  exact hA _ _ _ _ (hfile _ _ _ _ hx)

theorem erase_dated (hA : A.Dated) {x : Location} (hx : x ≠ []) : (A.erase x).Dated := by
  refine dated_of_node? hA rfl fun y content mode stamp hy => ?_
  rw [node?_erase A hx] at hy
  split_ifs at hy
  exact hy

theorem removeFile_dated (hA : A.Dated) (h : removeFile A p = .ok B) : B.Dated := by
  obtain ⟨s, -, hne, -, rfl⟩ := unlink_ok (removeFile_eq_ok.1 h)
  exact erase_dated hA hne

theorem removeDirectory_dated (hA : A.Dated) (h : removeDirectory A p = .ok B) : B.Dated := by
  obtain ⟨s, hne, rfl⟩ := removeDir_ok (removeDirectory_eq_ok.1 h)
  refine dated_of_node? (erase_dated hA hne) (clock_dropDirectory A _) fun x content mode stamp hx => ?_
  rw [← hx, node?_dropDirectory]

theorem makeRoot_later (A : FileSystem) (root : Path) : Later A (makeRoot A root).1 :=
  makeDirsWithin_later A (root.parts.length + 1) root

theorem makeRoot_dated (hA : A.Dated) (root : Path) : (makeRoot A root).1.Dated :=
  hA.follows (makeRoot_later A root)

/-- Rebuilding an output directory makes no files. -/
theorem rebuild_dated (hA : A.Dated) (root : Path) : (rebuild A root).1.Dated :=
  (rebuild_ends removeFile_dated removeDirectory_dated (makeRoot_dated · root) hA).1

end TemplateTree.Output
