import TemplateTree.Proofs.FileSystem.Directories
import TemplateTree.Proofs.FileSystem.Later
import TemplateTree.Proofs.FileSystem.SameEntries

/-!
# File systems whose clocks differ

Two file systems with the same entries, whose clocks may show different times. The files that both had in the
beginning have the same stamps, and nothing is written in their place. The stamps of all others are as far
apart as the clocks are. A path leads to a location of one kind or the other, and goes on leading there, so
that two stamps under it are the same in one file system exactly if they are in the other.

* `Epoch`, `Epoch.Match`: which stamps belong together.
* `Twins`: two file systems with such stamps.
* `Steady`: paths go on leading where they lead.
* `Epoch.Found`: stamps that belong together under a path.
-/

namespace TemplateTree.FileSystem

variable {A B C M N S T : FileSystem} {p : Path} {x y : Location}

/-! ## Stamps that belong together -/

/-- The beginning of two runs: where each file is that both held, and the times of their clocks. -/
structure Epoch where
  held : Location → Prop
  first : Nat
  second : Nat

variable {e : Epoch} {stamp stamp' : Nat}

/-- Two stamps at a location belong together: they are those of a file that was held, or were given out at the
    same distance from the beginning. -/
structure Epoch.Match (e : Epoch) (x : Location) (stamp stamp' : Nat) : Prop where
  held : e.held x → stamp = stamp'
  new : ¬e.held x → stamp + e.second = stamp' + e.first

/-- Among stamps that belong together, one is the same as before exactly if its partner is. -/
theorem Epoch.Match.eq_iff (h : e.Match x stamp stamp') {other other' : Nat} (h' : e.Match x other other') :
    stamp = other ↔ stamp' = other' := by
  by_cases hx : e.held x
  · rw [h.held hx, h'.held hx]
  · have := h.new hx
    have := h'.new hx
    omega

/-- Two file systems with the same entries and with stamps that belong together. -/
structure Twins (e : Epoch) (A B : FileSystem) : Prop where
  entries : SameEntries A B
  there : ∀ x, e.held x → A.node? x ≠ none
  stamps : ∀ x content mode stamp content' mode' stamp', A.node? x = some (.file content mode stamp) →
    B.node? x = some (.file content' mode' stamp') → e.Match x stamp stamp'
  clock : A.clock + e.second = B.clock + e.first

/-- The beginning of two runs in file systems with the same nodes. -/
def beginning (A B : FileSystem) : Epoch where
  held x := ∃ content mode stamp, A.node? x = some (.file content mode stamp)
  first := A.clock
  second := B.clock

theorem twins_beginning (hnode : ∀ x, B.node? x = A.node? x) (hwork : B.workDir = A.workDir)
    (hlost : B.workDirLost = A.workDirLost) : Twins (beginning A B) A B := by
  refine ⟨sameEntries_of_nodes hnode hwork hlost, ?_, ?_, Nat.add_comm _ _⟩
  · rintro x ⟨content, mode, stamp, hx⟩
    simp [hx]
  · intro x _ _ _ _ _ _ hA hB
    rw [hnode, hA] at hB
    cases hB
    exact ⟨fun _ => rfl, fun hx => absurd ⟨_, _, _, hA⟩ hx⟩

namespace Twins

/-- Directories are made in both. -/
theorem made (h : Twins e A B) (hM : Made p A M) (hN : Made p B N) (hMN : SameEntries M N) : Twins e M N := by
  refine ⟨hMN, fun x hx => ?_, ?_, ?_⟩
  · obtain ⟨node, hnode⟩ := Option.ne_none_iff_exists'.1 (h.there x hx)
    simp [hM.keeps hnode]
  · intro x _ _ _ _ _ _ hA hB
    obtain hA' | ⟨-, hA', -⟩ := hM.node x <;> rw [hA'] at hA
    · obtain hB' | ⟨-, hB', -⟩ := hN.node x <;> rw [hB'] at hB
      · exact h.stamps _ _ _ _ _ _ _ hA hB
      · cases hB
    · cases hA
  · rw [hM.clock, hN.clock]
    exact h.clock

/-- Time passes in both. -/
theorem passed (h : Twins e M N) (hST : SameEntries S T) (hS : ∀ x, S.node? x = M.node? x)
    (hT : ∀ x, T.node? x = N.node? x) {k : Nat} (hclock : S.clock = M.clock + k)
    (hclock' : T.clock = N.clock + k) : Twins e S T := by
  refine ⟨hST, fun x hx => hS x ▸ h.there x hx, ?_, ?_⟩
  · intro x _ _ _ _ _ _ hA hB
    rw [hS] at hA
    rw [hT] at hB
    exact h.stamps _ _ _ _ _ _ _ hA hB
  · have := h.clock
    omega

/-- A file is written in both, where none was held. -/
theorem written (h : Twins e M N) (hST : SameEntries S T) (hy : ¬e.held y) {content content' : ByteArray}
    {mode mode' : Nat}
    (hS : ∀ x, S.node? x = if x = y then some (.file content mode S.clock) else M.node? x)
    (hT : ∀ x, T.node? x = if x = y then some (.file content' mode' T.clock) else N.node? x) {k : Nat}
    (hclock : S.clock = M.clock + k) (hclock' : T.clock = N.clock + k) : Twins e S T := by
  have hnow : S.clock + e.second = T.clock + e.first := by
    have := h.clock
    omega
  refine ⟨hST, fun x hx => ?_, ?_, hnow⟩
  · rw [hS, if_neg fun hxy : x = y => hy (hxy ▸ hx)]
    exact h.there x hx
  · intro x _ _ _ _ _ _ hA hB
    rw [hS] at hA
    rw [hT] at hB
    split_ifs at hA hB with hxy
    · cases hA
      cases hB
      exact ⟨fun hx => absurd (hxy ▸ hx) hy, fun _ => hnow⟩
    · exact h.stamps _ _ _ _ _ _ _ hA hB

end Twins

/-! ## Paths that go on leading where they lead -/

/-- Every path that leads somewhere in `A` leads there in `B`. -/
structure Steady (A B : FileSystem) : Prop extends Extends A B where
  noLink : ∀ x t, B.node? x = some (.link t) → A.node? x = some (.link t)
  workDir : B.workDir = A.workDir
  workDirLost : B.workDirLost = A.workDirLost

namespace Steady

theorem trans (h : Steady A B) (h' : Steady B C) : Steady A C :=
  ⟨h.toExtends.trans h'.toExtends, fun x t hx => h.noLink x t (h'.noLink x t hx), h'.workDir.trans h.workDir,
    h'.workDirLost.trans h.workDirLost⟩

theorem locate (h : Steady A B) {s : Spot} (hs : A.locate true p = .ok s) : B.locate true p = .ok s := by
  have hwalk : ∀ here, A.walk true linkLimit here p.parts = .ok s → B.walk true linkLimit here p.parts = .ok s :=
    fun here => walk_mono h.toExtends (fun _ hplain t ht => hplain t (h.noLink _ t ht)) _ _ _
  unfold FileSystem.locate at hs ⊢
  rw [h.workDir, h.workDirLost]
  split_ifs at hs ⊢
  · exact hwalk _ hs
  · exact hs
  · exact hwalk _ hs

end Steady

/-- The stamps belong together at the location that a path leads to. -/
def Epoch.Found (e : Epoch) (A : FileSystem) (p : Path) (stamp stamp' : Nat) : Prop :=
  ∃ s, A.locate true p = .ok s ∧ e.Match s.location stamp stamp'

theorem Epoch.Found.steady (h : e.Found A p stamp stamp') (hB : Steady A B) : e.Found B p stamp stamp' := by
  obtain ⟨s, hs, hmatch⟩ := h
  exact ⟨s, hB.locate hs, hmatch⟩

theorem Epoch.Found.eq_iff (h : e.Found A p stamp stamp') {other other' : Nat}
    (h' : e.Found A p other other') : stamp = other ↔ stamp' = other' := by
  obtain ⟨s, hs, hmatch⟩ := h
  obtain ⟨s', hs', hmatch'⟩ := h'
  rw [hs] at hs'
  cases hs'
  exact hmatch.eq_iff hmatch'

/-- The stamps of the files that a path leads to belong together. -/
theorem Twins.found (h : Twins e A B) {content content' : ByteArray} {mode mode' : Nat}
    (hA : A.look true p = .ok (.file content mode stamp))
    (hB : B.look true p = .ok (.file content' mode' stamp')) : e.Found A p stamp stamp' := by
  obtain ⟨s, hs, hfile⟩ := locate_of_look_file hA
  obtain ⟨s', hs', hfile'⟩ := locate_of_look_file hB
  rw [← h.entries.locate_eq, hs] at hs'
  cases hs'
  exact ⟨s, hs, h.stamps _ _ _ _ _ _ _ hfile hfile'⟩

end TemplateTree.FileSystem
