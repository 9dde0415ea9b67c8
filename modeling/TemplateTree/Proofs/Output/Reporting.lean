import TemplateTree.Proofs.Output.Failing
import TemplateTree.Proofs.Output.Stamps

/-!
# Rebuilds that fail

A rebuild says which path it failed over and what it was doing, with two exceptions, which are both about the
path of the output directory itself: a NUL character in it, and a name on it that is too long for the system.

* `MeetsLongName`, `asks_error`: the only reason why one cannot ask what is at a path.
* `Fewer`, `walk_fewer`: where entries have been removed, no path meets a long name that did not meet one before.
* `clear_reported`, `rebuild_reported`: what a rebuild fails with.
-/

namespace TemplateTree

open FileSystem Output

variable {A B C : FileSystem} {p root : Path} {follow : Bool} {here : Location}

namespace FileSystem

/-! ## Names that are too long -/

/-- Whether a path, with or without a link at its end, meets a name that is too long. -/
def MeetsLongName (fs : FileSystem) (p : Path) : Prop :=
  ∃ follow, fs.locate follow p = .error .nameTooLong

/-- The ways in which a path cannot be followed. -/
def pathErrors : List Errno :=
  [.noEntry, .notDirectory, .tooManyLinks, .nameTooLong]

theorem walkNames_error {on : LinkStep}
    (hon : ∀ here t rest e, on here t rest = .error e → e ∈ pathErrors) :
    ∀ names here e, A.walkNames follow on here names = .error e → e ∈ pathErrors := by
  intro names
  induction names with
  | nil => exact nofun
  | cons name rest ih =>
    intro here e h
    by_cases hname : name = ".."
    · rw [hname, walkNames_up] at h
      exact ih _ _ h
    · rw [walkNames, if_neg (by simpa using hname)] at h
      by_cases hsize : nameLimit < name.utf8ByteSize
      · rw [if_pos hsize] at h
        cases h
        decide
      · rw [if_neg hsize] at h
        cases hnode : A.node? (here ++ [name]) with
        | none =>
          simp only [hnode] at h
          split_ifs at h
          cases h
          decide
        | some node =>
          cases node with
          | file =>
            simp only [hnode] at h
            split_ifs at h
            cases h
            decide
          | directory =>
            simp only [hnode] at h
            split_ifs at h
            exact ih _ _ h
          | link t =>
            simp only [hnode] at h
            split_ifs at h
            exact hon _ _ _ _ h

theorem walk_error :
    ∀ budget here names e, A.walk follow budget here names = .error e → e ∈ pathErrors := by
  intro budget
  induction budget with
  | zero =>
    refine fun here names e => walkNames_error (fun _ _ _ e h => ?_) names here e
    cases h
    decide
  | succ budget ih => exact fun here names e => walkNames_error (fun _ _ _ e h => ih _ _ _ h) names here e

theorem locate_error {e : Errno} (h : A.locate follow p = .error e) : e ∈ pathErrors := by
  unfold locate at h
  split_ifs at h
  · exact walk_error _ _ _ _ h
  · cases h
    decide
  · exact walk_error _ _ _ _ h

/-- Nothing but a long name keeps the system from saying what is at a path. -/
theorem asks_error {ask : Node → Bool} {e : SystemError} (h : A.asks follow p ask = .error e) :
    A.locate follow p = .error .nameTooLong ∧ e = .about .nameTooLong p.text := by
  unfold asks at h
  split at h
  · cases h
  · rename_i hlook
    split_ifs at h with habsent
    obtain rfl := Except.error.inj h
    unfold look at hlook
    split_ifs at hlook
    · cases hlook
    · obtain hfind | ⟨s, -, hnode⟩ := bind_eq_error.1 hlook
      · unfold find at hfind
        split_ifs at hfind
        · cases hfind
          exact absurd rfl habsent
        · cases hloc : A.locate follow p with
          | ok s =>
            rw [hloc] at hfind
            cases hfind
          | error errno =>
            rw [hloc] at hfind
            cases hfind
            have hmem := locate_error hloc
            simp only [SystemError.saysAbsent, SystemError.about] at habsent
            obtain rfl : errno = .nameTooLong := by
              revert habsent hmem
              cases errno <;> decide
            exact ⟨rfl, rfl⟩
      · split at hnode
        · cases hnode
        · cases hnode
          exact absurd rfl habsent

/-! ## Fewer entries -/

/-- One file system has some of the entries of another. -/
structure Fewer (A B : FileSystem) : Prop where
  node : ∀ x, B.node? x = A.node? x ∨ B.node? x = none

namespace Fewer

theorem refl (A : FileSystem) : Fewer A A := ⟨fun _ => .inl rfl⟩

theorem trans (h : Fewer A B) (h' : Fewer B C) : Fewer A C := by
  refine ⟨fun x => ?_⟩
  obtain hC | hC := h'.node x
  · rw [hC]
    exact h.node x
  · exact .inr hC

theorem isSome (h : Fewer A B) {x : Location} (hx : (B.node? x).isSome) : (A.node? x).isSome := by
  obtain heq | hnone := h.node x
  · rwa [← heq]
  · simp [hnone] at hx

theorem erase {x : Location} (hx : x ≠ []) : Fewer A (A.erase x) := by
  refine ⟨fun y => ?_⟩
  rw [node?_erase A hx]
  split_ifs
  · exact .inr rfl
  · exact .inl rfl

theorem unlink (h : A.unlink p = .ok B) : Fewer A B := by
  obtain ⟨s, -, hs, -, rfl⟩ := Output.unlink_ok h
  exact .erase hs

theorem removeDir (h : A.removeDir p = .ok B) : Fewer A B := by
  obtain ⟨s, hs, rfl⟩ := Output.removeDir_ok h
  refine ⟨fun x => ?_⟩
  rw [node?_dropDirectory]
  exact (Fewer.erase hs).node x

end Fewer

/-- A path that could be followed to its end does not meet a long name when entries are gone. -/
theorem walkNames_fewer {onA onB : LinkStep} (h : Fewer A B)
    (hon : ∀ here t rest s, onA here t rest = .ok s → onB here t rest ≠ .error .nameTooLong) :
    ∀ names here s, A.walkNames true onA here names = .ok s →
      B.walkNames follow onB here names ≠ .error .nameTooLong := by
  intro names
  induction names with
  | nil => simp [walkNames]
  | cons name rest ih =>
    intro here s hA
    by_cases hname : name = ".."
    · rw [hname, walkNames_up] at hA ⊢
      exact ih _ _ hA
    · rw [walkNames_cons_eq_ok hname] at hA
      obtain ⟨hsize, hA⟩ := hA
      rw [walkNames, if_neg (by simpa using hname), if_neg (Nat.not_lt.2 hsize)]
      obtain heq | hnone := h.node (here ++ [name])
      · rw [heq]
        obtain ⟨rfl, -, hplain⟩ | ⟨hrest, hdir, hA⟩ | ⟨t, hlink, -, hA⟩ := hA
        · -- The last name: what is there is no link.
          cases hnode : A.node? (here ++ [name]) with
          | none => simp
          | some node =>
            cases node with
            | file | directory => simp
            | link t => exact absurd hnode (hplain rfl t)
        · simp only [hdir, List.isEmpty_iff, hrest, if_false]
          exact ih _ _ hA
        · simp only [hlink]
          split_ifs
          · simp
          · exact hon _ _ _ _ hA
      · simp only [hnone]
        split_ifs <;> simp

theorem walk_fewer (h : Fewer A B) :
    ∀ budget here names s, A.walk true budget here names = .ok s →
      B.walk follow budget here names ≠ .error .nameTooLong := by
  intro budget
  induction budget with
  | zero => exact fun here names s => walkNames_fewer h (fun _ _ _ _ hA => by cases hA) names here s
  | succ budget ih =>
    exact fun here names s => walkNames_fewer h (fun _ _ _ _ h => ih _ _ _ h) names here s

end FileSystem

/-! ## Attempts that say what they failed over -/

namespace Output

/-- A failure that says what was being done to which path. -/
def IsIo (failure : Failure) : Prop :=
  ∃ operation p reason, failure = .io operation p reason

theorem isIo_ofSystem {operation : String} {e : SystemError} (h : e ≠ .nulByte) :
    IsIo (.ofSystem operation p e) := by
  cases e with
  | failed errno words path target => exact ⟨operation, p, _, rfl⟩
  | nulByte => exact absurd rfl h

theorem removeFile_isIo (hnul : hasNul p = false) {failure : Failure} (h : removeFile A p = .error failure) :
    IsIo failure := by
  obtain ⟨e, he, rfl⟩ := mapError_eq_error.1 h
  refine isIo_ofSystem ?_
  rintro rfl
  simp [hasNul_of_unlink he] at hnul

theorem removeDirectory_isIo (hnul : hasNul p = false) {failure : Failure}
    (h : removeDirectory A p = .error failure) : IsIo failure := by
  obtain ⟨e, he, rfl⟩ := mapError_eq_error.1 h
  refine isIo_ofSystem ?_
  rintro rfl
  simp [hasNul_of_removeDir he] at hnul

theorem makeRoot_isIo (hnul : hasNul root = false) {failure : Failure}
    (h : (makeRoot A root).2 = some failure) : IsIo failure := by
  obtain ⟨e, he, rfl⟩ := Option.map_eq_some_iff.1 h
  refine isIo_ofSystem ?_
  rintro rfl
  simp [hasNul_of_makeDirs (Prod.ext rfl he)] at hnul

/-- However an attempt ends, nothing is new, and it says what it has failed over. -/
structure Removes (A : FileSystem) (r : FileSystem × Option Failure) : Prop where
  fewer : Fewer A r.1
  reported : ∀ failure, r.2 = some failure → IsIo failure

theorem Removes.done (h : Fewer A B) : Removes A (B, none) :=
  ⟨h, by simp⟩

theorem orKeep_removes {attempt : Except Failure FileSystem} (h : Fewer A B)
    (hok : ∀ C, attempt = .ok C → Fewer B C) (herror : ∀ failure, attempt = .error failure → IsIo failure) :
    Removes A (orKeep B attempt) := by
  cases attempt with
  | ok C => exact .done (h.trans (hok C rfl))
  | error failure => exact ⟨h, fun _ hfailure => Option.some.inj hfailure ▸ herror failure rfl⟩

theorem removeFile_removes (h : Fewer A B) (hnul : hasNul p = false) :
    Removes A (orKeep B (removeFile B p)) :=
  orKeep_removes h (fun _ hC => .unlink (removeFile_eq_ok.1 hC)) fun _ => removeFile_isIo hnul

theorem removeDirectory_removes (h : Fewer A B) (hnul : hasNul p = false) :
    Removes A (orKeep B (removeDirectory B p)) :=
  orKeep_removes h (fun _ hC => .removeDir (removeDirectory_eq_ok.1 hC)) fun _ => removeDirectory_isIo hnul

theorem eachOf_removes {α : Type} (step : FileSystem → α → FileSystem × Option Failure) (xs : List α)
    (hstep : ∀ x ∈ xs, ∀ fs, Fewer A fs → Removes A (step fs x)) (h : Fewer A B) :
    Removes A (eachOf step xs B) := by
  induction xs generalizing B with
  | nil => exact .done h
  | cons x xs ih =>
    have hx := hstep x (by simp) B h
    rw [eachOf]
    split <;> rename_i heq <;> rw [heq] at hx
    · exact hx
    · exact ih (fun y hy => hstep y (by simp [hy])) hx.fewer

/-! ## Clearing -/

/-- Whether no entry has a NUL character in its name. -/
def HasPlainNames (A : FileSystem) : Prop :=
  ∀ x name, (A.node? (x ++ [name])).isSome → Char.ofNat 0 ∉ name.toList

theorem hasPlainNames_of_wellFormed (hA : A.WellFormed) : HasPlainNames A := fun x name h => by
  obtain ⟨node, hnode⟩ := Option.isSome_iff_exists.1 h
  exact (hA.named _ _ _ hnode).2.2

theorem HasPlainNames.child (hA : HasPlainNames A) (hnul : hasNul p = false) {x : Location} {name : String}
    (h : name ∈ A.children x) : hasNul (p.child name) = false := by
  rw [Bool.eq_false_iff] at hnul ⊢
  intro hchild
  obtain ⟨part, hpart, hmem⟩ := hasNul_eq_true.1 hchild
  obtain hpart | rfl := List.mem_append.1 hpart |>.imp id List.mem_singleton.1
  · exact hnul (hasNul_eq_true.2 ⟨part, hpart, hmem⟩)
  · exact hA x part (mem_children.1 h) hmem

theorem hasNul_of_scan {listing : Listing} (h : A.scan p = .ok listing) : hasNul p = false := by
  unfold scan at h
  split_ifs at h with hnul
  · cases h
  · simpa using hnul

/-- Where an entry led to a directory, one can still ask whether it is a link when entries are gone. -/
theorem isLink_isOk {name : String} (hp : p.isAbsolute = true) (h : Fewer A B)
    (hdir : A.leadsToDirectory p name = true) {e : SystemError} : B.isLink (p.child name) ≠ .error e := by
  intro herror
  have hok : A.isDir (p.child name) = .ok true := by
    unfold leadsToDirectory at hdir
    split at hdir
    · rename_i b hb
      rw [hb, hdir]
    · cases hdir
  have habs : (p.child name).isAbsolute = true := hp
  obtain ⟨-, x, -, s, hs, -⟩ := (isDir_eq_true habs).1 hok
  have hlong := (asks_error herror).1
  rw [locate_of_isAbsolute habs] at hs hlong
  exact walk_fewer h _ _ _ _ hs hlong

/-- Clearing a directory removes entries, and says what it has failed over. -/
theorem clear_reported (depth : Nat) (hp : p.isAbsolute = true) (hA : HasPlainNames A) :
    Removes A (clear depth p A) := by
  induction depth generalizing p A with
  | zero => exact .done (.refl A)
  | succ depth ih =>
    rw [clear]
    split
    · exact .done (.refl A)
    · rename_i listing hscan
      obtain ⟨x, -, hdirs, hothers⟩ := scan_eq_ok hscan
      have hchild : ∀ name ∈ A.children x, hasNul (p.child name) = false :=
        fun name => hA.child (hasNul_of_scan hscan)
      have hinner := eachOf_removes (fun fs name => clear depth (p.child name) fs)
        (listing.directories.filter fun name => !A.isLinkEntry (p.child name)) (fun name _ fs hfs => by
          obtain ⟨hfewer, hreported⟩ := ih (p := p.child name) hp
            (fun x name h => hA x name (hfs.isSome h))
          exact ⟨hfs.trans hfewer, hreported⟩) (.refl A)
      dsimp only
      split <;> rename_i heq <;> rw [heq] at hinner
      · exact hinner
      · have hfiles := eachOf_removes (fun fs name => orKeep fs (removeFile fs (p.child name)))
          listing.others (fun name hname fs hfs =>
            removeFile_removes hfs (hchild name (List.mem_filter.1 (hothers ▸ hname)).1)) hinner.fewer
        split <;> rename_i heq' <;> rw [heq'] at hfiles
        · exact hfiles
        · refine eachOf_removes _ _ (fun name hname fs hfs => ?_) hfiles.fewer
          obtain ⟨hmem, hdir⟩ := List.mem_filter.1 (hdirs ▸ hname)
          split
          · exact absurd ‹_› (isLink_isOk hp hfs hdir)
          · exact removeFile_removes hfs (hchild name hmem)
          · exact removeDirectory_removes hfs (hchild name hmem)

/-! ## Rebuilding -/

theorem obstacle_error {e : SystemError} (h : obstacle A root = .error e) :
    MeetsLongName A root ∧ e = .about .nameTooLong root.text := by
  obtain hlink | ⟨isLink, -, h⟩ := bind_eq_error.1 h
  · exact (asks_error hlink).imp (⟨_, ·⟩) id
  · cases isLink with
    | true => cases h
    | false =>
      obtain hfile | ⟨isFile, -, h⟩ := bind_eq_error.1 h
      · exact (asks_error hfile).imp (⟨_, ·⟩) id
      · cases isFile with
        | true => cases h
        | false =>
          obtain hdir | ⟨isDir, -, h⟩ := bind_eq_error.1 h
          · exact (asks_error hdir).imp (⟨_, ·⟩) id
          · cases isDir <;> cases h

/-- A rebuild says what it has failed over, unless there is a NUL character in the path of the output directory,
    or a name on it is too long. -/
theorem rebuild_reported (hA : A.WellFormed) (hp : root.isAbsolute = true) {failure : Failure}
    (h : (rebuild A root).2.2 = some failure) :
    IsIo failure ∨ (hasNul root = true ∧ failure = .overNul) ∨
      (MeetsLongName A root ∧ failure = .raw (.about .nameTooLong root.text)) := by
  cases hnul : hasNul root with
  | true =>
    rw [rebuild_of_hasNul hnul] at h
    exact .inr (.inl ⟨rfl, (Option.some.inj h).symm⟩)
  | false =>
    unfold rebuild at h
    split at h
    · obtain ⟨hlong, rfl⟩ := obstacle_error ‹_›
      exact .inr (.inr ⟨hlong, (Option.some.inj h).symm⟩)
    · exact .inl (makeRoot_isIo hnul h)
    · split at h
      · cases h
        exact .inl (removeFile_isIo hnul ‹_›)
      · exact .inl (makeRoot_isIo hnul h)
    · have hclear := clear_reported (A.nodes.length + 1) hp (hasPlainNames_of_wellFormed hA)
      dsimp only at h
      split at h <;> rename_i heq <;> rw [heq] at hclear
      · exact .inl (hclear.reported _ h)
      · split at h
        · cases h
          exact .inl (removeDirectory_isIo hnul ‹_›)
        · exact .inl (makeRoot_isIo hnul h)

end Output

end TemplateTree
