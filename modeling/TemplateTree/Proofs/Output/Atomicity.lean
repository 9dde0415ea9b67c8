import TemplateTree.Proofs.FileSystem.Anywhere
import TemplateTree.Proofs.Output.Failing
import TemplateTree.Proofs.Output.Stamps

/-!
# All or nothing

A write puts its whole text under the target path, or leaves what is there as it is. This holds for every path
and whatever is there, with one exception: a path that leads through the very link that it ends in. Then the
file takes the place of the link, and the path cannot be followed any more when the mode is to be set.

* `Ended`: how a write can end.
* `settle_ended`: how it ends once there is a temporary file.
* `writeAtomically_ended`: how it ends, and that nothing else is left of it.
* `writeAtomically_ended_looped`: a link that its own path leads through.
-/

namespace TemplateTree.Output

open FileSystem

variable {A B M S : FileSystem} {p temp directory : Path} {D : Location} {name stem text : String} {mode : Nat}
  {s : Spot} {raised : Option Failure}

/-- How a write ends, with the text that its body has written before it finished or raised a failure. `M` is the
    file system in which the directories above the target have been made. -/
inductive Ended (p : Path) (mode : Nat) (text : String) (raised : Option Failure) (M B : FileSystem) :
    Option Failure → Prop
  /-- A file with the whole text is found under the path, in place of what was there. -/
  | written {s : Spot} {stamp : Nat} (finished : raised = none) (target : M.locate false p = .ok s)
      (plain : M.node? s.location ≠ some .directory) (entry : B.locate false p = .ok s)
      (found : B.locate true p = .ok s)
      (node : ∀ y, B.node? y = if y = s.location then some (.file text.toUTF8 mode stamp) else M.node? y) :
      Ended p mode text raised M B none
  /-- Everything is as it was. -/
  | untouched (failure : Failure) (node : ∀ y, B.node? y = M.node? y) :
      Ended p mode text raised M B (some failure)
  /-- The file has taken the place of a link which the path leads through. -/
  | cutOff {s : Spot} {t : String} {stamp : Nat} (failure : Failure) (finished : raised = none)
      (target : M.locate false p = .ok s) (link : M.node? s.location = some (.link t))
      (lost : ∃ e, B.locate true p = .error e)
      (node : ∀ y, B.node? y = if y = s.location then some (.file text.toUTF8 0o600 stamp) else M.node? y) :
      Ended p mode text raised M B (some failure)

/-! ## The temporary file -/

theorem makeTemp_anywhere (h : makeTemp M directory stem = .ok (S, temp)) :
    ∃ d : Path, d.isAbsolute = true ∧ makeTemp M d stem = .ok (S, temp) := by
  obtain ⟨d, habs, h⟩ := bind_eq_ok.1 h
  have hp := isAbsolute_of_absolute habs
  refine ⟨d, hp, ?_⟩
  rw [makeTemp, show M.absolute d = .ok d from if_pos hp]
  exact h

/-- A temporary file that the system has made for a write, where nothing was. -/
structure IsTemp (M S : FileSystem) (p temp : Path) (D : Location) (name : String) : Prop where
  staged : Staged S temp D name
  eq : S = withTemp M D name
  free : M.node? (D ++ [name]) = none
  noNul : hasNul temp = false
  ne : name ≠ p.name

/-- When a write begins, the directories above its target have been made, and there is a temporary file, or the
    write has failed. -/
theorem stage_anywhere (A : FileSystem) (p : Path) :
    (∃ failure, stage A p = ((A.makeDirs p.parent).1, .error failure) ∧
        ∀ e, (A.makeDirs p.parent).2 = some e → failure = .ofSystem "create directory" p.parent e) ∨
      ∃ S temp D name, stage A p = (S, .ok temp) ∧ (A.makeDirs p.parent).2 = none ∧
        IsTemp (A.makeDirs p.parent).1 S p temp D name := by
  unfold stage ensureParent
  rcases A.makeDirs p.parent with ⟨M, _ | e⟩
  · cases htemp : makeTemp M p.parent (tempStem p) with
    | error e => exact .inl ⟨.raw e, by simp only [Option.map_none, htemp], nofun⟩
    | ok made =>
      obtain ⟨S, temp⟩ := made
      obtain ⟨d, hd, htemp'⟩ := makeTemp_anywhere htemp
      obtain ⟨D, name, hstaged, heq, hfree, k, hk, rfl⟩ := makeTemp_staged htemp' hd
      exact .inr ⟨S, temp, D, _, by simp only [Option.map_none, htemp], rfl, hstaged, heq, hfree,
        (makeTemp_hasNul M (tempStem p) hd).2 S temp htemp', temp_ne_name hk⟩
  · exact .inl ⟨.ofSystem "create directory" p.parent e, rfl, fun e' he => by cases he; rfl⟩

namespace IsTemp

variable (h : IsTemp M S p temp D name)

include h

theorem node?_filled_eq (text : String) (y : Location) :
    (filled S D name text).node? y
      = if y = D ++ [name] then some (.file text.toUTF8 0o600 (S.clock + 1)) else M.node? y := by
  rw [node?_filled, h.eq, node?_withTemp]
  split_ifs <;> rfl

/-- The text in the temporary file adds no directories and links. -/
theorem filled_widens (text : String) : Widens (filled S D name text) M :=
  .of_file (h.node?_filled_eq text) (by rw [h.eq]; rfl) (by rw [h.eq]; rfl)

/-- Where the temporary file is removed, everything is as it was. -/
theorem node?_discardTemp (y : Location) : (discardTemp S temp).node? y = M.node? y := by
  obtain ⟨stamp, hnode⟩ := h.staged.node
  have hunlink : S.unlink temp = .ok (S.erase (D ++ [name])) := by
    simp only [unlink, find_eq_ok.2 ⟨h.noNul, h.staged.locate⟩, bind, Except.bind, Spot.location,
      Option.toList_some, hnode]
    rfl
  rw [discardTemp, hunlink]
  dsimp only
  rw [node?_erase _ (by simp), h.eq, node?_withTemp]
  split_ifs with hy
  · rw [hy, h.free]
  · rfl

/-- The target, when the temporary file takes its place, is another entry. -/
theorem location_ne (hM : M.WellFormed) (hs : M.locate false p = .ok s) (hname : s.name.isNone = false) :
    s.location ≠ D ++ [name] := by
  obtain ⟨n, hn⟩ := Option.isSome_iff_exists.1 (by simpa using hname : s.name.isSome = true)
  obtain ⟨rfl, -, -, -⟩ := spot_of_locate hM hs hn
  simp only [Spot.location, hn, Option.toList_some]
  intro heq
  exact h.ne (List.cons.inj (List.append_inj' heq rfl).2).1.symm

theorem node?_placed_eq {x : Location} (hx : x ≠ []) (text : String) (y : Location) :
    (placed S D name text x).node? y
      = if y = x then some (.file text.toUTF8 0o600 (S.clock + 1)) else M.node? y := by
  rw [node?_placed _ _ _ _ hx, h.eq, node?_withTemp]
  split_ifs with hy hy'
  · rfl
  · rw [hy', h.free]
  · rfl

/-- After the temporary file has taken the place of the target, there is none to be removed. -/
theorem discardTemp_placed {x : Location} (hx : x ≠ []) (hne : x ≠ D ++ [name]) (text : String) :
    discardTemp (placed S D name text x) temp = placed S D name text x := by
  rw [discardTemp]
  split
  · obtain ⟨z, hz, -, hnode, -⟩ := unlink_ok ‹_›
    have := locate_mono h.staged.isAbsolute (placed_extends_filled S D name text hx) (by simp) hz
    rw [h.staged.locate_filled text] at this
    cases this
    exact absurd ((h.node?_placed_eq hx text _).trans ((if_neg (Ne.symm hne)).trans h.free)) hnode
  · rfl

/-- When the file is in its place, either the path leads to it, or the path led through a link there. -/
theorem locate_placed (hs : M.locate false p = .ok s) (hname : s.name.isNone = false)
    (hplain : M.node? s.location ≠ some .directory) (text : String) :
    ((placed S D name text s.location).locate false p = .ok s ∧
        (placed S D name text s.location).locate true p = .ok s) ∨
      ((∃ e, (placed S D name text s.location).locate true p = .error e) ∧
        ∃ t, M.node? s.location = some (.link t)) := by
  have hnode := h.node?_placed_eq (Fits.ne_nil hname) text
  have hat := hnode s.location
  rw [if_pos rfl] at hat
  have hwork : (placed S D name text s.location).workDir = M.workDir := by rw [h.eq]; rfl
  have hlost : (placed S D name text s.location).workDirLost = M.workDirLost := by rw [h.eq]; rfl
  cases hfollow : (placed S D name text s.location).locate true p with
  | ok z =>
    obtain ⟨z', hz', hend⟩ := locate_false_of_true hfollow
    -- Whatever can be followed now could be followed before.
    have hsame := locate_widens (.of_file hnode hwork hlost) (by simp) hz'
    rw [hs] at hsame
    obtain rfl : s = z' := Except.ok.inj hsame
    obtain rfl | ⟨t, ht⟩ := hend
    · exact .inl ⟨hz', rfl⟩
    · rw [hat] at ht
      cases ht
  | error e =>
    refine .inr ⟨⟨e, rfl⟩, ?_⟩
    by_contra hlink
    -- If there was no link, nothing has been lost that a path could need.
    have hforth := Widens.to_file hnode hwork hlost hplain fun t ht => hlink ⟨t, ht⟩
    rw [locate_true_of_false (by simp [hat]) (locate_widens hforth (by simp) hs)] at hfollow
    cases hfollow

/-- How a write ends once there is a temporary file. -/
theorem settle_ended (hM : M.WellFormed) (mode : Nat) (text : String) (raised : Option Failure) :
    Ended p mode text raised M (settle S temp p mode text raised).1 (settle S temp p mode text raised).2 ∧
      ∀ failure, raised = some failure → (settle S temp p mode text raised).2 = some failure := by
  cases raised with
  | some failure => exact ⟨.untouched failure h.node?_discardTemp, fun _ heq => heq⟩
  | none =>
    refine ⟨?_, fun failure heq => by cases heq⟩
    cases hcommit : commit S temp p text with
    | error e =>
      simp only [settle, hcommit]
      exact .untouched _ h.node?_discardTemp
    | ok R =>
      obtain ⟨-, hnul, s, hs, hname, hdir, rfl⟩ := h.staged.commit_eq_ok hcommit
      have hsM := locate_widens (h.filled_widens text) (by simp) hs
      have hx := Fits.ne_nil hname
      have hne := h.location_ne hM hsM hname
      have hplain : M.node? s.location ≠ some .directory := by
        rw [← h.node?_filled_eq text s.location |>.trans (if_neg hne)]
        simpa [isDirectoryAt_eq_true] using Bool.eq_false_iff.1 hdir
      have hnode := h.node?_placed_eq hx text
      obtain ⟨hfalse, htrue⟩ | ⟨⟨e, herror⟩, t, ht⟩ := h.locate_placed hsM hname hplain text
      · have hat := hnode s.location
        rw [if_pos rfl] at hat
        have hmode : (placed S D name text s.location).setMode p mode = .ok
            ((placed S D name text s.location).put s.location (.file text.toUTF8 mode (S.clock + 1))) := by
          simp only [setMode, find_eq_ok.2 ⟨hnul, htrue⟩, bind, Except.bind, hat]
          rfl
        simp only [settle, hcommit, hmode]
        have hput := node?_put (placed S D name text s.location) hx (.file text.toUTF8 mode (S.clock + 1))
        have hwidens := Widens.to_file hput rfl rfl (by simp [hat]) (by simp [hat])
        have hafter : ∀ y, ((placed S D name text s.location).put s.location
            (.file text.toUTF8 mode (S.clock + 1))).node? y
              = if y = s.location then some (.file text.toUTF8 mode (S.clock + 1)) else M.node? y := by
          intro y
          rw [hput, hnode]
          split_ifs <;> rfl
        refine .written rfl hsM hplain (locate_widens hwidens (by simp) hfalse)
          (locate_widens hwidens (fun _ t => ?_) htrue) hafter
        rw [hput, if_pos rfl]
        exact fun heq => by cases heq
      · have hmode : (placed S D name text s.location).setMode p mode = .error (.about e p.text) := by
          simp only [setMode, find, hnul, herror, Except.mapError, bind, Except.bind, Bool.false_eq_true, if_false]
        simp only [settle, hcommit, hmode]
        rw [h.discardTemp_placed hx hne text]
        exact .cutOff _ rfl hsM ht ⟨e, herror⟩ hnode

end IsTemp

/-! ## Whole writes -/

/-- How a write of some chunks ends, in any file system and at any path. The directories above the target are
    made and stay. Then it ends in one of three ways, and no temporary file is left in any of them. A failure to
    make the directories is the failure of the write; so is a failure of the body, if it gets to that; and a
    directory is never replaced. -/
theorem writeAtomically_ended (hA : A.WellFormed) (p : Path) (mode : Nat) (chunks : List String)
    (raised : Option Failure) :
    let M := (A.makeDirs p.parent).1
    let write := writeAtomically A p mode () fun _ _ => ⟨(), String.join chunks, raised⟩
    Made p.parent A M ∧ Ended p mode (String.join chunks) raised M write.1 write.2.2 ∧
      (∀ e, (A.makeDirs p.parent).2 = some e →
        write.2.2 = some (.ofSystem "create directory" p.parent e)) ∧
      (∀ failure, raised = some failure → write.2.2 ≠ none ∧
        ((stage A p).2.isOk → write.2.2 = some failure)) ∧
      ∀ s, A.locate false p = .ok s → A.node? s.location = some .directory → write.2.2 ≠ none := by
  intro M write
  have hgrown := makeDirs_grown hA p.parent
  have hended : Ended p mode (String.join chunks) raised M write.1 write.2.2 ∧
      (∀ e, (A.makeDirs p.parent).2 = some e → write.2.2 = some (.ofSystem "create directory" p.parent e)) ∧
      ∀ failure, raised = some failure → write.2.2 ≠ none ∧ ((stage A p).2.isOk → write.2.2 = some failure) := by
    obtain ⟨failure, hstage, hfailure⟩ | ⟨S, temp, D, name, hstage, hmade, htemp⟩ := stage_anywhere A p
    · have hwrite : write = (M, (), some failure) := by
        simp only [write, writeAtomically, hstage]
        rfl
      rw [hwrite, hstage]
      exact ⟨.untouched failure fun _ => rfl, fun e he => by rw [hfailure e he], fun _ _ =>
        ⟨Option.some_ne_none failure, fun h => by cases h⟩⟩
    · obtain ⟨hended, hraised⟩ := htemp.settle_ended hgrown.wellFormed mode (String.join chunks) raised
      have hwrite : write = ((settle S temp p mode (String.join chunks) raised).1, (),
          (settle S temp p mode (String.join chunks) raised).2) := by
        simp only [write, writeAtomically, hstage]
      rw [hwrite]
      refine ⟨hended, fun e he => by simp [hmade] at he, fun failure h => ⟨?_, fun _ => hraised failure h⟩⟩
      rw [hraised failure h]
      exact Option.some_ne_none failure
  refine ⟨hgrown.toMade, hended.1, hended.2.1, hended.2.2, fun s hs hdir hnone => ?_⟩
  -- What is a directory before is one when its place would be taken.
  have hend := hended.1
  rw [hnone] at hend
  cases hend with
  | written _ target plain _ _ _ =>
    rw [locate_widens hgrown.widens (by simp) hs] at target
    cases target
    exact plain (hgrown.widens.directory _ hdir)

/-- A directory with a link to itself in it. -/
def looped : FileSystem :=
  (FileSystem.empty ["w"]).put ["w", "l"] (.link ".")

theorem looped_wellFormed : looped.WellFormed :=
  wellFormed_of_nodes (by decide +kernel) (by decide +kernel) (by decide +kernel)

/-- A path to that link that leads through it. -/
def roundabout : Path :=
  ⟨.relative, ["l", "l"]⟩

/-- A write by that path. -/
def loopedWrite : FileSystem × Unit × Option Failure :=
  writeAtomically looped roundabout defaultMode () fun _ _ => ⟨(), String.join ["x"], none⟩

/-- Whether a link is there. -/
def linksAt (fs : FileSystem) (x : Location) : Bool :=
  match fs.node? x with
  | some (.link _) => true
  | _ => false

/-- The write fails, but the link has been replaced by a file, to which the path does not lead. -/
theorem writeAtomically_ended_looped :
    loopedWrite.2.2 ≠ none ∧ linksAt looped ["w", "l"] = true ∧
      (∃ stamp, loopedWrite.1.node? ["w", "l"] = some (.file "x".toUTF8 0o600 stamp)) ∧
      ∃ e, loopedWrite.1.locate true roundabout = .error e := by
  have hended := writeAtomically_ended looped_wellFormed roundabout defaultMode ["x"] none
  obtain ⟨failure, hfailure⟩ : ∃ failure, loopedWrite.2.2 = some failure :=
    Option.isSome_iff_exists.1 (by decide +kernel)
  have hafter : linksAt loopedWrite.1 ["w", "l"] = false := by decide +kernel
  have hbefore : linksAt (looped.makeDirs roundabout.parent).1 ["w", "l"] = true := by decide +kernel
  have hplace : ((looped.makeDirs roundabout.parent).1.locate false roundabout).toOption
      = some ⟨["w"], some "l"⟩ := by decide +kernel
  unfold loopedWrite at *
  generalize writeAtomically looped roundabout defaultMode () (fun _ _ => ⟨(), String.join ["x"], none⟩) = write
    at *
  obtain ⟨-, hended, -⟩ := hended
  refine ⟨by simp [hfailure], by decide, ?_⟩
  rw [hfailure] at hended
  cases hended with
  | untouched _ node =>
    rw [linksAt, node] at hafter
    rw [linksAt, hafter] at hbefore
    cases hbefore
  | cutOff _ _ target _ lost node =>
    rw [target] at hplace
    obtain rfl := Option.some.inj hplace
    exact ⟨⟨_, (node _).trans (if_pos rfl)⟩, lost⟩

end TemplateTree.Output
