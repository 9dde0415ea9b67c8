import Mathlib.Data.String.Basic
import TemplateTree.Output
import TemplateTree.Proofs.FileSystem.Directories

/-!
# Atomic writes

A write either puts its whole text into the target, or leaves nothing behind but the directories it made
on the way. The temporary file lies beside the target and is gone in the end, however the write ends.

* `stage_cases`: what is there when a body starts to write.
* `Settled`, `settle_settled`: what is there in the end.
-/

namespace TemplateTree.Output

open FileSystem

variable {A B M : FileSystem} {p : Path} {D x : Location} {name text : String}

/-! ## Temporary names -/

theorem utf8Len_of_ascii {cs : List Char} (h : ∀ c ∈ cs, c.utf8Size = 1) :
    String.utf8Len cs = cs.length := by
  induction cs with
  | nil => rfl
  | cons c cs ih =>
    rw [String.utf8Len_cons, ih fun d hd => h d (by simp [hd]), h c (by simp), List.length_cons]

/-- The characters of a unique part: eight stars or digits. -/
theorem toList_uniquePart {k : Nat} (hk : k < nameTries) :
    (uniquePart k).toList.length = 8 ∧ ∀ c ∈ (uniquePart k).toList, c = '*' ∨ c.isDigit = true := by
  unfold uniquePart
  split_ifs
  · exact ⟨by decide, fun c hc => .inl <|
      List.eq_of_mem_replicate (show c ∈ List.replicate 8 '*' from hc)⟩
  · have hlen : (Nat.toDigits 10 k).length ≤ 8 :=
      (Nat.length_toDigits_le_iff (by decide) (by decide)).2 (hk.trans (by decide))
    simp only [Decimal.padded, Nat.toString_eq_repr, String.toList_append, String.toList_ofList,
      Nat.toList_repr, List.length_append, List.length_replicate, ← String.length_toList]
    refine ⟨by omega, fun c hc => .inr ?_⟩
    rcases List.mem_append.1 hc with hc | hc
    · rw [(List.mem_replicate.1 hc).2]
      decide
    · exact Nat.isDigit_of_mem_toDigits (by decide) (by decide) hc

theorem utf8Size_of_isDigit {c : Char} (h : c = '*' ∨ c.isDigit = true) : c.utf8Size = 1 := by
  obtain rfl | h := h
  · rfl
  · have hle := (Char.isDigit_iff_toNat.1 h).2
    rw [Char.utf8Size_eq_one_iff, UInt32.le_iff_toNat_le]
    exact hle.trans (by decide)

theorem utf8ByteSize_uniquePart {k : Nat} (hk : k < nameTries) : (uniquePart k).utf8ByteSize = 8 := by
  obtain ⟨hlen, hchars⟩ := toList_uniquePart hk
  rw [← String.utf8Len_toList, utf8Len_of_ascii fun c hc => utf8Size_of_isDigit (hchars c hc), hlen]

/-- A temporary name is as long as the one in messages, and as possible. -/
theorem isEntryName_temp {k : Nat} (hk : k < nameTries)
    (hsize : (tempStem p ++ mask).utf8ByteSize ≤ nameLimit)
    (hnul : Char.ofNat 0 ∉ (tempStem p ++ mask).toList) : IsEntryName (tempStem p ++ uniquePart k) := by
  obtain ⟨hlen, hchars⟩ := toList_uniquePart hk
  refine ⟨fun h => ?_, ?_, ?_⟩
  · have := congrArg (fun s => s.toList.length) h
    simp only [String.toList_append, List.length_append, hlen] at this
    have hdots : "..".toList.length = 2 := by decide
    omega
  · rw [String.utf8ByteSize_append, utf8ByteSize_uniquePart hk]
    rwa [String.utf8ByteSize_append, show mask.utf8ByteSize = 8 by decide] at hsize
  · rw [String.toList_append, List.mem_append, not_or] at hnul ⊢
    refine ⟨hnul.1, fun h => ?_⟩
    obtain h | h := hchars _ h <;> revert h <;> decide

theorem temp_ne_name {k : Nat} (hk : k < nameTries) : tempStem p ++ uniquePart k ≠ p.name := by
  intro h
  have := congrArg (fun s => s.toList.length) h
  simp only [tempStem, String.toList_append, List.length_append, (toList_uniquePart hk).1] at this
  omega

/-! ## Temporary files -/

theorem lexical_of_not_mem (hdots : ".." ∉ p.parts) : lexical p = p := by
  have hfold : ∀ (parts acc : List String), ".." ∉ parts →
      parts.foldl (fun acc part => if part == ".." then acc.dropLast else acc ++ [part]) acc
        = acc ++ parts := by
    intro parts
    induction parts with
    | nil => simp
    | cons part parts ih =>
      intro acc h
      simp only [List.mem_cons, not_or] at h
      rw [List.foldl_cons, if_neg (by simpa using Ne.symm h.1), ih _ h.2]
      simp
  rw [lexical, hfold _ _ hdots]
  simp

/-- A file system with a new, empty file that only its owner may read. -/
def withTemp (M : FileSystem) (D : Location) (name : String) : FileSystem :=
  M.tick.put (D ++ [name]) (.file ByteArray.empty 0o600 (M.clock + 1))

/-- Where a temporary file can be made: the directory is there, and the name is free. -/
structure IsFree (M : FileSystem) (p : Path) (D : Location) (name : String) : Prop where
  leadsTo : M.LeadsTo p.parent D
  noNul : hasNul (p.parent.child name) = false
  isEntryName : IsEntryName name
  ne : name ≠ p.name
  free : M.node? (D ++ [name]) = none

theorem makeTemp_cases (hp : p.isAbsolute = true) (hdots : ".." ∉ p.parts)
    (hD : M.LeadsTo p.parent D) :
    (∃ e, makeTemp M p.parent (tempStem p) = .error e) ∨
      ∃ name, IsFree M p D name ∧
        makeTemp M p.parent (tempStem p) = .ok (withTemp M D name, p.parent.child name) := by
  have hshown : tempStem p ++ mask ≠ ".." := by
    intro h
    have := congrArg (fun s => s.toList.length) h
    simp only [String.toList_append, List.length_append] at this
    have hmask : mask.toList.length = 8 := by decide
    have hdots : "..".toList.length = 2 := by decide
    omega
  have hlex := lexical_of_not_mem (Path.not_mem_parent hdots)
  have habs : M.absolute p.parent = .ok p.parent := if_pos hp
  simp only [makeTemp, habs, bind, Except.bind, hlex]
  cases hfind : M.find false (p.parent.child (tempStem p ++ mask)) with
  | error e => exact .inl ⟨e, rfl⟩
  | ok s =>
    obtain ⟨hnul, hs⟩ := find_eq_ok.1 hfind
    obtain ⟨hsize, rfl⟩ := (hD.child (p := p.parent) hp hshown).1 hs
    dsimp only
    cases hk : (List.range nameTries).find? fun k =>
        (M.node? (D ++ [tempStem p ++ uniquePart k])).isNone with
    | none => exact .inl ⟨_, rfl⟩
    | some k =>
      have hlt : k < nameTries := List.mem_range.1 (List.mem_of_find?_eq_some hk)
      simp only [hasNul, List.any_eq_false, List.contains_iff_mem] at hnul
      have hname := isEntryName_temp hlt hsize (hnul _ (by simp [Path.child]))
      have hnul' : hasNul (p.parent.child (tempStem p ++ uniquePart k)) = false := by
        simp only [hasNul, List.any_eq_false, List.contains_iff_mem]
        intro part hpart
        obtain hpart | rfl : part ∈ p.parent.parts ∨ part = _ := by simpa [Path.child] using hpart
        · exact hnul part (by simp [Path.child, hpart])
        · exact hname.2.2
      refine .inr ⟨tempStem p ++ uniquePart k, ⟨hD, hnul', hname, temp_ne_name hlt, ?_⟩, rfl⟩
      simpa using List.find?_some hk

/-- When a body starts to write, the directories above the target are there, and a temporary file is
    in the one that will hold it. Or the write has failed already. -/
theorem stage_cases (hA : A.WellFormed) (hp : p.isAbsolute = true) (hdots : ".." ∉ p.parts) :
    ∃ M, Made p.parent A M ∧ M.WellFormed ∧
      ((∃ failure, stage A p = (M, .error failure)) ∨
        ∃ D name, IsFree M p D name ∧
          stage A p = (withTemp M D name, .ok (p.parent.child name))) := by
  obtain ⟨hmade, hM, -, -⟩ := makeDirs_grown hA p.parent
  cases hdirs : A.makeDirs p.parent with
  | mk M error =>
    rw [hdirs] at hmade hM
    refine ⟨M, hmade, hM, ?_⟩
    cases error with
    | some e => exact .inl ⟨_, by simp only [stage, ensureParent, hdirs, Option.map_some]; rfl⟩
    | none =>
      obtain ⟨D, hD⟩ := makeDirs_leadsTo (p := p.parent) hp (Path.not_mem_parent hdots) hA hdirs
      obtain ⟨e, htemp⟩ | ⟨name, hfree, htemp⟩ := makeTemp_cases hp hdots hD
      · exact .inl ⟨_, by simp only [stage, ensureParent, hdirs, Option.map_none, htemp]; rfl⟩
      · exact .inr ⟨D, name, hfree, by simp only [stage, ensureParent, hdirs, Option.map_none, htemp]⟩

theorem node?_withTemp (M : FileSystem) (D : Location) (name : String) (x : Location) :
    (withTemp M D name).node? x =
      if x = D ++ [name] then some (.file ByteArray.empty 0o600 (M.clock + 1)) else M.node? x := by
  rw [withTemp, node?_put _ (by simp), node?_tick]

theorem extends_withTemp (h : M.node? (D ++ [name]) = none) : Extends M (withTemp M D name) := by
  constructor <;> intro x
  · intro hx
    rw [node?_withTemp, if_neg (by rintro rfl; simp [h] at hx), hx]
  · intro t hx
    rw [node?_withTemp, if_neg (by rintro rfl; simp [h] at hx), hx]

namespace IsFree

variable (h : IsFree M p D name)

include h

theorem toExtends : Extends M (withTemp M D name) :=
  extends_withTemp h.free

theorem wellFormed (hM : M.WellFormed) : (withTemp M D name).WellFormed :=
  hM.tick.put h.leadsTo.1 h.isEntryName (by simp [h.free]) _

/-- Where the temporary file is removed, it is as if it had never been there. -/
theorem discardTemp (hM : M.WellFormed) (hp : p.isAbsolute = true) (hdots : ".." ∉ p.parts) :
    (discardTemp (withTemp M D name) (p.parent.child name)).WellFormed ∧
      (discardTemp (withTemp M D name) (p.parent.child name)).clock = M.clock + 1 ∧
      ∀ x, (Output.discardTemp (withTemp M D name) (p.parent.child name)).node? x = M.node? x := by
  have hdots' : ".." ∉ (p.parent.child name).parts := by
    simpa [Path.child, h.isEntryName.1.symm] using Path.not_mem_parent hdots
  have hnames : (withTemp M D name).Names (p.parent.child name) (D ++ [name]) :=
    names_child.2 ⟨h.isEntryName.2.1, D, h.leadsTo.mono (p := p.parent) hp h.toExtends, rfl⟩
  have hat := node?_withTemp M D name (D ++ [name])
  rw [if_pos rfl] at hat
  have hok := (unlink_eq_ok (p := p.parent.child name) (h.wellFormed hM) hp hdots').2
    ⟨h.noNul, _, _, hnames, hat, by simp, rfl⟩
  rw [Output.discardTemp, hok]
  refine ⟨(h.wellFormed hM).erase_leaf (by simp) (by simp [hat]), rfl, fun x => ?_⟩
  rw [node?_erase _ (by simp), node?_withTemp]
  split_ifs with hx
  · rw [hx, h.free]
  · rfl

/-- What is at the target and at the temporary file when that has replaced the target. -/
theorem commit_cases (hM : M.WellFormed) (hp : p.isAbsolute = true) (hdots : ".." ∉ p.parts)
    (text : String) :
    (∃ e, commit (withTemp M D name) (p.parent.child name) p text = .error e) ∨
      (hasNul p = false ∧ M.Names p (D ++ [p.name]) ∧
        M.node? (D ++ [p.name]) ≠ some .directory ∧
        ∃ R, commit (withTemp M D name) (p.parent.child name) p text = .ok R ∧
          R.WellFormed ∧ R.clock = M.clock + 2 ∧
          ∀ x, R.node? x = if x = D ++ [p.name] then some (.file text.toUTF8 0o600 (M.clock + 2))
            else M.node? x) := by
  have hD := h.leadsTo.mono (p := p.parent) hp h.toExtends
  have hB := h.wellFormed hM
  have hat := node?_withTemp M D name (D ++ [name])
  rw [if_pos rfl] at hat
  -- The temporary file gets its content.
  let W := (withTemp M D name).tick.put (D ++ [name]) (.file text.toUTF8 0o600 (M.clock + 2))
  have hwrite : (withTemp M D name).writeFile (p.parent.child name) text.toUTF8 none = .ok W := by
    have hfind := (hD.child_follow (p := p.parent) hp h.isEntryName.1 (fun t => by simp [hat])).2
      ⟨h.isEntryName.2.1, rfl⟩
    have := find_eq_ok.2 ⟨h.noNul, hfind⟩
    simp only [writeFile, this, bind, Except.bind, Spot.location, Option.toList_some, node?_tick, hat]
    rfl
  have hWnode : ∀ x, W.node? x =
      if x = D ++ [name] then some (.file text.toUTF8 0o600 (M.clock + 2)) else M.node? x := by
    intro x
    rw [node?_put _ (by simp), node?_tick, node?_withTemp]
    split_ifs <;> rfl
  have hW : W.WellFormed := hB.tick.put hD.1 h.isEntryName (by simp [hat]) _
  have hext : Extends M W := by
    constructor <;> intro x
    · intro hx
      rw [hWnode, if_neg (by rintro rfl; simp [h.free] at hx), hx]
    · intro t hx
      rw [hWnode, if_neg (by rintro rfl; simp [h.free] at hx), hx]
  have hDW := h.leadsTo.mono (p := p.parent) hp hext
  have hold := (hDW.child (p := p.parent) hp h.isEntryName.1).2 ⟨h.isEntryName.2.1, rfl⟩
  have hWat : W.node? (D ++ [name]) = some (.file text.toUTF8 0o600 (M.clock + 2)) := by
    rw [hWnode, if_pos rfl]
  -- It takes the place of the target.
  have hcommit : commit (withTemp M D name) (p.parent.child name) p text
      = W.replace (p.parent.child name) p := by
    rw [commit, hwrite]
    rfl
  rw [hcommit]
  cases hnul : hasNul p with
  | true => exact .inl ⟨_, by simp [replace, hnul]; rfl⟩
  | false =>
    cases hnew : W.locate false p with
    | error e => exact .inl ⟨_, by simp [replace, h.noNul, hnul, hold, hnew]; rfl⟩
    | ok s =>
      have hreplace := replace_of_locate h.noNul hnul hold hnew hWat
      obtain ⟨-, rfl⟩ | ⟨hnames, hs, hsname⟩ := (locate_false_eq_ok hW hp hdots).1 hnew
      · exact .inl ⟨_, by simpa using hreplace⟩
      · obtain ⟨d, n⟩ := s
        obtain rfl : d = D := hs.unique hDW
        obtain rfl : n = some p.name := hsname
        rw [if_neg (by simp)] at hreplace
        change W.replace _ _ = if W.isDirectoryAt (d ++ [p.name]) = true then _ else _ at hreplace
        by_cases hdir : W.node? (d ++ [p.name]) = some .directory
        · rw [if_pos (isDirectoryAt_eq_true.2 hdir)] at hreplace
          exact .inl ⟨_, hreplace⟩
        · rw [if_neg (by simpa [isDirectoryAt_eq_true] using hdir)] at hreplace
          have hname : IsEntryName p.name := hnames.isEntryName hdots hnul
          have htarget : d ++ [p.name] ≠ d ++ [name] := by simpa using h.ne.symm
          have hM' : M.node? (d ++ [p.name]) ≠ some .directory := by
            rwa [hWnode, if_neg htarget] at hdir
          have hE : (W.erase (d ++ [name])).WellFormed := hW.erase_leaf (by simp) (by simp [hWat])
          have hEnode : ∀ x, (W.erase (d ++ [name])).node? x = M.node? x := by
            intro x
            rw [node?_erase _ (by simp), hWnode]
            split_ifs with hx
            · rw [hx, h.free]
            · rfl
          have hEdir : (W.erase (d ++ [name])).node? d = some .directory := by
            rw [hEnode, h.leadsTo.1]
          refine .inr ⟨rfl, ⟨hnames.1, hname.2.1, d, h.leadsTo, rfl⟩, hM', _, hreplace,
            hE.put hEdir hname (by rwa [hEnode]) _, rfl, fun x => ?_⟩
          simp only [Spot.location, Option.toList_some]
          rw [node?_put _ (by simp), hEnode]

end IsFree

/-! ## Whole writes -/

/-- Setting the mode of a file that a path names. -/
theorem setMode_of_names (hp : p.isAbsolute = true) (hdots : ".." ∉ p.parts)
    (hnul : hasNul p = false) (hx : A.Names p x) {content : ByteArray} {old stamp : Nat}
    (hnode : A.node? x = some (.file content old stamp)) (mode : Nat) :
    A.setMode p mode = .ok (A.put x (.file content mode stamp)) := by
  obtain ⟨hparts, hsize, d, hd, rfl⟩ := hx
  have hname : p.name ≠ ".." := fun h => hdots (h ▸ Path.name_mem hparts)
  have hloc := (hd.child_follow (p := p.parent) hp hname (fun t => by simp [hnode])).2 ⟨hsize, rfl⟩
  rw [Path.parent_child hparts] at hloc
  simp only [setMode, find_eq_ok.2 ⟨hnul, hloc⟩, bind, Except.bind, Spot.location,
    Option.toList_some, hnode]
  rfl

/-- How a write ends that had a temporary file: the target has the whole text, or nothing has changed.
    There is no temporary file in either case. -/
structure Settled (M : FileSystem) (p : Path) (D : Location) (mode : Nat) (text : String)
    (B : FileSystem) (outcome : Option Failure) : Prop where
  wellFormed : B.WellFormed
  clock : B.clock = M.clock + if outcome.isSome then 1 else 2
  node : (outcome.isSome ∧ ∀ x, B.node? x = M.node? x) ∨
    (outcome = none ∧ M.Names p (D ++ [p.name]) ∧ M.node? (D ++ [p.name]) ≠ some .directory ∧
      ∀ x, B.node? x = if x = D ++ [p.name] then some (.file text.toUTF8 mode B.clock) else M.node? x)

theorem Settled.clock_lt {mode : Nat} {outcome : Option Failure} (h : Settled M p D mode text B outcome) :
    M.clock < B.clock := by
  rw [h.clock]
  split_ifs <;> omega

theorem IsFree.undone (h : IsFree M p D name) (hM : M.WellFormed) (hp : p.isAbsolute = true)
    (hdots : ".." ∉ p.parts) (mode : Nat) (text : String) (f : Failure) :
    Settled M p D mode text (Output.discardTemp (withTemp M D name) (p.parent.child name))
      (some f) := by
  obtain ⟨hwf, hclock, hnode⟩ := h.discardTemp hM hp hdots
  exact ⟨hwf, hclock, .inl ⟨rfl, hnode⟩⟩

theorem settle_settled (hM : M.WellFormed) (hp : p.isAbsolute = true) (hdots : ".." ∉ p.parts)
    (h : IsFree M p D name) (hlink : ∀ t, M.node? (D ++ [p.name]) ≠ some (.link t))
    (mode : Nat) (text : String) (failure : Option Failure) :
    Settled M p D mode text
      (settle (withTemp M D name) (p.parent.child name) p mode text failure).1
      (settle (withTemp M D name) (p.parent.child name) p mode text failure).2 := by
  cases failure with
  | some f => exact h.undone hM hp hdots mode text f
  | none =>
    obtain ⟨e, hcommit⟩ | ⟨hnul, hnames, hdir, R, hcommit, hR, hRclock, hRnode⟩ :=
      h.commit_cases hM hp hdots text
    · simp only [settle, hcommit]
      exact h.undone hM hp hdots mode text _
    · have hext : Extends M R := by
        constructor <;> intro x
        · intro hx
          rw [hRnode, if_neg (by rintro rfl; exact hdir hx), hx]
        · intro t hx
          rw [hRnode, if_neg (by rintro rfl; exact hlink t hx), hx]
      have hRat := hRnode (D ++ [p.name])
      rw [if_pos rfl] at hRat
      have hmode := setMode_of_names hp hdots hnul (hnames.mono hp hext) hRat mode
      simp only [settle, hcommit, hmode]
      have hwf := hR.put (hext.directory _ h.leadsTo.1) (hnames.isEntryName hdots hnul)
        (by simp [hRat]) (.file text.toUTF8 mode (M.clock + 2))
      refine ⟨hwf, hRclock, .inr ⟨rfl, hnames, hdir, fun x => ?_⟩⟩
      rw [node?_put _ (by simp), hRnode]
      split_ifs with hx
      · change _ = some (Node.file text.toUTF8 mode R.clock)
        rw [hRclock]
      · rfl

/-- A body that fails makes the write fail. -/
theorem settle_failure {fs : FileSystem} {temp : Path} {mode : Nat} {failure : Option Failure}
    (h : (settle fs temp p mode text failure).2 = none) : failure = none := by
  cases failure with
  | none => rfl
  | some f => cases h

end TemplateTree.Output
