import TemplateTree.Output
import TemplateTree.Proofs.FileSystem.Directories

/-!
# Rebuilding an output directory

Clearing a directory removes entries below it and nothing else, whatever links there are. Rebuilding it
changes, apart from what is under the path, only that directories above it may be new; and after success
the path leads to an empty directory.

* `Emptied`: some file system without part of what lies below a location.
* `clear_emptied`: clearing a directory, also if it fails half-way.
* `rebuild_aside`, `rebuild_bare`: rebuilding.
* `rebuild_ends`: what single changes keep, a rebuild keeps, and only the system makes it fail.
-/

namespace TemplateTree.Output

open FileSystem

variable {A B C M : FileSystem} {root : Path} {L x : Location} {names : List String}

/-! ## Fewer entries -/

/-- `B` is `A` without part of what lies below a location. -/
structure Emptied (L : Location) (A B : FileSystem) : Prop where
  wellFormed : B.WellFormed
  node : ∀ x, B.node? x = A.node? x ∨ (B.node? x = none ∧ ∃ rest, rest ≠ [] ∧ x = L ++ rest)
  clock : B.clock = A.clock

namespace Emptied

theorem refl (hA : A.WellFormed) (L : Location) : Emptied L A A :=
  ⟨hA, fun _ => .inl rfl, rfl⟩

theorem toExtends (h : Emptied L A B) : Extends B A := by
  constructor
  · intro x hx
    obtain heq | ⟨hnone, -⟩ := h.node x
    · rw [← heq, hx]
    · rw [hnone] at hx
      cases hx
  · intro x t hx
    obtain heq | ⟨hnone, -⟩ := h.node x
    · rw [← heq, hx]
    · rw [hnone] at hx
      cases hx

/-- One entry less. -/
theorem step (h : Emptied L A B) (hC : C.WellFormed) (rest : List String) (hrest : rest ≠ [])
    (hnode : ∀ x, C.node? x = if x = L ++ rest then none else B.node? x)
    (hclock : C.clock = B.clock) : Emptied L A C := by
  refine ⟨hC, fun x => ?_, hclock.trans h.clock⟩
  rw [hnode]
  split_ifs with hx
  · exact .inr ⟨rfl, rest, hrest, hx⟩
  · exact h.node x

end Emptied

@[simp] theorem clock_dropDirectory (fs : FileSystem) (x : Location) :
    (fs.dropDirectory x).clock = fs.clock := by
  simp only [dropDirectory]
  split <;> rfl

@[simp] theorem workDir_dropDirectory (fs : FileSystem) (x : Location) :
    (fs.dropDirectory x).workDir = fs.workDir := by
  simp only [dropDirectory]
  split <;> rfl

/-! ## Removing single entries -/

theorem removeFile_eq_ok {p : Path} : removeFile A p = .ok B ↔ A.unlink p = .ok B := by
  unfold removeFile
  cases A.unlink p <;> simp [Except.mapError]

theorem removeDirectory_eq_ok {p : Path} : removeDirectory A p = .ok B ↔ A.removeDir p = .ok B := by
  unfold removeDirectory
  cases A.removeDir p <;> simp [Except.mapError]

theorem orKeep_of {P : FileSystem → Prop} {result : Except Failure FileSystem} (hB : P B)
    (hok : ∀ C, result = .ok C → P C) : P (orKeep B result).1 := by
  cases result with
  | ok C => exact hok C rfl
  | error => exact hB

section Below

variable (hp : root.isAbsolute = true) (hdots : ".." ∉ root.parts)

include hp

/-- Where an entry of a directory in the old file system is, it is in the new one. -/
theorem names_below (h : Emptied L A B) (hdir : A.LeadsTo (root.descend names) (L ++ names))
    {name : String} (hx : B.Names ((root.descend names).child name) x) :
    x = L ++ (names ++ [name]) := by
  obtain ⟨-, d, hd, rfl⟩ := names_child.1 (hx.mono (p := (root.descend names).child name) hp h.toExtends)
  rw [hd.unique hdir, List.append_assoc]

include hdots

theorem emptied_removeFile (h : Emptied L A B) (hnames : ".." ∉ names)
    (hdir : A.LeadsTo (root.descend names) (L ++ names)) {name : String} (hname : name ≠ "..")
    (hC : removeFile B ((root.descend names).child name) = .ok C) : Emptied L A C := by
  have hchild : ".." ∉ ((root.descend names).child name).parts := by
    simp [Path.child, Path.descend, hdots, hnames, hname.symm]
  obtain ⟨-, x, node, hx, hnode, hne, rfl⟩ :=
    (unlink_eq_ok (p := (root.descend names).child name) h.wellFormed hp hchild).1 (removeFile_eq_ok.1 hC)
  have hleaf : B.node? x ≠ some .directory := by rw [hnode]; simpa using hne
  refine h.step (h.wellFormed.erase_leaf hx.ne_nil hleaf) (names ++ [name]) (by simp) ?_ rfl
  intro y
  rw [node?_erase B hx.ne_nil, names_below hp h hdir hx]

theorem emptied_removeDirectory (h : Emptied L A B) (hnames : ".." ∉ names)
    (hdir : A.LeadsTo (root.descend names) (L ++ names)) {name : String} (hname : name ≠ "..")
    (hC : removeDirectory B ((root.descend names).child name) = .ok C) : Emptied L A C := by
  have hchild : ".." ∉ ((root.descend names).child name).parts := by
    simp [Path.child, Path.descend, hdots, hnames, hname.symm]
  obtain ⟨-, x, hx, -, hbare, rfl⟩ :=
    (removeDir_eq_ok (p := (root.descend names).child name) h.wellFormed hp hchild).1 (removeDirectory_eq_ok.1 hC)
  refine h.step (h.wellFormed.dropDirectory hx.ne_nil hbare) (names ++ [name]) (by simp) ?_
    (clock_dropDirectory B x)
  intro y
  rw [node?_dropDirectory, node?_erase B hx.ne_nil, names_below hp h hdir hx]

end Below

/-! ## Clearing a directory -/

theorem eachOf_keeps {α : Type} {P : FileSystem → Prop}
    (step : FileSystem → α → FileSystem × Option Failure) :
    ∀ (xs : List α) (fs : FileSystem), (∀ x ∈ xs, ∀ fs, P fs → P (step fs x).1) → P fs →
      P (eachOf step xs fs).1 := by
  intro xs
  induction xs with
  | nil => intro fs _ h; exact h
  | cons x xs ih =>
    intro fs hstep h
    have hx := hstep x (by simp) fs h
    rw [eachOf]
    split <;> rename_i heq <;> rw [heq] at hx
    · exact hx
    · exact ih _ (fun y hy => hstep y (by simp [hy])) hx

/-- A directory that can be read is there, and its names are those of its entries. -/
theorem scan_eq_ok {p : Path} {listing : Listing} (h : A.scan p = .ok listing) :
    ∃ x, A.LeadsTo p x ∧ listing.directories = (A.children x).filter (A.leadsToDirectory p) ∧
      listing.others = (A.children x).filter (!A.leadsToDirectory p ·) := by
  unfold scan at h
  split_ifs at h
  · cases h
  obtain ⟨s, hs, h⟩ := bind_eq_ok.1 h
  have hs : A.locate true p = .ok s := by
    cases hloc : A.locate true p with
    | ok t => rw [hloc] at hs; simpa [Except.mapError] using hs
    | error e => rw [hloc] at hs; cases hs
  cases hnode : A.node? s.location with
  | none => rw [hnode] at h; cases h
  | some node =>
    rw [hnode] at h
    cases node with
    | file | link => cases h
    | directory =>
      cases h
      exact ⟨s.location, ⟨hnode, s, hs, rfl⟩, rfl, rfl⟩

theorem isEntryName_of_mem_children (hA : A.WellFormed) {name : String}
    (hname : name ∈ A.children x) : IsEntryName name := by
  obtain ⟨node, hnode⟩ := Option.isSome_iff_exists.1 (mem_children.1 hname)
  exact hA.named _ _ _ hnode

/-- An entry that leads to a directory, and is no link, is a directory. -/
theorem leadsTo_of_leadsToDirectory (hA : A.WellFormed) {p : Path} (hp : p.isAbsolute = true)
    {name : String} (hname : name ≠ "..") (hx : A.LeadsTo p x)
    (hdir : A.leadsToDirectory p name = true) (hlink : A.isLinkEntry (p.child name) = false) :
    A.LeadsTo (p.child name) (x ++ [name]) := by
  have hok : A.isDir (p.child name) = .ok true := by
    unfold leadsToDirectory at hdir
    split at hdir
    · rename_i b hb
      rw [hb, hdir]
    · cases hdir
  obtain ⟨hnul, y, hy⟩ := (isDir_eq_true (p := p.child name) hp).1 hok
  obtain ⟨d, hd, hloc, ⟨-, rfl⟩ | ⟨t, ht⟩⟩ := locate_false_of_leadsTo hA hp hname hy
  · rwa [hd.unique hx] at hy
  · have hlook : A.look false (p.child name) = .ok (.link t) :=
      (look_eq_ok (p := p.child name) hp).2 ⟨hnul, _, hloc, ht⟩
    simp [isLinkEntry, isLink, asks, hlook] at hlink

/-- Clearing a directory removes nothing but entries below it, however far it gets. -/
theorem clear_emptied (hp : root.isAbsolute = true) (hdots : ".." ∉ root.parts) (depth : Nat)
    (names : List String) (h : Emptied L A B) (hnames : ".." ∉ names)
    (hdir : A.LeadsTo (root.descend names) (L ++ names)) :
    Emptied L A (clear depth (root.descend names) B).1 := by
  induction depth generalizing names B with
  | zero => exact h
  | succ depth ih =>
    rw [clear]
    split
    · exact h
    · rename_i listing hscan
      have habs : (root.descend names).isAbsolute = true := hp
      obtain ⟨x, hx, hdirs, hothers⟩ := scan_eq_ok hscan
      have hxL : x = L ++ names := (hx.mono habs h.toExtends).unique hdir
      have entry : ∀ name ∈ B.children x, name ≠ ".." := fun name hname =>
        (isEntryName_of_mem_children h.wellFormed hname).1
      have hinner := eachOf_keeps (P := Emptied L A)
        (fun fs name => clear depth ((root.descend names).child name) fs)
        (listing.directories.filter fun name => !B.isLinkEntry ((root.descend names).child name)) B
        (by
          intro name hname fs hfs
          simp only [hdirs, List.mem_filter, Bool.not_eq_true'] at hname
          obtain ⟨⟨hmem, hisdir⟩, hnolink⟩ := hname
          have hne := entry name hmem
          have hsub := (leadsTo_of_leadsToDirectory h.wellFormed habs hne hx hisdir hnolink).mono
            (p := (root.descend names).child name) habs h.toExtends
          rw [← Path.descend_concat] at hsub ⊢
          rw [hxL, List.append_assoc] at hsub
          exact ih _ hfs (by simp [hnames, hne.symm]) hsub)
        h
      dsimp only
      split <;> rename_i heq <;> rw [heq] at hinner
      · exact hinner
      · have hfiles := eachOf_keeps (P := Emptied L A)
          (fun fs name => orKeep fs (removeFile fs ((root.descend names).child name)))
          listing.others _
          (fun name hname fs hfs => orKeep_of hfs fun C hC =>
            emptied_removeFile hp hdots hfs hnames hdir
              (entry name (List.mem_filter.1 (hothers ▸ hname)).1) hC)
          hinner
        split <;> rename_i heq' <;> rw [heq'] at hfiles
        · exact hfiles
        · refine eachOf_keeps _ _ _ (fun name hname fs hfs => ?_) hfiles
          have hne := entry name (List.mem_filter.1 (hdirs ▸ hname)).1
          split
          · exact hfs
          · exact orKeep_of hfs fun C hC => emptied_removeFile hp hdots hfs hnames hdir hne hC
          · exact orKeep_of hfs fun C hC => emptied_removeDirectory hp hdots hfs hnames hdir hne hC

/-! ## Rebuilding -/

/-- A location is that of the entry at a path or, if that is a directory, of an entry in it. -/
def Within (fs : FileSystem) (p : Path) (x : Location) : Prop :=
  ∃ s, fs.locate false p = .ok s ∧
    (x = s.location ∨ (fs.node? s.location = some .directory ∧ s.location <+: x))

/-- `M` is `A` apart from what is within a path. -/
structure Cleared (p : Path) (A M : FileSystem) : Prop where
  wellFormed : M.WellFormed
  clock : M.clock = A.clock
  node : ∀ x, ¬Within A p x → M.node? x = A.node? x

theorem Cleared.refl (hA : A.WellFormed) (p : Path) : Cleared p A A :=
  ⟨hA, rfl, fun _ _ => rfl⟩

theorem within_of_names (hA : A.WellFormed) (hp : root.isAbsolute = true)
    (hdots : ".." ∉ root.parts) (hx : A.Names root x) : Within A root x := by
  obtain ⟨s, rfl, hname, hd⟩ := hx.spot
  exact ⟨s, (locate_false_eq_ok hA hp hdots).2 (.inr ⟨hx, hd, hname⟩), .inl rfl⟩

/-- A directory that a path leads to and that is not reached through a link at its end lies at the path
    itself. -/
theorem locate_of_isLink (hA : A.WellFormed) (hp : root.isAbsolute = true)
    (hdots : ".." ∉ root.parts) (hlink : A.isLink root = .ok false) (hx : A.LeadsTo root x)
    (hnul : hasNul root = false) :
    ∃ s, A.locate false root = .ok s ∧ s.location = x := by
  by_cases hparts : root.parts = []
  · refine ⟨_, (locate_false_eq_ok hA hp hdots).2 (.inl ⟨hparts, rfl⟩), ?_⟩
    exact (leadsTo_nil hp hparts).unique hx
  · have hname : root.name ≠ ".." := fun h => hdots (h ▸ Path.name_mem hparts)
    rw [← Path.parent_child hparts] at hx hlink hnul ⊢
    obtain ⟨d, hd, hloc, ⟨-, rfl⟩ | ⟨t, ht⟩⟩ :=
      locate_false_of_leadsTo hA (p := root.parent) hp hname hx
    · exact ⟨_, hloc, rfl⟩
    · have hlook := (look_eq_ok (p := root.parent.child root.name) hp).2 ⟨hnul, _, hloc, ht⟩
      simp [isLink, asks, hlook] at hlink

theorem obstacle_eq_ok {o : Obstacle} (h : obstacle A root = .ok o) :
    (o = .nothing → A.isDir root ≠ .ok true) ∧
      (o = .tree → A.isLink root = .ok false ∧ A.isDir root = .ok true) := by
  unfold obstacle at h
  obtain ⟨isLink, hlink, h⟩ := bind_eq_ok.1 h
  cases isLink with
  | true => cases h; simp
  | false =>
    obtain ⟨isFile, -, h⟩ := bind_eq_ok.1 h
    cases isFile with
    | true => cases h; simp
    | false =>
      obtain ⟨isDir, hdir, h⟩ := bind_eq_ok.1 h
      cases isDir with
      | true => cases h; simp [hlink, hdir]
      | false => cases h; simp [hdir]

/-- What is removed of a directory is within the path to it. -/
theorem Emptied.cleared {s : Spot} (hs : A.locate false root = .ok s)
    (hA : A.LeadsTo root s.location) (h : Emptied s.location A B) : Cleared root A B := by
  refine ⟨h.wellFormed, h.clock, fun x hx => ?_⟩
  obtain heq | ⟨-, rest, -, rfl⟩ := h.node x
  · exact heq
  · exact absurd ⟨s, hs, .inr ⟨hA.1, by simp⟩⟩ hx

/-- Where an entry has been removed, its path leads to no directory. -/
theorem isDir_of_removed (hp : root.isAbsolute = true) (hdots : ".." ∉ root.parts)
    (hM : M.WellFormed) (hext : Extends M A) (hx : A.Names root x) (hnone : M.node? x = none) :
    M.isDir root ≠ .ok true := by
  intro h
  obtain ⟨-, y, hy⟩ := (isDir_eq_true hp).1 h
  have hname : root.name ≠ ".." := fun h => hdots (h ▸ Path.name_mem hx.1)
  rw [← Path.parent_child hx.1] at hy
  obtain ⟨d, hd, -, hnode⟩ := locate_false_of_leadsTo hM (p := root.parent) hp hname hy
  obtain ⟨-, -, d', hd', rfl⟩ := hx
  rw [(hd.mono (p := root.parent) hp hext).unique hd', hnone] at hnode
  obtain ⟨h, -⟩ | ⟨t, h⟩ := hnode <;> cases h

/-- A file or link at the path has been removed. -/
theorem removeFile_cleared (hp : root.isAbsolute = true) (hdots : ".." ∉ root.parts)
    (hA : A.WellFormed) (h : removeFile A root = .ok M) :
    Cleared root A M ∧ M.isDir root ≠ .ok true := by
  obtain ⟨-, x, node, hx, hnode, hne, rfl⟩ := (unlink_eq_ok hA hp hdots).1 (removeFile_eq_ok.1 h)
  have hleaf : A.node? x ≠ some .directory := by rw [hnode]; simpa using hne
  have hM := hA.erase_leaf hx.ne_nil hleaf
  have hat : (A.erase x).node? x = none := by rw [node?_erase A hx.ne_nil, if_pos rfl]
  have hsame : ∀ y, y ≠ x → (A.erase x).node? y = A.node? y := fun y hy => by
    rw [node?_erase A hx.ne_nil, if_neg hy]
  have hext : Extends (A.erase x) A := by
    constructor <;> intro y
    · intro hy
      rw [← hsame y (by rintro rfl; simp [hat] at hy), hy]
    · intro t hy
      rw [← hsame y (by rintro rfl; simp [hat] at hy), hy]
  refine ⟨⟨hM, rfl, fun y hy => hsame y ?_⟩, isDir_of_removed hp hdots hM hext hx hat⟩
  rintro rfl
  exact hy (within_of_names hA hp hdots hx)

/-- An emptied directory at the path has been removed. -/
theorem removeDirectory_cleared {s : Spot} (hp : root.isAbsolute = true)
    (hdots : ".." ∉ root.parts) (hA : A.WellFormed) (hs : A.locate false root = .ok s)
    (hL : A.LeadsTo root s.location) (h : Emptied s.location A B)
    (hM : removeDirectory B root = .ok M) : Cleared root A M ∧ M.isDir root ≠ .ok true := by
  obtain ⟨-, x, hx, -, hbare, rfl⟩ :=
    (removeDir_eq_ok h.wellFormed hp hdots).1 (removeDirectory_eq_ok.1 hM)
  have hxA := hx.mono hp h.toExtends
  have hMwf := h.wellFormed.dropDirectory hx.ne_nil hbare
  have hat : (B.dropDirectory x).node? x = none := by
    rw [node?_dropDirectory, node?_erase B hx.ne_nil, if_pos rfl]
  have hsame : ∀ y, y ≠ x → (B.dropDirectory x).node? y = B.node? y := fun y hy => by
    rw [node?_dropDirectory, node?_erase B hx.ne_nil, if_neg hy]
  have hext : Extends (B.dropDirectory x) B := by
    constructor <;> intro y
    · intro hy
      rw [← hsame y (by rintro rfl; simp [hat] at hy), hy]
    · intro t hy
      rw [← hsame y (by rintro rfl; simp [hat] at hy), hy]
  refine ⟨⟨hMwf, (clock_dropDirectory B x).trans h.clock, fun y hy => ?_⟩,
    isDir_of_removed hp hdots hMwf (hext.trans h.toExtends) hxA hat⟩
  rw [hsame y (by rintro rfl; exact hy (within_of_names hA hp hdots hxA))]
  exact (h.cleared hs hL).node y hy

/-- How a rebuild goes: what is within the path is removed, until a removal fails, or until no directory
    is left under the path and a new one is made. -/
theorem rebuild_cases (hp : root.isAbsolute = true) (hdots : ".." ∉ root.parts)
    (hA : A.WellFormed) : ∃ M records, Cleared root A M ∧
      ((∃ failure, rebuild A root = (M, records, some failure)) ∨
        (M.isDir root ≠ .ok true ∧
          rebuild A root = ((makeRoot M root).1, records, (makeRoot M root).2))) := by
  unfold rebuild
  cases hobstacle : obstacle A root with
  | error e => exact ⟨A, [], .refl hA root, .inl ⟨_, rfl⟩⟩
  | ok o =>
    cases o with
    | nothing =>
      exact ⟨A, [], .refl hA root, .inr ⟨(obstacle_eq_ok hobstacle).1 rfl, rfl⟩⟩
    | entry =>
      dsimp only
      cases hM : removeFile A root with
      | error failure => exact ⟨A, [], .refl hA root, .inl ⟨_, rfl⟩⟩
      | ok M =>
        obtain ⟨hcleared, hdir⟩ := removeFile_cleared hp hdots hA hM
        exact ⟨M, [], hcleared, .inr ⟨hdir, rfl⟩⟩
    | tree =>
      obtain ⟨hlink, hisdir⟩ := (obstacle_eq_ok hobstacle).2 rfl
      obtain ⟨hnul, L, hL⟩ := (isDir_eq_true hp).1 hisdir
      obtain ⟨s, hs, rfl⟩ := locate_of_isLink hA hp hdots hlink hL hnul
      have hclear := clear_emptied hp hdots (A.nodes.length + 1) []
        (Emptied.refl hA s.location) (by simp) (by simpa using hL)
      rw [Path.descend_nil] at hclear
      dsimp only
      generalize clear (A.nodes.length + 1) root A = cleared at hclear ⊢
      obtain ⟨B, failure⟩ := cleared
      cases failure with
      | some failure => exact ⟨B, _, hclear.cleared hs hL, .inl ⟨_, rfl⟩⟩
      | none =>
        dsimp only
        cases hM : removeDirectory B root with
        | error failure => exact ⟨B, _, hclear.cleared hs hL, .inl ⟨_, rfl⟩⟩
        | ok M =>
          obtain ⟨hcleared, hdir⟩ := removeDirectory_cleared hp hdots hA hs hL hclear hM
          exact ⟨M, _, hcleared, .inr ⟨hdir, rfl⟩⟩

/-- Rebuilding changes nothing but what is within the path, however far it gets, except that directories
    above it may be new. -/
theorem rebuild_aside (hp : root.isAbsolute = true) (hdots : ".." ∉ root.parts)
    (hA : A.WellFormed) :
    (rebuild A root).1.WellFormed ∧ (rebuild A root).1.clock = A.clock ∧
      ∀ x, ¬Within A root x → (rebuild A root).1.node? x = A.node? x ∨
        (A.node? x = none ∧ (rebuild A root).1.node? x = some .directory ∧
          ∃ k, (rebuild A root).1.Names (root.upTo k) x) := by
  obtain ⟨M, records, hM, ⟨failure, heq⟩ | ⟨-, heq⟩⟩ := rebuild_cases hp hdots hA
  · rw [heq]
    exact ⟨hM.wellFormed, hM.clock, fun x hx => .inl (hM.node x hx)⟩
  · rw [heq]
    obtain ⟨hmade, hwf, -, -⟩ := makeDirs_grown hM.wellFormed root
    refine ⟨hwf, hmade.clock.trans hM.clock, fun x hx => ?_⟩
    rw [← hM.node x hx]
    exact hmade.node x

/-- After success the path leads to an empty directory, which it names itself. -/
theorem rebuild_bare (hp : root.isAbsolute = true) (hdots : ".." ∉ root.parts)
    (hA : A.WellFormed) {records : List LogRecord} (h : rebuild A root = (B, records, none)) :
    ∃ x, B.LeadsTo root x ∧ B.Names root x ∧ ∀ rest, rest ≠ [] → B.node? (x ++ rest) = none := by
  obtain ⟨M, records', hM, ⟨failure, heq⟩ | ⟨hdir, heq⟩⟩ := rebuild_cases hp hdots hA
  · rw [h] at heq
    cases heq
  · rw [h] at heq
    obtain ⟨rfl, -, hnone⟩ : B = _ ∧ records = _ ∧ none = _ := by simpa using heq
    have hmade : M.makeDirs root = ((makeRoot M root).1, none) :=
      Prod.ext rfl (Option.map_eq_none_iff.1 hnone.symm)
    obtain ⟨-, hmade⟩ | ⟨x, hx⟩ := makeDirs_isNewAt hp hdots hM.wellFormed hmade
    · exact absurd hmade hdir
    · exact ⟨x, hx.leadsTo, hx.names, hx.bare⟩

/-! ## Attempts -/

/-- A failure that comes from the system. -/
def IsSystem (failure : Failure) : Prop :=
  (∃ e, failure = .raw e) ∨ ∃ operation p e, failure = .ofSystem operation p e

/-- However an attempt ends, a property holds still, and only the system has made the attempt fail. -/
structure Ends (P : FileSystem → Prop) (r : FileSystem × Option Failure) : Prop where
  kept : P r.1
  failed : ∀ failure, r.2 = some failure → IsSystem failure

variable {P : FileSystem → Prop} {p : Path}

theorem eachOf_ends {α : Type} {step : FileSystem → α → FileSystem × Option Failure}
    (hstep : ∀ x fs, P fs → Ends P (step fs x)) (xs : List α) {fs : FileSystem} (h : P fs) :
    Ends P (eachOf step xs fs) := by
  induction xs generalizing fs with
  | nil => exact ⟨h, nofun⟩
  | cons x xs ih =>
    have hx := hstep x fs h
    rw [eachOf]
    split <;> rename_i heq <;> rw [heq] at hx
    · exact hx
    · exact ih hx.kept

section

variable (hfile : ∀ {B C : FileSystem} {p : Path}, P B → removeFile B p = .ok C → P C)
variable (hdirectory : ∀ {B C : FileSystem} {p : Path}, P B → removeDirectory B p = .ok C → P C)

theorem removeFile_failed {failure : Failure} (h : removeFile A p = .error failure) : IsSystem failure := by
  unfold removeFile at h
  cases hunlink : A.unlink p with
  | ok B => simp [hunlink, Except.mapError] at h
  | error e =>
    rw [hunlink] at h
    cases h
    exact .inr ⟨_, _, _, rfl⟩

theorem removeDirectory_failed {failure : Failure} (h : removeDirectory A p = .error failure) :
    IsSystem failure := by
  unfold removeDirectory at h
  cases hremove : A.removeDir p with
  | ok B => simp [hremove, Except.mapError] at h
  | error e =>
    rw [hremove] at h
    cases h
    exact .inr ⟨_, _, _, rfl⟩

include hfile in
theorem removeFile_ends (p : Path) (hA : P A) : Ends P (orKeep A (removeFile A p)) := by
  refine ⟨orKeep_of hA fun C hC => hfile hA hC, fun failure hfailure => ?_⟩
  cases hresult : removeFile A p <;> rw [hresult] at hfailure <;> cases hfailure
  exact removeFile_failed hresult

include hdirectory in
theorem removeDirectory_ends (p : Path) (hA : P A) : Ends P (orKeep A (removeDirectory A p)) := by
  refine ⟨orKeep_of hA fun C hC => hdirectory hA hC, fun failure hfailure => ?_⟩
  cases hresult : removeDirectory A p <;> rw [hresult] at hfailure <;> cases hfailure
  exact removeDirectory_failed hresult

include hfile hdirectory

theorem clear_ends (depth : Nat) (p : Path) (hA : P A) : Ends P (clear depth p A) := by
  induction depth generalizing p A with
  | zero => exact ⟨hA, nofun⟩
  | succ depth ih =>
    rw [clear]
    split
    · exact ⟨hA, nofun⟩
    · rename_i listing hscan
      have hinner := eachOf_ends (fun name fs hfs => ih (p.child name) hfs)
        (listing.directories.filter fun name => !A.isLinkEntry (p.child name)) hA
      dsimp only
      split <;> rename_i heq <;> rw [heq] at hinner
      · exact hinner
      · have hfiles := eachOf_ends (fun name fs hfs => removeFile_ends hfile (p.child name) hfs)
          listing.others hinner.kept
        split <;> rename_i heq' <;> rw [heq'] at hfiles
        · exact hfiles
        · refine eachOf_ends (fun name fs hfs => ?_) listing.directories hfiles.kept
          split
          · exact ⟨hfs, fun failure h => .inl ⟨_, (Option.some.inj h).symm⟩⟩
          · exact removeFile_ends hfile _ hfs
          · exact removeDirectory_ends hdirectory _ hfs

/-- However a rebuild ends, what single changes keep is kept, and only the system has made it fail. -/
theorem rebuild_ends (hmake : ∀ {B : FileSystem}, P B → P (makeRoot B root).1) (hA : P A) :
    P (rebuild A root).1 ∧ ∀ failure, (rebuild A root).2.2 = some failure → IsSystem failure := by
  have hroot : ∀ {B : FileSystem}, P B → Ends P (makeRoot B root) := by
    refine fun hB => ⟨hmake hB, fun failure h => ?_⟩
    obtain ⟨e, -, rfl⟩ := Option.map_eq_some_iff.1 h
    exact .inr ⟨_, _, _, rfl⟩
  unfold rebuild
  split
  · exact ⟨hA, fun failure h => .inl ⟨_, (Option.some.inj h).symm⟩⟩
  · exact ⟨(hroot hA).kept, (hroot hA).failed⟩
  · split
    · exact ⟨hA, fun failure h => Option.some.inj h ▸ removeFile_failed ‹_›⟩
    · have hM := hroot (hfile hA ‹_›)
      exact ⟨hM.kept, hM.failed⟩
  · have hclear := clear_ends hfile hdirectory (A.nodes.length + 1) root hA
    dsimp only
    split <;> rename_i heq <;> rw [heq] at hclear
    · exact ⟨hclear.kept, hclear.failed⟩
    · split
      · exact ⟨hclear.kept, fun failure h => Option.some.inj h ▸ removeDirectory_failed ‹_›⟩
      · have hM := hroot (hdirectory hclear.kept ‹_›)
        exact ⟨hM.kept, hM.failed⟩

end

end TemplateTree.Output
