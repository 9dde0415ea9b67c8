import TemplateTree.Proofs.FileSystem.Pruning
import TemplateTree.Proofs.Output.Removal

/-!
# Clearing a directory for good

Clearing a directory removes everything that lies below it, however it is nested and whatever links there
are, as long as the path to the directory does not need what is removed.

* `Swept`: some file system without part of what lies below a location.
* `clear_sweeps`: clearing a directory succeeds, and nothing is left below it.
-/

namespace TemplateTree.Output

open FileSystem

variable {A B C D : FileSystem} {p : Path} {L x : Location} {n name : String}

/-! ## Fewer entries -/

theorem Emptied.trans (h : Emptied L A B) (h' : Emptied L B C) : Emptied L A C := by
  refine ⟨h'.wellFormed, fun x => ?_, h'.clock.trans h.clock⟩
  obtain heq | hgone := h'.node x
  · rw [heq]
    exact h.node x
  · exact .inr hgone

theorem Emptied.widen {rest : List String} (h : Emptied (L ++ rest) A B) : Emptied L A B := by
  refine ⟨h.wellFormed, fun x => (h.node x).imp id ?_, h.clock⟩
  rintro ⟨hnone, below, hbelow, rfl⟩
  exact ⟨hnone, rest ++ below, by simp [hbelow], by simp⟩

/-- What has been removed stays away. -/
theorem Emptied.none (h : Emptied L A B) (hx : A.node? x = none) : B.node? x = none := by
  obtain heq | ⟨hnone, -⟩ := h.node x
  · rw [heq, hx]
  · exact hnone

/-- What is not below the location is as it was. -/
theorem Emptied.beside (h : Emptied L A B) (hx : x.length ≤ L.length) : B.node? x = A.node? x := by
  obtain heq | ⟨-, rest, hrest, rfl⟩ := h.node x
  · exact heq
  · rw [List.length_append] at hx
    exact absurd (List.length_eq_zero_iff.1 (by omega)) hrest

/-- `B` is `A` without part of what lies below a location. The current directory is lost only if it lay
    there. -/
structure Swept (L : Location) (A B : FileSystem) : Prop where
  emptied : Emptied L A B
  workDir : B.workDir = A.workDir
  stays : (∀ rest, rest ≠ [] → A.workDir ≠ L ++ rest) → B.workDirLost = A.workDirLost

namespace Swept

theorem refl (hA : A.WellFormed) (L : Location) : Swept L A A :=
  ⟨.refl hA L, rfl, fun _ => rfl⟩

theorem trans (h : Swept L A B) (h' : Swept L B C) : Swept L A C :=
  ⟨h.emptied.trans h'.emptied, h'.workDir.trans h.workDir,
    fun haway => (h'.stays (h.workDir ▸ haway)).trans (h.stays haway)⟩

theorem widen {rest : List String} (h : Swept (L ++ rest) A B) : Swept L A B := by
  refine ⟨h.emptied.widen, h.workDir, fun haway => h.stays fun below hbelow => ?_⟩
  rw [List.append_assoc]
  exact haway (rest ++ below) (by simp [hbelow])

theorem erase (hA : A.WellFormed) (hleaf : A.node? (L ++ [n]) ≠ some .directory) :
    Swept L A (A.erase (L ++ [n])) := by
  refine ⟨(Emptied.refl hA L).step (hA.erase_leaf (by simp) hleaf) [n] (by simp) (fun x => ?_) rfl, rfl,
    fun _ => rfl⟩
  exact node?_erase A (by simp) x

theorem dropDirectory (hA : A.WellFormed) (hbare : ∀ m, A.node? (L ++ [n] ++ [m]) = none) :
    Swept L A (A.dropDirectory (L ++ [n])) := by
  refine ⟨(Emptied.refl hA L).step (hA.dropDirectory (by simp) hbare) [n] (by simp) (fun x => ?_)
    (clock_dropDirectory A _), ?_, fun haway => ?_⟩
  · rw [node?_dropDirectory, node?_erase A (by simp)]
  · simp only [FileSystem.dropDirectory]
    split <;> rfl
  · have hne : (L ++ [n] == A.workDir) = false := by
      simpa using (haway [n] (by simp)).symm
    simp [FileSystem.dropDirectory, FileSystem.erase, hne]

end Swept

/-! ## One entry -/

section

variable (hA : A.WellFormed) (hp : p.isAbsolute = true) (hdots : ".." ∉ p.parts) (hnul : hasNul p = false)

include hA hp hdots hnul

/-- What is found under a path that names an entry. -/
theorem look_of_names (hx : A.Names p x) :
    A.look false p = match A.node? x with
      | some node => .ok node
      | none => .error (.about .noEntry p.text) := by
  obtain ⟨s, rfl, hname, hd⟩ := hx.spot
  have hfind := (find_false_eq_ok hA hp hdots).2 ⟨hnul, .inr ⟨hx, hd, hname⟩⟩
  have hhere : isHere p = false := by simp [isHere, hp]
  simp only [look, hhere, hfind, Bool.false_eq_true, if_false, bind, Except.bind]
  cases A.node? s.location <;> rfl

omit hA in
/-- The same is found when links are followed, if there is no link. -/
theorem look_true_of_names (hx : A.Names p x) (hlink : ∀ t, A.node? x ≠ some (.link t)) :
    A.look true p = match A.node? x with
      | some node => .ok node
      | none => .error (.about .noEntry p.text) := by
  obtain ⟨hne, hsize, d, hd, rfl⟩ := hx
  have hname : p.name ≠ ".." := fun h => hdots (h ▸ Path.name_mem hne)
  have hlocate := (hd.child_follow (p := p.parent) hp hname hlink).2 ⟨hsize, rfl⟩
  rw [Path.parent_child hne] at hlocate
  have hhere : isHere p = false := by simp [isHere, hp]
  simp only [look, hhere, find_eq_ok.2 ⟨hnul, hlocate⟩, Bool.false_eq_true, if_false, bind, Except.bind,
    Spot.location, Option.toList_some]
  cases A.node? (d ++ [p.name]) <;> rfl

theorem isLink_of_names (hx : A.Names p x) :
    A.isLink p = .ok (match A.node? x with | some (.link _) => true | _ => false) := by
  unfold isLink asks
  rw [look_of_names hA hp hdots hnul hx]
  cases hnode : A.node? x with
  | none => rfl
  | some node => cases node <;> rfl

/-- Whether an entry counts as a link. -/
theorem isLinkEntry_of_names (hx : A.Names p x) :
    A.isLinkEntry p = match A.node? x with | some (.link _) => true | _ => false := by
  rw [isLinkEntry, isLink_of_names hA hp hdots hnul hx]

theorem removeFile_of_names (hx : A.Names p x) {node : Node} (hnode : A.node? x = some node)
    (hleaf : node ≠ .directory) : removeFile A p = .ok (A.erase x) :=
  removeFile_eq_ok.2 ((unlink_eq_ok hA hp hdots).2 ⟨hnul, x, node, hx, hnode, hleaf, rfl⟩)

theorem removeDirectory_of_names (hx : A.Names p x) (hnode : A.node? x = some .directory)
    (hbare : ∀ m, A.node? (x ++ [m]) = none) : removeDirectory A p = .ok (A.dropDirectory x) :=
  removeDirectory_eq_ok.2 ((removeDir_eq_ok hA hp hdots).2 ⟨hnul, x, hx, hnode, hbare, rfl⟩)

end

theorem hasNul_child (hnul : hasNul p = false) (hn : IsEntryName n) : hasNul (p.child n) = false := by
  simp only [hasNul, List.any_eq_false, List.contains_iff_mem] at hnul ⊢
  intro part hpart
  obtain hpart | rfl : part ∈ p.parts ∨ part = n := by simpa [Path.child] using hpart
  · exact hnul part hpart
  · exact hn.2.2

theorem not_mem_child (hdots : ".." ∉ p.parts) (hn : n ≠ "..") : ".." ∉ (p.child n).parts := by
  simp [Path.child, hdots, hn.symm]

/-! ## One entry after the other -/

/-- A change that succeeds for one thing after the other, with an invariant about those still to come. -/
theorem eachOf_succeeds {α : Type} (Inv : List α → FileSystem → Prop)
    (step : FileSystem → α → FileSystem × Option Failure)
    (hstep : ∀ x rest fs, Inv (x :: rest) fs → ∃ fs', step fs x = (fs', none) ∧ Inv rest fs') :
    ∀ xs fs, Inv xs fs → ∃ fs', eachOf step xs fs = (fs', none) ∧ Inv [] fs' := by
  intro xs
  induction xs with
  | nil => exact fun fs h => ⟨fs, rfl, h⟩
  | cons x xs ih =>
    intro fs h
    obtain ⟨next, hnext, hrest⟩ := hstep x xs fs h
    obtain ⟨last, hlast, hnil⟩ := ih next hrest
    refine ⟨last, ?_, hnil⟩
    rw [eachOf, hnext]
    exact hlast

/-- Reading a directory. -/
theorem scan_of_leadsTo (hnul : hasNul p = false) (h : A.LeadsTo p L) :
    A.scan p = .ok ⟨(A.children L).filter (A.leadsToDirectory p),
      (A.children L).filter (!A.leadsToDirectory p ·)⟩ := by
  obtain ⟨hdir, s, hs, rfl⟩ := h
  simp only [scan, hnul, hs, Except.mapError, bind, Except.bind, hdir, Bool.false_eq_true, if_false]
  rfl

theorem nodup_children (hA : A.WellFormed) (L : Location) : (A.children L).Nodup := by
  have hkeys : (A.nodes.filterMap fun e => nameIn? L e.1) = (A.nodes.map (·.1)).filterMap (nameIn? L) := by
    rw [List.filterMap_map]
    rfl
  have hnodup : (A.nodes.filterMap fun e => nameIn? L e.1).Nodup := by
    rw [hkeys]
    refine List.Nodup.filterMap (fun x y name hx hy => ?_) hA.distinct
    rw [nameIn?_eq_some.1 hx, nameIn?_eq_some.1 hy]
  exact ((List.mergeSort_perm _ nameLe).nodup_iff).2 hnodup

/-- The directory itself leads to a directory; what does so otherwise is a link. -/
theorem leadsToDirectory_iff (hA : A.WellFormed) (hp : p.isAbsolute = true) (hnul : hasNul p = false)
    (h : A.LeadsTo p L) (hn : IsEntryName n) :
    (A.node? (L ++ [n]) = some .directory → A.leadsToDirectory p n = true) ∧
      (A.leadsToDirectory p n = true → A.node? (L ++ [n]) = some .directory ∨
        ∃ t, A.node? (L ++ [n]) = some (.link t)) := by
  constructor
  · intro hdir
    have hlead := h.child_directory (p := p) hp hn.1 hn.2.1 hdir
    rw [leadsToDirectory, (isDir_eq_true (p := p.child n) hp).2 ⟨hasNul_child hnul hn, _, hlead⟩]
  · intro hlead
    unfold leadsToDirectory at hlead
    split at hlead
    · rename_i b hb
      obtain ⟨-, y, hy⟩ := (isDir_eq_true (p := p.child n) hp).1 (hlead ▸ hb)
      obtain ⟨d, hd, -, hnode⟩ := locate_false_of_leadsTo hA hp hn.1 hy
      rw [hd.unique h] at hnode
      exact hnode.imp And.left id
    · cases hlead

/-! ## Clearing -/

/-- Directories in a directory that are still to be cleared; nothing is left below the others. -/
structure Opened (L : Location) (A : FileSystem) (rest : List String) (C : FileSystem) : Prop where
  swept : Swept L A C
  directory : ∀ n ∈ rest, A.node? (L ++ [n]) = some .directory
  bare : ∀ n, n ∉ rest → A.node? (L ++ [n]) = some .directory → ∀ m, C.node? (L ++ [n] ++ [m]) = none
  node : ∀ n, C.node? (L ++ [n]) = A.node? (L ++ [n])

/-- One of them is cleared. -/
theorem Opened.step {rest : List String} (h : Opened L A (n :: rest) C) (hD : Swept (L ++ [n]) C D)
    (hgone : ∀ m, D.node? (L ++ [n] ++ [m]) = none) : Opened L A rest D := by
  refine ⟨h.swept.trans hD.widen, fun m hm => h.directory m (by simp [hm]), fun m hm hdir k => ?_,
    fun m => ?_⟩
  · by_cases hmn : m = n
    · rw [hmn]
      exact hgone k
    · exact hD.emptied.none (h.bare m (by simp [hmn, hm]) hdir k)
  · rw [hD.emptied.beside (by simp), h.node]

/-- Entries of a directory that are still to be removed; nothing is left of the others, nor below those that
    are directories. -/
structure Remains (L : Location) (A : FileSystem) (rest : List String) (C : FileSystem) : Prop where
  swept : Swept L A C
  nodup : rest.Nodup
  bare : ∀ n, A.node? (L ++ [n]) = some .directory → ∀ m, C.node? (L ++ [n] ++ [m]) = none
  node : ∀ n, C.node? (L ++ [n]) = if n ∈ rest then A.node? (L ++ [n]) else none

/-- One of them is removed. -/
theorem Remains.step {rest : List String} (h : Remains L A (n :: rest) C) (hD : Swept L C D)
    (hgone : ∀ y, D.node? y = if y = L ++ [n] then none else C.node? y) : Remains L A rest D := by
  obtain ⟨hn, hrest⟩ := List.nodup_cons.1 h.nodup
  refine ⟨h.swept.trans hD, hrest, fun m hm k => hD.emptied.none (h.bare m hm k), fun m => ?_⟩
  rw [hgone, h.node]
  by_cases hm : m = n
  · simp [hm, hn]
  · simp [hm]

/-- What is known of the names in a directory when it has been read. -/
structure IsListing (L : Location) (B : FileSystem) (listing : Listing) : Prop where
  nodup : (listing.others ++ listing.directories).Nodup
  complete : ∀ n, n ∉ listing.others ++ listing.directories → B.node? (L ++ [n]) = none
  all : ∀ n, B.node? (L ++ [n]) = some .directory → n ∈ listing.directories
  directories : ∀ n ∈ listing.directories, IsEntryName n ∧
    (B.node? (L ++ [n]) = some .directory ∨ ∃ t, B.node? (L ++ [n]) = some (.link t))
  others : ∀ n ∈ listing.others, IsEntryName n ∧ ∃ node, B.node? (L ++ [n]) = some node ∧ node ≠ .directory

theorem isListing_scan (hB : B.WellFormed) (hp : p.isAbsolute = true) (hnul : hasNul p = false)
    (h : B.LeadsTo p L) : ∃ listing, B.scan p = .ok listing ∧ IsListing L B listing := by
  have hentry : ∀ n ∈ B.children L, IsEntryName n := fun n hn => isEntryName_of_mem_children hB hn
  have hsome : ∀ n, n ∈ B.children L ↔ (B.node? (L ++ [n])).isSome := fun n => mem_children
  have hlead := fun n hn => leadsToDirectory_iff hB hp hnul h (hentry n hn)
  refine ⟨_, scan_of_leadsTo hnul h, ?_, fun n hn => ?_, fun n hdir => ?_, fun n hn => ?_, fun n hn => ?_⟩
  · refine List.Nodup.append ((nodup_children hB L).filter _) ((nodup_children hB L).filter _) ?_
    intro n hn hn'
    rw [List.mem_filter] at hn hn'
    rw [hn'.2] at hn
    cases hn.2
  · by_contra hnode
    have hmem := (hsome n).2 (Option.isSome_iff_ne_none.2 hnode)
    rw [List.mem_append, not_or, List.mem_filter, List.mem_filter] at hn
    cases hdir : B.leadsToDirectory p n with
    | true => exact hn.2 ⟨hmem, hdir⟩
    | false => exact hn.1 ⟨hmem, by rw [hdir]; rfl⟩
  · have hmem : n ∈ B.children L := (hsome n).2 (by rw [hdir]; rfl)
    exact List.mem_filter.2 ⟨hmem, (hlead n hmem).1 hdir⟩
  · obtain ⟨hmem, hdir⟩ := List.mem_filter.1 hn
    exact ⟨hentry n hmem, (hlead n hmem).2 hdir⟩
  · obtain ⟨hmem, hnot⟩ := List.mem_filter.1 hn
    obtain ⟨node, hnode⟩ := Option.isSome_iff_exists.1 ((hsome n).1 hmem)
    refine ⟨hentry n hmem, node, hnode, ?_⟩
    rintro rfl
    rw [(hlead n hmem).1 hnode] at hnot
    cases hnot

section

variable (hp : p.isAbsolute = true) (hdots : ".." ∉ p.parts) (hnul : hasNul p = false)
variable (hlead : ∀ C, Emptied L B C → C.LeadsTo p L)

include hlead

/-- A path goes on to an entry of the directory. -/
theorem names_of_emptied (hn : IsEntryName n) (hC : Emptied L B C) : C.Names (p.child n) (L ++ [n]) :=
  names_child.2 ⟨hn.2.1, L, hlead C hC, rfl⟩

include hp hdots hnul

theorem removeFile_remains {rest : List String} (hn : IsEntryName n) (h : Remains L B (n :: rest) C)
    {node : Node} (hnode : B.node? (L ++ [n]) = some node) (hleaf : node ≠ .directory) :
    ∃ D, orKeep C (removeFile C (p.child n)) = (D, none) ∧ Remains L B rest D := by
  have hC := h.swept.emptied
  have hat : C.node? (L ++ [n]) = some node := by rw [h.node, if_pos (by simp), hnode]
  have hnotDir : C.node? (L ++ [n]) ≠ some .directory := by rw [hat]; simpa using hleaf
  refine ⟨C.erase (L ++ [n]), ?_, h.step (.erase hC.wellFormed hnotDir) (node?_erase C (by simp))⟩
  rw [removeFile_of_names hC.wellFormed (p := p.child n) hp (not_mem_child hdots hn.1)
    (hasNul_child hnul hn) (names_of_emptied hlead hn hC) hat hleaf]
  rfl

theorem removeDirectory_remains {rest : List String} (hn : IsEntryName n) (h : Remains L B (n :: rest) C)
    (hdir : B.node? (L ++ [n]) = some .directory) :
    ∃ D, orKeep C (removeDirectory C (p.child n)) = (D, none) ∧ Remains L B rest D := by
  have hC := h.swept.emptied
  have hat : C.node? (L ++ [n]) = some .directory := by rw [h.node, if_pos (by simp), hdir]
  refine ⟨C.dropDirectory (L ++ [n]), ?_, h.step (.dropDirectory hC.wellFormed (h.bare n hdir)) fun y => ?_⟩
  · rw [removeDirectory_of_names hC.wellFormed (p := p.child n) hp (not_mem_child hdots hn.1)
      (hasNul_child hnul hn) (names_of_emptied hlead hn hC) hat (h.bare n hdir)]
    rfl
  · rw [node?_dropDirectory, node?_erase C (by simp)]

/-- The files and links go, except for links to directories. -/
theorem removeOthers_remains {listing : Listing} (hlisting : IsListing L B listing)
    (h : Remains L B (listing.others ++ listing.directories) C) :
    ∃ D, eachOf (fun fs name => orKeep fs (removeFile fs (p.child name))) listing.others C = (D, none) ∧
      Remains L B listing.directories D := by
  obtain ⟨D, hD, hremains, -⟩ := eachOf_succeeds
    (fun rest fs => Remains L B (rest ++ listing.directories) fs ∧ ∀ n ∈ rest, n ∈ listing.others)
    (fun fs name => orKeep fs (removeFile fs (p.child name)))
    (fun n rest fs ⟨h, hrest⟩ => by
      obtain ⟨hn, node, hnode, hleaf⟩ := hlisting.others n (hrest n (by simp))
      obtain ⟨fs', hfs', h'⟩ := removeFile_remains hp hdots hnul hlead hn h hnode hleaf
      exact ⟨fs', hfs', h', fun m hm => hrest m (by simp [hm])⟩)
    listing.others C ⟨h, fun _ hn => hn⟩
  exact ⟨D, hD, by simpa using hremains⟩

/-- The subdirectories go, which are empty by now, and the links to directories. -/
theorem removeDirectories_remains {listing : Listing} (hlisting : IsListing L B listing)
    (h : Remains L B listing.directories C) :
    ∃ D, eachOf (fun fs name =>
        let child := p.child name
        match fs.isLink child with
        | .error e => (fs, some (.raw e))
        | .ok true => orKeep fs (removeFile fs child)
        | .ok false => orKeep fs (removeDirectory fs child)) listing.directories C = (D, none) ∧
      Remains L B [] D := by
  obtain ⟨D, hD, hremains, -⟩ := eachOf_succeeds
    (fun rest fs => Remains L B rest fs ∧ ∀ n ∈ rest, n ∈ listing.directories)
    (fun fs name =>
      let child := p.child name
      match fs.isLink child with
      | .error e => (fs, some (.raw e))
      | .ok true => orKeep fs (removeFile fs child)
      | .ok false => orKeep fs (removeDirectory fs child))
    (fun n rest fs ⟨h, hrest⟩ => by
      obtain ⟨hn, hnode⟩ := hlisting.directories n (hrest n (by simp))
      have hat : fs.node? (L ++ [n]) = B.node? (L ++ [n]) := by rw [h.node, if_pos (by simp)]
      have hlink := isLink_of_names h.swept.emptied.wellFormed (p := p.child n) hp
        (not_mem_child hdots hn.1) (hasNul_child hnul hn) (names_of_emptied hlead hn h.swept.emptied)
      have hrest' : ∀ m ∈ rest, m ∈ listing.directories := fun m hm => hrest m (by simp [hm])
      obtain hdir | ⟨t, ht⟩ := hnode
      · rw [hat, hdir] at hlink
        obtain ⟨fs', hfs', h'⟩ := removeDirectory_remains hp hdots hnul hlead hn h hdir
        exact ⟨fs', by simpa only [hlink] using hfs', h', hrest'⟩
      · rw [hat, ht] at hlink
        obtain ⟨fs', hfs', h'⟩ := removeFile_remains hp hdots hnul hlead hn h ht (by simp)
        exact ⟨fs', by simpa only [hlink] using hfs', h', hrest'⟩)
    listing.directories C ⟨h, fun _ hn => hn⟩
  exact ⟨D, hD, hremains⟩

/-- The subdirectories are those that are no links. -/
theorem mem_inner_iff (hB : B.WellFormed) {listing : Listing} (hlisting : IsListing L B listing) :
    n ∈ listing.directories.filter (fun name => !B.isLinkEntry (p.child name)) ↔
      B.node? (L ++ [n]) = some .directory := by
  rw [List.mem_filter, Bool.not_eq_true']
  have hlink : ∀ hn : IsEntryName n, B.isLinkEntry (p.child n)
      = match B.node? (L ++ [n]) with | some (.link _) => true | _ => false := fun hn =>
    isLinkEntry_of_names hB (p := p.child n) hp (not_mem_child hdots hn.1) (hasNul_child hnul hn)
      (names_of_emptied hlead hn (.refl hB L))
  constructor
  · rintro ⟨hn, hnot⟩
    obtain ⟨hname, hdir | ⟨t, ht⟩⟩ := hlisting.directories n hn
    · exact hdir
    · rw [hlink hname, ht] at hnot
      cases hnot
  · intro hdir
    exact ⟨hlisting.all n hdir, by rw [hlink (hB.named _ _ _ hdir), hdir]⟩

end

/-- Clearing succeeds in a directory whose path does not need what is below it, and leaves nothing there. -/
theorem clear_sweeps (depth : Nat) (hp : p.isAbsolute = true) (hdots : ".." ∉ p.parts)
    (hnul : hasNul p = false) (hB : B.WellFormed) (hlead : ∀ C, Emptied L B C → C.LeadsTo p L)
    (hdepth : ∀ rest, (B.node? (L ++ rest)).isSome → rest.length < depth) :
    ∃ C, clear depth p B = (C, none) ∧ Swept L B C ∧ ∀ n, C.node? (L ++ [n]) = none := by
  induction depth generalizing p L B with
  | zero =>
    have hdir := (hlead B (.refl hB L)).1
    have := hdepth [] (by rw [List.append_nil, hdir]; rfl)
    omega
  | succ depth ih =>
    obtain ⟨listing, hscan, hlisting⟩ := isListing_scan hB hp hnul (hlead B (.refl hB L))
    rw [clear, hscan]
    dsimp only
    -- First what is below the subdirectories goes, by induction.
    have hinner : ∀ n rest fs, Opened L B (n :: rest) fs →
        ∃ fs', clear depth (p.child n) fs = (fs', none) ∧ Opened L B rest fs' := by
      intro n rest fs h
      have hfs := h.swept.emptied
      have hdir := h.directory n (by simp)
      have hn : IsEntryName n := hB.named _ _ _ hdir
      have hbelow : ∀ D, Emptied (L ++ [n]) fs D → D.LeadsTo (p.child n) (L ++ [n]) := by
        intro D hD
        refine (hlead D (hfs.trans hD.widen)).child_directory hp hn.1 hn.2.1 ?_
        rw [hD.beside (Nat.le_refl _), h.node, hdir]
      have hless : ∀ below, (fs.node? (L ++ [n] ++ below)).isSome → below.length < depth := by
        intro below hsome
        have hold : (B.node? (L ++ n :: below)).isSome := by
          rw [List.append_assoc, List.singleton_append] at hsome
          obtain heq | ⟨hnone, -⟩ := hfs.node (L ++ n :: below)
          · rwa [heq] at hsome
          · rw [hnone] at hsome
            cases hsome
        have := hdepth _ hold
        rw [List.length_cons] at this
        omega
      obtain ⟨fs', hfs', hswept, hnone⟩ := ih (p := p.child n) hp (not_mem_child hdots hn.1)
        (hasNul_child hnul hn) hfs.wellFormed hbelow hless
      exact ⟨fs', hfs', h.step hswept hnone⟩
    have hmem := fun n => mem_inner_iff (n := n) hp hdots hnul hlead hB hlisting
    obtain ⟨C, hC, hopened⟩ := eachOf_succeeds (Opened L B)
      (fun fs name => clear depth (p.child name) fs) hinner _ B
      ⟨.refl hB L, fun n hn => (hmem n).1 hn, fun n hn hdir => absurd ((hmem n).2 hdir) hn, fun _ => rfl⟩
    rw [hC]
    dsimp only
    -- Then the entries themselves.
    have hremains : Remains L B (listing.others ++ listing.directories) C := by
      refine ⟨hopened.swept, hlisting.nodup, fun n hdir => hopened.bare n (by simp) hdir, fun n => ?_⟩
      rw [hopened.node]
      split_ifs with hn
      · rfl
      · exact hlisting.complete n hn
    obtain ⟨D, hD, hremains⟩ := removeOthers_remains hp hdots hnul hlead hlisting hremains
    rw [hD]
    dsimp only
    obtain ⟨E, hE, hnone⟩ := removeDirectories_remains hp hdots hnul hlead hlisting hremains
    refine ⟨E, hE, hnone.swept, fun n => ?_⟩
    rw [hnone.node, if_neg (by simp)]

end TemplateTree.Output
