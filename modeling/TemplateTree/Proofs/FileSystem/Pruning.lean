import Mathlib.Data.List.Nodup
import Mathlib.Data.List.Perm.Subperm
import TemplateTree.Proofs.FileSystem.Entries

/-!
# A file system without one of its entries

What is left when an entry is removed with all that is below it. A path can lead to the entry by way of
what is removed, through a link that leads back up or through a double dot; otherwise it names the same
entry when that is gone. So it does if no link is on the way.

* `pruned`: the rest of a file system.
* `StandsAlone`: a path does not need the entry that it names.
* `standsAlone_of_linkless`: without links on the way.
* `length_le_nodes`: how deep an entry can lie.
-/

namespace TemplateTree.FileSystem

variable {fs A B : FileSystem} {p : Path} {x y : Location} {name : String}

/-! ## What is left -/

/-- The file system without an entry and what is below it. -/
def pruned (fs : FileSystem) (x : Location) : FileSystem :=
  { fs with nodes := fs.nodes.filter fun e => !x.isPrefixOf e.1 }

theorem node?_pruned (fs : FileSystem) (hx : x ≠ []) (y : Location) :
    (fs.pruned x).node? y = if x <+: y then none else fs.node? y := by
  by_cases hy : y = []
  · subst hy
    rw [node?_nil, node?_nil, if_neg (by simpa using hx)]
  · rw [node?_of_ne_nil hy, node?_of_ne_nil hy, pruned, List.find?_filter]
    split_ifs with hxy
    · rw [List.find?_eq_none.2, Option.map_none]
      rintro e - he
      obtain ⟨hkeep, rfl⟩ : x.isPrefixOf e.1 = false ∧ e.1 = y := by simpa using he
      rw [List.isPrefixOf_iff_prefix.2 hxy] at hkeep
      cases hkeep
    · congr 2
      funext e
      have hkeep : x.isPrefixOf y = false := by
        rwa [← Bool.not_eq_true, List.isPrefixOf_iff_prefix]
      by_cases he : e.1 = y
      · simp [he, hkeep]
      · simp [he]

/-- What is left of one file system is left in another one that is the same apart from the entry. -/
theorem extends_of_pruned (hx : x ≠ []) (h : ∀ y, ¬x <+: y → B.node? y = A.node? y) :
    Extends (A.pruned x) B := by
  constructor
  all_goals
    intro y
    rw [node?_pruned A hx]
    split_ifs with hy
    · simp
    · simp [h y hy]

/-- A path does not need the entry that it names, nor anything below it. -/
def StandsAlone (fs : FileSystem) (p : Path) : Prop :=
  ∀ x, fs.Names p x → (fs.pruned x).Names p x

/-! ## Straight paths -/

/-- Where no link is on the way, a path leads where its names say. -/
theorem leadsTo_straight (hfs : fs.WellFormed) (hp : p.isAbsolute = true) (hdots : ".." ∉ p.parts)
    (hlink : ∀ y, y <+: p.parts → ∀ t, fs.node? y ≠ some (.link t)) (hx : fs.LeadsTo p x) : x = p.parts := by
  obtain ⟨root, parts⟩ := p
  induction parts using List.reverseRecOn generalizing x with
  | nil => exact hx.unique (leadsTo_nil hp rfl)
  | append_singleton front name ih =>
    simp only [List.mem_append, List.mem_singleton, not_or] at hdots
    obtain ⟨d, hd, -, hnode⟩ :=
      locate_false_of_leadsTo hfs (p := ⟨root, front⟩) hp (Ne.symm hdots.2) hx
    obtain rfl : d = front := ih hp hdots.1 (fun y hy => hlink y (hy.trans (List.prefix_append _ _))) hd
    obtain ⟨-, rfl⟩ | ⟨t, ht⟩ := hnode
    · rfl
    · exact absurd ht (hlink _ List.prefix_rfl t)

/-- Where directories are all the way, a path leads to the last one. -/
theorem leadsTo_of_directories (hp : p.isAbsolute = true) (hdots : ".." ∉ p.parts)
    (hsize : ∀ name ∈ p.parts, name.utf8ByteSize ≤ nameLimit)
    (hdir : ∀ y, y <+: p.parts → fs.node? y = some .directory) : fs.LeadsTo p p.parts := by
  obtain ⟨root, parts⟩ := p
  induction parts using List.reverseRecOn with
  | nil => exact leadsTo_nil hp rfl
  | append_singleton front name ih =>
    simp only [List.mem_append, List.mem_singleton, not_or] at hdots
    have hfront := ih hp hdots.1 (fun n hn => hsize n (by simp [hn]))
      (fun y hy => hdir y (hy.trans (List.prefix_append _ _)))
    exact hfront.child_directory (p := ⟨root, front⟩) hp (Ne.symm hdots.2) (hsize name (by simp))
      (hdir _ List.prefix_rfl)

/-- Where no link is on the way to its entry, a path names what its names say. -/
theorem names_straight (hfs : fs.WellFormed) (hp : p.isAbsolute = true) (hdots : ".." ∉ p.parts)
    (hlink : ∀ y, y <+: p.parts → y ≠ p.parts → ∀ t, fs.node? y ≠ some (.link t)) (hx : fs.Names p x) :
    x = p.parts := by
  obtain ⟨hne, -, d, hd, rfl⟩ := hx
  have hparent : p.parent.parts ++ [p.name] = p.parts := congrArg Path.parts (Path.parent_child hne)
  have hd := leadsTo_straight hfs (p := p.parent) hp (Path.not_mem_parent hdots) (fun y hy => ?_) hd
  · rw [hd, hparent]
  · refine hlink y (hy.trans ⟨[p.name], hparent⟩) ?_
    rintro rfl
    have hlength := hy.length_le
    rw [← congrArg List.length hparent, List.length_append, List.length_singleton] at hlength
    omega

/-- A path names an entry in a directory that is there, whatever the entry is. -/
theorem names_of_directories (hp : p.isAbsolute = true) (hne : p.parts ≠ []) (hdots : ".." ∉ p.parts)
    (hsize : ∀ name ∈ p.parts, name.utf8ByteSize ≤ nameLimit)
    (hdir : ∀ y, y <+: p.parts → y ≠ p.parts → fs.node? y = some .directory) : fs.Names p p.parts := by
  have hparent : p.parent.parts ++ [p.name] = p.parts := congrArg Path.parts (Path.parent_child hne)
  refine ⟨hne, hsize _ (Path.name_mem hne), p.parent.parts, ?_, hparent.symm⟩
  refine leadsTo_of_directories (p := p.parent) hp (Path.not_mem_parent hdots)
    (fun n hn => hsize n (List.dropLast_subset _ hn)) fun y hy => ?_
  refine hdir y (hy.trans ⟨[p.name], hparent⟩) ?_
  rintro rfl
  have hlength := hy.length_le
  rw [← congrArg List.length hparent, List.length_append, List.length_singleton] at hlength
  omega

/-- What lies on the way to an entry that a straight path names are directories with possible names. -/
theorem directory_of_names (hfs : fs.WellFormed) (hx : fs.Names p p.parts) (hy : y <+: p.parts)
    (hne : y ≠ p.parts) : fs.node? y = some .directory := by
  obtain ⟨-, -, d, hd, hparts⟩ := hx
  obtain ⟨rest, hrest⟩ := hy
  have hprefix : y <+: d := by
    rcases List.eq_nil_or_concat rest with rfl | ⟨front, last, rfl⟩
    · exact absurd (by simpa using hrest) hne
    · rw [hparts, List.concat_eq_append, ← List.append_assoc] at hrest
      exact ⟨front, (List.append_inj' hrest rfl).1⟩
  obtain ⟨rest, rfl⟩ := hprefix
  exact hfs.directory_of_append hd.1

/-- A path without links on the way does not need the entry that it names. -/
theorem names_pruned_straight (hp : p.isAbsolute = true) (hne : p.parts ≠ []) (hdots : ".." ∉ p.parts)
    (hsize : ∀ name ∈ p.parts, name.utf8ByteSize ≤ nameLimit)
    (hdir : ∀ y, y <+: p.parts → y ≠ p.parts → fs.node? y = some .directory) :
    (fs.pruned p.parts).Names p p.parts := by
  refine names_of_directories hp hne hdots hsize fun y hy hyne => ?_
  rw [node?_pruned fs hne, if_neg fun h => hyne (h.eq_of_length_le hy.length_le).symm]
  exact hdir y hy hyne

/-- A path without links on the way does not need what is there under its names. -/
theorem names_of_present (hfs : fs.WellFormed) (hp : p.isAbsolute = true) (hne : p.parts ≠ [])
    (hdots : ".." ∉ p.parts) (h : (fs.node? p.parts).isSome) : (fs.pruned p.parts).Names p p.parts := by
  refine names_pruned_straight hp hne hdots (fun n hn => (hfs.isEntryName_of_mem h hn).2.1) fun y hy hyne => ?_
  by_contra hdir
  obtain ⟨rest, hrest⟩ := hy
  rw [← hrest, hfs.node?_append_eq_none hdir rest fun hnil => hyne (by simpa [hnil] using hrest)] at h
  cases h

/-- Without links on the way, a path stands alone. -/
theorem standsAlone_of_linkless (hfs : fs.WellFormed) (hp : p.isAbsolute = true) (hdots : ".." ∉ p.parts)
    (hlink : ∀ y, y <+: p.parts → y ≠ p.parts → ∀ t, fs.node? y ≠ some (.link t)) : fs.StandsAlone p := by
  intro x hx
  obtain rfl := names_straight hfs hp hdots hlink hx
  have hdir : ∀ y, y <+: p.parts → y ≠ p.parts → fs.node? y = some .directory :=
    fun y hy hne => directory_of_names hfs hx hy hne
  refine names_pruned_straight hp hx.1 hdots (fun n hn => ?_) hdir
  have hparent : p.parent.parts ++ [p.name] = p.parts := congrArg Path.parts (Path.parent_child hx.1)
  rw [← hparent, List.mem_append, List.mem_singleton] at hn
  obtain hn | rfl := hn
  · have habove : (fs.node? p.parent.parts).isSome := by
      rw [hdir _ ⟨_, hparent⟩ fun h => by simpa using congrArg List.length (h.trans hparent.symm)]
      rfl
    exact (hfs.isEntryName_of_mem habove hn).2.1
  · exact hx.2.1

/-- There are no links on the way to an entry of the root directory. -/
theorem linkless_of_single (hp : p.parts = [name]) :
    ∀ y, y <+: p.parts → y ≠ p.parts → ∀ t, fs.node? y ≠ some (.link t) := by
  intro y hy hne t
  obtain rfl | h := List.prefix_concat_iff.1 (show y <+: [] ++ [name] from hp ▸ hy)
  · exact absurd hp.symm hne
  · simp [List.prefix_nil.1 h]

/-! ## How deep an entry lies -/

/-- Everything that an entry lies in is an entry of its own, so that there are as many as it lies deep. -/
theorem length_le_nodes (hfs : fs.WellFormed) (hy : (fs.node? y).isSome) : y.length ≤ fs.nodes.length := by
  have habove : ∀ k, (fs.node? (y.take k)).isSome := by
    intro k
    by_cases hk : y.drop k = []
    · rwa [← List.append_nil (y.take k), ← hk, List.take_append_drop]
    · by_contra hnone
      have hrest := hfs.node?_append_eq_none (fun hdir => hnone (by rw [hdir]; rfl)) _ hk
      rw [List.take_append_drop] at hrest
      simp [hrest] at hy
  let above := (List.range y.length).map fun k => y.take (k + 1)
  have hnodup : above.Nodup := by
    refine List.Nodup.map_on (fun j hj k hk hjk => ?_) List.nodup_range
    have := congrArg List.length hjk
    simp only [List.length_take, List.mem_range] at this hj hk
    omega
  have hsubset : above ⊆ fs.nodes.map (·.1) := by
    intro x hx
    obtain ⟨k, hk, rfl⟩ := List.mem_map.1 hx
    obtain ⟨node, hnode⟩ := Option.isSome_iff_exists.1 (habove (k + 1))
    have hne : y.take (k + 1) ≠ [] := by
      rw [List.mem_range] at hk
      rw [ne_eq, List.take_eq_nil_iff, not_or]
      exact ⟨Nat.succ_ne_zero k, List.ne_nil_of_length_pos (by omega)⟩
    exact List.mem_map.2 ⟨_, mem_nodes_of_node? hne hnode, rfl⟩
  have := (hnodup.subperm hsubset).length_le
  simpa [above] using this

end TemplateTree.FileSystem
