import Mathlib.Data.List.Induction
import Mathlib.Tactic.SplitIfs
import TemplateTree.FileSystem.Operations
import TemplateTree.Proofs.Attempts

/-!
# Nodes of a file system

What the changes of a file system do to its nodes, and the shape that every file system keeps.

* `node?_put`, `node?_erase`: one location changes, the others do not.
* `WellFormed`: everything lies in a directory, under a name that a directory can hold.
* `WellFormed.put`, `WellFormed.erase`: changes of one location that keep the shape.
-/

namespace TemplateTree

namespace FileSystem

variable {fs : FileSystem} {at_ x : Location} {node : Node}

/-! ## Single changes -/

@[simp] theorem node?_nil (fs : FileSystem) : fs.node? [] = some .directory := by
  simp [node?]

theorem node?_of_ne_nil (h : x ≠ []) :
    fs.node? x = (fs.nodes.find? fun e => e.1 == x).map (·.2) := by
  simp [node?, h]

@[simp] theorem node?_tick (fs : FileSystem) (x : Location) : fs.tick.node? x = fs.node? x := rfl

theorem node?_filter_ne (fs : FileSystem) (at_ x : Location) (h : x ≠ at_) :
    (fs.nodes.filter fun e => e.1 != at_).find? (fun e => e.1 == x)
      = fs.nodes.find? fun e => e.1 == x := by
  rw [List.find?_filter]
  congr 1
  funext e
  by_cases hx : e.1 = x
  · simp [hx, h]
  · simp [hx]

theorem node?_put (fs : FileSystem) {at_ : Location} (h : at_ ≠ []) (node : Node) (x : Location) :
    (fs.put at_ node).node? x = if x = at_ then some node else fs.node? x := by
  by_cases hx : x = []
  · subst hx
    simp [Ne.symm h]
  · rw [node?_of_ne_nil hx, put]
    split_ifs with he
    · simp [he]
    · rw [node?_of_ne_nil hx, List.find?_cons_of_neg (by simpa using fun h => he h.symm),
        node?_filter_ne fs at_ x he]

theorem node?_erase (fs : FileSystem) {at_ : Location} (h : at_ ≠ []) (x : Location) :
    (fs.erase at_).node? x = if x = at_ then none else fs.node? x := by
  by_cases hx : x = []
  · subst hx
    simp [Ne.symm h]
  · rw [node?_of_ne_nil hx, erase]
    split_ifs with he
    · simp [he, List.find?_eq_none]
    · rw [node?_of_ne_nil hx, node?_filter_ne fs at_ x he]

@[simp] theorem node?_dropDirectory (fs : FileSystem) (at_ x : Location) :
    (fs.dropDirectory at_).node? x = (fs.erase at_).node? x := by
  simp only [dropDirectory]
  split <;> rfl

theorem mem_nodes_of_node? (hx : x ≠ []) (h : fs.node? x = some node) : (x, node) ∈ fs.nodes := by
  rw [node?_of_ne_nil hx, Option.map_eq_some_iff] at h
  obtain ⟨e, he, rfl⟩ := h
  have hkey : e.1 = x := by simpa using List.find?_some he
  rw [← hkey]
  exact List.mem_of_find?_eq_some he

theorem node?_isSome_of_mem {e : Location × Node} (h : e ∈ fs.nodes) : (fs.node? e.1).isSome := by
  by_cases he : e.1 = []
  · simp [he]
  · rw [node?_of_ne_nil he, Option.isSome_map, List.find?_isSome]
    exact ⟨e, h, by simp⟩

theorem isDirectoryAt_eq_true : fs.isDirectoryAt x = true ↔ fs.node? x = some .directory := by
  unfold isDirectoryAt
  cases fs.node? x with
  | none => simp
  | some node => cases node <;> simp

/-! ## Names in a directory -/

theorem nameIn?_eq_some {directory entry : Location} {name : String} :
    nameIn? directory entry = some name ↔ entry = directory ++ [name] := by
  unfold nameIn?
  rcases List.eq_nil_or_concat entry with rfl | ⟨front, last, rfl⟩
  · simp
  · simp only [List.concat_eq_append, List.getLast?_concat, List.dropLast_concat,
      beq_iff_eq]
    split_ifs with h
    · simp [h]
    · simp [h]

theorem mem_children {directory : Location} {name : String} :
    name ∈ fs.children directory ↔ (fs.node? (directory ++ [name])).isSome := by
  simp only [children, List.mem_mergeSort, List.mem_filterMap, nameIn?_eq_some]
  constructor
  · rintro ⟨e, he, hkey⟩
    rw [← hkey]
    exact node?_isSome_of_mem he
  · intro h
    obtain ⟨node, hnode⟩ := Option.isSome_iff_exists.1 h
    exact ⟨_, mem_nodes_of_node? (by simp) hnode, rfl⟩

/-! ## Well-formed file systems -/

/-- Whether a directory can hold an entry under a name: the name does not lead upwards, is not too
    long, and has no NUL character. -/
def IsEntryName (s : String) : Prop :=
  s ≠ ".." ∧ s.utf8ByteSize ≤ nameLimit ∧ Char.ofNat 0 ∉ s.toList

/-- The shape of a file system: no location occurs twice, every entry lies in a directory under a
    possible name, and the current directory is there unless it is known to be lost. -/
structure WellFormed (fs : FileSystem) : Prop where
  distinct : (fs.nodes.map (·.1)).Nodup
  named : ∀ at_ name node, fs.node? (at_ ++ [name]) = some node → IsEntryName name
  rooted : ∀ at_ name node, fs.node? (at_ ++ [name]) = some node → fs.node? at_ = some .directory
  workDir : fs.workDirLost = false → fs.node? fs.workDir = some .directory

namespace WellFormed

/-- Nothing lies below a location that is no directory. -/
theorem node?_append_eq_none (hfs : fs.WellFormed) (h : fs.node? at_ ≠ some .directory)
    (rest : List String) (hrest : rest ≠ []) : fs.node? (at_ ++ rest) = none := by
  induction rest using List.reverseRecOn with
  | nil => exact absurd rfl hrest
  | append_singleton front name ih =>
    rw [← List.append_assoc]
    by_contra hne
    obtain ⟨node, hnode⟩ := Option.ne_none_iff_exists'.1 hne
    have hdir := hfs.rooted _ _ _ hnode
    by_cases hfront : front = []
    · rw [hfront, List.append_nil] at hdir
      exact h hdir
    · rw [ih hfront] at hdir
      cases hdir

/-- What a directory is part of is a directory. -/
theorem directory_of_append (hfs : fs.WellFormed) {rest : List String}
    (h : fs.node? (at_ ++ rest) = some .directory) : fs.node? at_ = some .directory := by
  by_contra hne
  by_cases hrest : rest = []
  · simp [hrest, hne] at h
  · rw [hfs.node?_append_eq_none hne rest hrest] at h
    cases h

theorem dropLast_directory (hfs : fs.WellFormed) (h : fs.node? at_ = some .directory) :
    fs.node? at_.dropLast = some .directory := by
  rcases List.eq_nil_or_concat at_ with rfl | ⟨front, last, rfl⟩
  · simp
  · rw [List.concat_eq_append] at h ⊢
    rw [List.dropLast_concat]
    exact hfs.directory_of_append h

/-- The location of anything that is there has possible names only. -/
theorem isEntryName_of_mem (hfs : fs.WellFormed) (h : (fs.node? x).isSome) {name : String}
    (hname : name ∈ x) : IsEntryName name := by
  obtain ⟨front, back, rfl⟩ := List.append_of_mem hname
  have hhere : (fs.node? (front ++ [name])).isSome := by
    by_cases hback : back = []
    · simpa [hback] using h
    · by_contra hnone
      rw [List.append_cons, hfs.node?_append_eq_none (by intro hd; simp [hd] at hnone) back hback]
        at h
      cases h
  obtain ⟨node, hnode⟩ := Option.isSome_iff_exists.1 hhere
  exact hfs.named _ _ _ hnode

theorem workDir_names (hfs : fs.WellFormed) (h : fs.workDirLost = false) : ".." ∉ fs.workDir := by
  intro hmem
  have := hfs.isEntryName_of_mem (by rw [hfs.workDir h]; rfl) hmem
  exact this.1 rfl

end WellFormed

theorem nodup_filter_ne (h : (fs.nodes.map (·.1)).Nodup) (at_ : Location) :
    ((fs.nodes.filter fun e => e.1 != at_).map (·.1)).Nodup :=
  h.sublist (List.filter_sublist.map _)

/-- A new entry in a directory, or another one in place of a file or link. -/
theorem WellFormed.put (hfs : fs.WellFormed) {d : Location} {name : String}
    (hdir : fs.node? d = some .directory) (hname : IsEntryName name)
    (hold : fs.node? (d ++ [name]) ≠ some .directory) (node : Node) :
    (fs.put (d ++ [name]) node).WellFormed := by
  have hne : d ++ [name] ≠ [] := by simp
  have keep : ∀ y, fs.node? y = some .directory →
      (fs.put (d ++ [name]) node).node? y = some .directory := by
    intro y hy
    rw [node?_put fs hne, if_neg (by rintro rfl; exact hold hy), hy]
  constructor
  · simp only [FileSystem.put, List.map_cons, List.nodup_cons]
    refine ⟨by simp, nodup_filter_ne hfs.distinct _⟩
  · intro y n k hk
    rw [node?_put fs hne] at hk
    split_ifs at hk with heq
    · obtain ⟨-, rfl⟩ := List.append_inj' heq rfl |>.imp id fun h => (List.cons.inj h).1
      exact hname
    · exact hfs.named _ _ _ hk
  · intro y n k hk
    rw [node?_put fs hne] at hk
    split_ifs at hk with heq
    · rw [(List.append_inj' heq rfl).1]
      exact keep _ hdir
    · exact keep _ (hfs.rooted _ _ _ hk)
  · exact fun h => keep _ (hfs.workDir h)

/-- A file, a link or an empty directory less. -/
theorem WellFormed.erase (hfs : fs.WellFormed) (hat : at_ ≠ [])
    (hbare : ∀ name, fs.node? (at_ ++ [name]) = none)
    (hwork : fs.workDirLost = false → fs.workDir ≠ at_) : (fs.erase at_).WellFormed := by
  constructor
  · exact nodup_filter_ne hfs.distinct _
  · intro y n k hk
    rw [node?_erase fs hat] at hk
    split_ifs at hk
    exact hfs.named _ _ _ hk
  · intro y n k hk
    rw [node?_erase fs hat] at hk
    split_ifs at hk
    have hy : y ≠ at_ := by
      rintro rfl
      rw [hbare n] at hk
      cases hk
    rw [node?_erase fs hat, if_neg hy]
    exact hfs.rooted _ _ _ hk
  · intro h
    change (fs.erase at_).node? fs.workDir = _
    rw [node?_erase fs hat, if_neg (hwork h)]
    exact hfs.workDir h

/-- A file or link less. -/
theorem WellFormed.erase_leaf (hfs : fs.WellFormed) (hat : at_ ≠ [])
    (hleaf : fs.node? at_ ≠ some .directory) : (fs.erase at_).WellFormed :=
  hfs.erase hat (fun name => hfs.node?_append_eq_none hleaf [name] (by simp))
    fun h => by rintro rfl; exact hleaf (hfs.workDir h)

/-- An empty directory less. If it was the current one, that is lost. -/
theorem WellFormed.dropDirectory (hfs : fs.WellFormed) (hat : at_ ≠ [])
    (hbare : ∀ name, fs.node? (at_ ++ [name]) = none) : (fs.dropDirectory at_).WellFormed := by
  have hlost : ({ fs with workDirLost := true } : FileSystem).WellFormed :=
    ⟨hfs.distinct, hfs.named, hfs.rooted, fun h => by cases h⟩
  simp only [FileSystem.dropDirectory]
  split_ifs with hwork
  · exact hlost.erase hat hbare fun h => by cases h
  · exact hfs.erase hat hbare fun _ h => hwork (by simpa [FileSystem.erase] using h.symm)

theorem empty_wellFormed : (FileSystem.empty []).WellFormed := by
  refine ⟨by decide, fun at_ name node h => ?_, fun at_ name node h => ?_, fun _ => rfl⟩
  all_goals
    rw [node?_of_ne_nil (by simp)] at h
    cases h

instance : DecidablePred IsEntryName :=
  fun s => inferInstanceAs (Decidable (s ≠ ".." ∧ s.utf8ByteSize ≤ nameLimit ∧ Char.ofNat 0 ∉ s.toList))

/-- The shape of a file system, read off its list of nodes. -/
theorem wellFormed_of_nodes (hdistinct : (fs.nodes.map (·.1)).Nodup)
    (hnodes : ∀ e ∈ fs.nodes, ∀ name ∈ e.1.getLast?,
      IsEntryName name ∧ fs.isDirectoryAt e.1.dropLast = true)
    (hwork : fs.workDirLost = false → fs.isDirectoryAt fs.workDir = true) : fs.WellFormed := by
  have hentry : ∀ at_ name node, fs.node? (at_ ++ [name]) = some node →
      IsEntryName name ∧ fs.node? at_ = some .directory := by
    intro at_ name node h
    have := hnodes _ (mem_nodes_of_node? (by simp) h) name (by simp)
    rwa [List.dropLast_concat, isDirectoryAt_eq_true] at this
  exact ⟨hdistinct, fun at_ name node h => (hentry at_ name node h).1,
    fun at_ name node h => (hentry at_ name node h).2, fun h => isDirectoryAt_eq_true.1 (hwork h)⟩

theorem WellFormed.tick (hfs : fs.WellFormed) : fs.tick.WellFormed :=
  ⟨hfs.distinct, hfs.named, hfs.rooted, hfs.workDir⟩

end FileSystem

end TemplateTree
