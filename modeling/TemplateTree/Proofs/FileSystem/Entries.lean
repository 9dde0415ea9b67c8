import TemplateTree.Proofs.FileSystem.Walking

/-!
# Entries under paths

The entry that a path without double dots names: the last name of the path, in the directory that the
rest of it leads to. Each operation is described by what it does at the location of that entry.

* `Names`: a path names the entry at a location.
* `makeDir_eq_ok`, `unlink_eq_ok`, `removeDir_eq_ok`: when an operation succeeds, and what it does.
-/

namespace TemplateTree

namespace Path

variable {p : Path}

/-- The first `k` names of a path. -/
def upTo (p : Path) (k : Nat) : Path :=
  ⟨p.root, p.parts.take k⟩

theorem parent_child (h : p.parts ≠ []) : p.parent.child p.name = p := by
  have hname : p.name = p.parts.getLast h := by
    rw [Path.name, List.getLast?_eq_some_getLast h]
    rfl
  simp [parent, child, hname, List.dropLast_concat_getLast h]

@[simp] theorem child_parent (p : Path) (name : String) : (p.child name).parent = p := by
  simp [parent, child]

@[simp] theorem child_name (p : Path) (name : String) : (p.child name).name = name := by
  simp [Path.name, child]

@[simp] theorem isAbsolute_descend (p : Path) (names : List String) :
    (p.descend names).isAbsolute = p.isAbsolute := rfl

@[simp] theorem descend_nil (p : Path) : p.descend [] = p := by
  simp [descend]

theorem descend_concat (p : Path) (names : List String) (name : String) :
    p.descend (names ++ [name]) = (p.descend names).child name := by
  simp [descend, child]

theorem parent_eq_upTo (p : Path) : p.parent = p.upTo (p.parts.length - 1) := by
  simp [parent, upTo, List.dropLast_eq_take]

theorem parent_of_parts_eq_nil (h : p.parts = []) : p.parent = p := by
  cases p
  simp_all [parent]

theorem not_mem_parent {name : String} (h : name ∉ p.parts) : name ∉ p.parent.parts :=
  fun hmem => h (List.dropLast_subset _ hmem)

theorem name_mem (h : p.parts ≠ []) : p.name ∈ p.parts := by
  rw [Path.name, List.getLast?_eq_some_getLast h]
  exact List.getLast_mem h

theorem upTo_upTo (p : Path) (j k : Nat) : (p.upTo k).upTo j = p.upTo (min j k) := by
  simp [upTo, List.take_take]

end Path

namespace FileSystem

variable {fs fs' A B : FileSystem} {p : Path} {x : Location} {s : Spot}

/-! ## Named entries -/

/-- A path names the entry at a location: its last name, in the directory that the rest leads to.
    Nothing needs to be there. -/
def Names (fs : FileSystem) (p : Path) (x : Location) : Prop :=
  p.parts ≠ [] ∧ p.name.utf8ByteSize ≤ nameLimit ∧ ∃ d, fs.LeadsTo p.parent d ∧ x = d ++ [p.name]

namespace Names

theorem ne_nil (h : fs.Names p x) : x ≠ [] := by
  obtain ⟨-, -, d, -, rfl⟩ := h
  simp

theorem unique {y : Location} (h : fs.Names p x) (h' : fs.Names p y) : x = y := by
  obtain ⟨-, -, d, hd, rfl⟩ := h
  obtain ⟨-, -, d', hd', rfl⟩ := h'
  rw [hd.unique hd']

theorem mono (hp : p.isAbsolute = true) (hext : Extends A B) (h : A.Names p x) : B.Names p x := by
  obtain ⟨hne, hsize, d, hd, rfl⟩ := h
  exact ⟨hne, hsize, d, hd.mono hp hext, rfl⟩

/-- The name of an entry is a possible one. -/
theorem isEntryName (h : fs.Names p x) (hdots : ".." ∉ p.parts) (hnul : hasNul p = false) :
    IsEntryName p.name := by
  have hmem := Path.name_mem h.1
  refine ⟨fun heq => hdots (heq ▸ hmem), h.2.1, ?_⟩
  simp only [hasNul, List.any_eq_false, List.contains_iff_mem] at hnul
  exact hnul _ hmem

end Names

theorem names_child {name : String} :
    fs.Names (p.child name) x ↔
      name.utf8ByteSize ≤ nameLimit ∧ ∃ d, fs.LeadsTo p d ∧ x = d ++ [name] := by
  simp only [Names, Path.child_name, Path.child_parent]
  simp [Path.child]

/-- A path without double dots leads to the entry that it names, or to the root directory. -/
theorem locate_false_eq_ok (hfs : fs.WellFormed) (hp : p.isAbsolute = true)
    (hdots : ".." ∉ p.parts) :
    fs.locate false p = .ok s ↔
      (p.parts = [] ∧ s = ⟨[], none⟩) ∨
        (fs.Names p s.location ∧ fs.LeadsTo p.parent s.directory ∧ s.name = some p.name) := by
  by_cases hparts : p.parts = []
  · rw [locate_of_isAbsolute hp, hparts]
    have hnil : fs.walk false linkLimit [] [] = .ok ⟨[], none⟩ := rfl
    rw [hnil]
    simp [Names, hparts, eq_comm]
  · have hname : p.name ≠ ".." := fun h => hdots (h ▸ Path.name_mem hparts)
    constructor
    · intro h
      rw [← Path.parent_child hparts] at h
      obtain ⟨d, hd⟩ := leadsTo_of_child hfs (p := p.parent) hp h
      obtain ⟨hsize, rfl⟩ := (hd.child (p := p.parent) hp hname).1 h
      exact .inr ⟨⟨hparts, hsize, d, hd, rfl⟩, hd, rfl⟩
    · rintro (⟨h, -⟩ | ⟨⟨-, hsize, -⟩, hd, hs⟩)
      · exact absurd h hparts
      · rw [← Path.parent_child hparts, hd.child (p := p.parent) hp hname]
        refine ⟨hsize, ?_⟩
        cases s
        simp_all

/-- What a path without double dots names when it is looked up. -/
theorem find_false_eq_ok (hfs : fs.WellFormed) (hp : p.isAbsolute = true)
    (hdots : ".." ∉ p.parts) :
    fs.find false p = .ok s ↔ hasNul p = false ∧
      ((p.parts = [] ∧ s = ⟨[], none⟩) ∨
        (fs.Names p s.location ∧ fs.LeadsTo p.parent s.directory ∧ s.name = some p.name)) := by
  rw [find_eq_ok, locate_false_eq_ok hfs hp hdots]

/-! ## Operations on one entry -/

/-- The spot of an entry. -/
theorem Names.spot (h : fs.Names p x) :
    ∃ s : Spot, s.location = x ∧ s.name = some p.name ∧ fs.LeadsTo p.parent s.directory := by
  obtain ⟨-, -, d, hd, rfl⟩ := h
  exact ⟨⟨d, some p.name⟩, rfl, rfl, hd⟩

theorem makeDir_eq_ok (hfs : fs.WellFormed) (hp : p.isAbsolute = true) (hdots : ".." ∉ p.parts) :
    fs.makeDir p = .ok fs' ↔ hasNul p = false ∧
      ∃ x, fs.Names p x ∧ fs.node? x = none ∧ fs' = fs.put x .directory := by
  simp only [makeDir, bind_eq_ok, find_false_eq_ok hfs hp hdots]
  constructor
  · rintro ⟨s, ⟨hnul, ⟨-, rfl⟩ | ⟨hx, -, hs⟩⟩, hok⟩
    · simp [throw, throwThe, MonadExceptOf.throw] at hok
    · rw [hs] at hok
      cases hnode : fs.node? s.location with
      | none =>
        rw [hnode] at hok
        cases hok
        exact ⟨hnul, _, hx, hnode, rfl⟩
      | some node =>
        rw [hnode] at hok
        cases hok
  · rintro ⟨hnul, x, hx, hnode, rfl⟩
    obtain ⟨s, rfl, hs, hd⟩ := hx.spot
    refine ⟨s, ⟨hnul, .inr ⟨hx, hd, hs⟩⟩, ?_⟩
    rw [hs, hnode]
    rfl

/-- What comes of making a directory inside a directory. -/
theorem makeDir_of_leadsTo {d : Location} (hp : p.isAbsolute = true) (hparts : p.parts ≠ [])
    (hdots : ".." ∉ p.parts) (hd : fs.LeadsTo p.parent d) :
    fs.makeDir p =
      if hasNul p = true then .error .nulByte
      else if nameLimit < p.name.utf8ByteSize then .error (.about .nameTooLong p.text)
      else if fs.node? (d ++ [p.name]) = none then .ok (fs.put (d ++ [p.name]) .directory)
      else .error (.about .exists p.text) := by
  have hname : p.name ≠ ".." := fun h => hdots (h ▸ Path.name_mem hparts)
  have hchild := Path.parent_child hparts
  unfold makeDir find
  split_ifs with hnul hsize hnone
  · rfl
  · rw [← hchild, hd.child_too_long (p := p.parent) hp hname hsize, hchild]
    rfl
  · have := (hd.child (p := p.parent) hp hname).2 ⟨Nat.le_of_not_lt hsize, rfl⟩
    rw [hchild] at this
    simp [this, Except.mapError, bind, Except.bind, Spot.location, hnone]
    rfl
  · have := (hd.child (p := p.parent) hp hname).2 ⟨Nat.le_of_not_lt hsize, rfl⟩
    rw [hchild] at this
    obtain ⟨node, hnode⟩ := Option.ne_none_iff_exists'.1 hnone
    simp [this, Except.mapError, bind, Except.bind, Spot.location, hnode]
    rfl

theorem unlink_eq_ok (hfs : fs.WellFormed) (hp : p.isAbsolute = true) (hdots : ".." ∉ p.parts) :
    fs.unlink p = .ok fs' ↔ hasNul p = false ∧
      ∃ x node, fs.Names p x ∧ fs.node? x = some node ∧ node ≠ .directory ∧ fs' = fs.erase x := by
  simp only [unlink, bind_eq_ok, find_false_eq_ok hfs hp hdots]
  constructor
  · rintro ⟨s, ⟨hnul, ⟨-, rfl⟩ | ⟨hx, -, hs⟩⟩, hok⟩
    · cases hok
    · rw [hs] at hok
      cases hnode : fs.node? s.location with
      | none =>
        rw [hnode] at hok
        cases hok
      | some node =>
        rw [hnode] at hok
        cases node <;> cases hok
        all_goals exact ⟨hnul, _, _, hx, hnode, by simp, rfl⟩
  · rintro ⟨hnul, x, node, hx, hnode, hne, rfl⟩
    obtain ⟨s, rfl, hs, hd⟩ := hx.spot
    refine ⟨s, ⟨hnul, .inr ⟨hx, hd, hs⟩⟩, ?_⟩
    rw [hs, hnode]
    cases node <;> first | rfl | exact absurd rfl hne

theorem removeDir_eq_ok (hfs : fs.WellFormed) (hp : p.isAbsolute = true)
    (hdots : ".." ∉ p.parts) :
    fs.removeDir p = .ok fs' ↔ hasNul p = false ∧
      ∃ x, fs.Names p x ∧ fs.node? x = some .directory ∧ (∀ name, fs.node? (x ++ [name]) = none) ∧
        fs' = fs.dropDirectory x := by
  have bare : ∀ x, (fs.children x).isEmpty = true ↔ ∀ name, fs.node? (x ++ [name]) = none := by
    intro x
    rw [List.isEmpty_iff, List.eq_nil_iff_forall_not_mem]
    simp [mem_children]
  simp only [removeDir, bind_eq_ok, find_false_eq_ok hfs hp hdots]
  constructor
  · rintro ⟨s, ⟨hnul, ⟨-, rfl⟩ | ⟨hx, -, hs⟩⟩, hok⟩
    · cases hok
    · rw [hs] at hok
      cases hnode : fs.node? s.location with
      | none =>
        rw [hnode] at hok
        cases hok
      | some node =>
        rw [hnode] at hok
        cases node with
        | file | link => cases hok
        | directory =>
          simp only at hok
          split_ifs at hok with hbare
          cases hok
          exact ⟨hnul, _, hx, hnode, (bare _).1 hbare, rfl⟩
  · rintro ⟨hnul, x, hx, hnode, hbare, rfl⟩
    obtain ⟨s, rfl, hs, hd⟩ := hx.spot
    refine ⟨s, ⟨hnul, .inr ⟨hx, hd, hs⟩⟩, ?_⟩
    rw [hs, hnode]
    simp only [(bare _).2 hbare, if_true]
    rfl

/-- The two paths in an error of a move. -/
def bothPaths (source target : Path) (e : Errno) : SystemError :=
  .failed e e.text (some source.text) (some target.text)

/-- What comes of moving a node over whatever is at another spot. -/
theorem replace_of_locate {source target : Path} {old new : Spot} {node : Node}
    (hnul : hasNul source = false) (hnul' : hasNul target = false)
    (hold : fs.locate false source = .ok old) (hnew : fs.locate false target = .ok new)
    (hnode : fs.node? old.location = some node) :
    fs.replace source target =
      if new.name.isNone then .error (bothPaths source target .busy)
      else if fs.isDirectoryAt new.location then .error (bothPaths source target .isDirectory)
      else .ok ((fs.erase old.location).put new.location node) := by
  simp only [replace, hnul, hnul', hold, hnew, Except.mapError, bind, Except.bind, hnode]
  split_ifs <;> first | rfl | simp_all

end FileSystem

end TemplateTree
