import TemplateTree.Proofs.FileSystem.Anywhere

/-!
# Making directories

What making a directory with all those above it comes to, at a path from the root directory without double dots.

* `makeDirs_isNewAt`: after success there is a directory under the path; unless it was there before, it
  is new and empty.
* `makeDirsWithin_failed`: after a failure nothing has changed, or a name on the path is too long.
-/

namespace TemplateTree.FileSystem

variable {fs A B C : FileSystem} {p : Path} {x : Location}

/-! ## A single directory -/

/-- A single new directory. -/
theorem Names.made (hp : p.isAbsolute = true) (h : fs.Names p x)
    (hnone : fs.node? x = none) : Made p fs (fs.put x .directory) := by
  have hext : Extends fs (fs.put x .directory) := by
    constructor
    · intro y hy
      rw [node?_put fs h.ne_nil, if_neg (by rintro rfl; simp [hnone] at hy), hy]
    · intro y t hy
      rw [node?_put fs h.ne_nil, if_neg (by rintro rfl; simp [hnone] at hy), hy]
  refine ⟨fun y => ?_, rfl⟩
  rw [node?_put fs h.ne_nil]
  split_ifs with hyx
  · refine .inr ⟨hyx ▸ hnone, rfl, p.parts.length, ?_⟩
    rw [hyx, Path.upTo, List.take_length]
    exact h.mono hp hext
  · exact .inl rfl

theorem Names.wellFormed_put (hfs : fs.WellFormed) (h : fs.Names p x) (hdots : ".." ∉ p.parts)
    (hnul : hasNul p = false) (hold : fs.node? x ≠ some .directory) (node : Node) :
    (fs.put x node).WellFormed := by
  have hname := h.isEntryName hdots hnul
  obtain ⟨-, -, d, hd, rfl⟩ := h
  exact hfs.put hd.1 hname hold node

/-! ## Making one directory after the other -/

theorem orPresent_eq_ok {e : SystemError} (h : fs.orPresent p e = .ok A) :
    fs.isDir p = .ok true := by
  unfold orPresent at h
  obtain ⟨b, hb, h⟩ := bind_eq_ok.1 h
  cases b with
  | true => exact hb
  | false => cases h

/-- Where the directory under a path was missing and has been made, it is empty. It is the last one that
    was made. -/
structure IsNewAt (fs : FileSystem) (p : Path) (x : Location) (B : FileSystem) : Prop where
  leadsTo : B.LeadsTo p x
  names : B.Names p x
  missing : fs.node? x = none
  bare : ∀ rest, rest ≠ [] → B.node? (x ++ rest) = none
  last : ∃ M : FileSystem, M.WellFormed ∧ M.Names p x ∧ M.node? x = none ∧ B = M.put x .directory

theorem isNewAt_put (hp : p.isAbsolute = true) (hdots : ".." ∉ p.parts) (hA : A.WellFormed)
    (hx : A.Names p x) (hnone : A.node? x = none) (hmiss : fs.node? x = none) :
    IsNewAt fs p x (A.put x .directory) := by
  have hnames : (A.put x .directory).Names p x := hx.mono hp (hx.made hp hnone).toExtends
  have hat : (A.put x .directory).node? x = some .directory := by
    rw [node?_put A hx.ne_nil, if_pos rfl]
  refine ⟨?_, hnames, hmiss, fun rest hrest => ?_, A, hA, hx, hnone, rfl⟩
  · obtain ⟨hparts, hsize, d, hd, rfl⟩ := hnames
    have hname : p.name ≠ ".." := fun h => hdots (h ▸ Path.name_mem hparts)
    have := hd.child_directory (p := p.parent) hp hname hsize hat
    rwa [Path.parent_child hparts] at this
  · rw [node?_put A hx.ne_nil, if_neg (by simpa using hrest)]
    exact hA.node?_append_eq_none (by simp [hnone]) rest hrest

theorem makeDirsWithin_isNewAt (hp : p.isAbsolute = true) (hdots : ".." ∉ p.parts)
    (hfs : fs.WellFormed) (depth : Nat) (h : fs.makeDirsWithin depth p = (B, none)) :
    (B = fs ∧ fs.isDir p = .ok true) ∨ ∃ x, IsNewAt fs p x B := by
  induction depth generalizing p B with
  | zero =>
    rw [makeDirsWithin] at h
    split at h
    · cases h
      obtain ⟨-, x, hx, hnone, rfl⟩ := (makeDir_eq_ok hfs hp hdots).1 ‹_›
      exact .inr ⟨x, isNewAt_put hp hdots hfs hx hnone hnone⟩
    · cases h
  | succ depth ih =>
    rw [makeDirsWithin] at h
    split at h
    · cases h
      obtain ⟨-, x, hx, hnone, rfl⟩ := (makeDir_eq_ok hfs hp hdots).1 ‹_›
      exact .inr ⟨x, isNewAt_put hp hdots hfs hx hnone hnone⟩
    · rename_i hno
      split at h
      · cases h
      · rename_i hroot
        have hparts : p.parts ≠ [] := by
          intro hnil
          rw [Path.parent_of_parts_eq_nil hnil] at hroot
          simp at hroot
        have hdots' := Path.not_mem_parent hdots
        have hname : p.name ≠ ".." := fun h => hdots (h ▸ Path.name_mem hparts)
        split at h
        · cases h
        · rename_i mid hrec
          -- The parent was missing: otherwise the attempt would have failed in another way.
          obtain ⟨-, hdir⟩ | ⟨y, hy⟩ := ih (p := p.parent) hp hdots' hrec
          · obtain ⟨-, d, hd⟩ := (isDir_eq_true (p := p.parent) hp).1 hdir
            rw [makeDir_of_leadsTo hp hparts hdots hd] at hno
            split_ifs at hno <;> cases hno
          · have hnone : mid.node? (y ++ [p.name]) = none := hy.bare _ (by simp)
            have hmid : mid.WellFormed := by
              have := (makeDirsWithin_grown hfs depth p.parent).wellFormed
              rwa [hrec] at this
            split at h
            · cases h
              obtain ⟨-, x, hx, hxnone, rfl⟩ := (makeDir_eq_ok hmid hp hdots).1 ‹_›
              refine .inr ⟨x, isNewAt_put hp hdots hmid hx hxnone ?_⟩
              obtain ⟨-, -, d, hd, rfl⟩ := hx
              rw [hd.unique hy.leadsTo]
              exact hfs.node?_append_eq_none (by simp [hy.missing]) _ (by simp)
            · rename_i hfail
              split at h
              · obtain ⟨hnul, z, -, s, hs, -⟩ := (isDir_eq_true hp).1 (orPresent_eq_ok ‹_›)
                rw [makeDir_of_leadsTo hp hparts hdots hy.leadsTo] at hfail
                split_ifs at hfail with hnul' hsize
                · simp [hnul] at hnul'
                · rw [← Path.parent_child hparts,
                    hy.leadsTo.child_too_long (p := p.parent) hp hname hsize] at hs
                  cases hs
              · cases h
    · cases h
    · split at h
      · cases h
        exact .inl ⟨rfl, orPresent_eq_ok ‹_›⟩
      · cases h

/-- A path on which a name is too long for the directory that it is in. -/
def IsBlocked (fs : FileSystem) (p : Path) : Prop :=
  ∃ k d name, fs.LeadsTo (p.upTo k) d ∧ p.parts[k]? = some name ∧ nameLimit < name.utf8ByteSize

/-- Such a path leads nowhere. -/
theorem IsBlocked.locate (h : fs.IsBlocked p) (hp : p.isAbsolute = true) (hdots : ".." ∉ p.parts)
    (follow : Bool) : fs.locate follow p = .error .nameTooLong := by
  obtain ⟨k, d, name, ⟨hdir, s, hs, rfl⟩, hname, hsize⟩ := h
  have hsplit : p.parts = p.parts.take k ++ name :: p.parts.drop (k + 1) := by
    obtain ⟨hk, rfl⟩ := List.getElem?_eq_some_iff.1 hname
    rw [← List.drop_eq_getElem_cons hk, List.take_append_drop]
  have hne : name ≠ ".." := by
    rintro rfl
    exact hdots (List.mem_of_getElem? hname)
  rw [locate_of_isAbsolute (p := p.upTo k) hp] at hs
  obtain ⟨left, hleft⟩ := walk_append (name :: p.parts.drop (k + 1)) (by simp) hdir _ _ _ hs
  rw [locate_of_isAbsolute hp, hsplit]
  refine (hleft follow).trans ?_
  cases left <;> simp [walk, walkNames, hne, hsize]

theorem IsBlocked.of_parent (h : fs.IsBlocked p.parent) : fs.IsBlocked p := by
  obtain ⟨k, d, name, hd, hname, hsize⟩ := h
  have hk : k < p.parts.length - 1 := by
    have := (List.getElem?_eq_some_iff.1 hname).1
    rwa [Path.parent, List.length_dropLast] at this
  refine ⟨k, d, name, ?_, ?_, hsize⟩
  · rwa [Path.parent_eq_upTo, Path.upTo_upTo, Nat.min_eq_left (by omega)] at hd
  · rwa [Path.parent, List.getElem?_dropLast, if_pos hk] at hname

theorem hasNul_of_noEntry {words : String} {path target : Option String}
    (h : fs.makeDir p = .error (.failed .noEntry words path target)) : hasNul p = false := by
  cases hnul : hasNul p with
  | false => rfl
  | true =>
    simp only [makeDir, find, hnul, if_true, bind, Except.bind] at h
    cases h

/-- Where directories cannot be made, nothing has changed, or a name is too long in the last one that could
    be made. -/
theorem makeDirsWithin_failed (hp : p.isAbsolute = true) (hdots : ".." ∉ p.parts)
    (hfs : fs.WellFormed) (depth : Nat) {e : SystemError} (h : fs.makeDirsWithin depth p = (B, some e)) :
    B = fs ∨ (hasNul p = false ∧ B.IsBlocked p) := by
  induction depth generalizing p B e with
  | zero =>
    rw [makeDirsWithin] at h
    split at h
    · cases h
    · cases h
      exact .inl rfl
  | succ depth ih =>
    rw [makeDirsWithin] at h
    split at h
    · cases h
    · rename_i hno
      split at h
      · cases h
        exact .inl rfl
      · rename_i hroot
        have hnul := hasNul_of_noEntry hno
        have hparts : p.parts ≠ [] := by
          intro hnil
          rw [Path.parent_of_parts_eq_nil hnil] at hroot
          simp at hroot
        have hdots' := Path.not_mem_parent hdots
        have hname : p.name ≠ ".." := fun h => hdots (h ▸ Path.name_mem hparts)
        split at h
        · rename_i mid e' hrec
          cases h
          exact (ih (p := p.parent) hp hdots' hrec).imp id fun hblocked => ⟨hnul, hblocked.2.of_parent⟩
        · rename_i mid hrec
          obtain ⟨-, hdir⟩ | ⟨y, hy⟩ := makeDirsWithin_isNewAt (p := p.parent) hp hdots' hfs depth hrec
          · obtain ⟨-, d, hd⟩ := (isDir_eq_true (p := p.parent) hp).1 hdir
            rw [makeDir_of_leadsTo hp hparts hdots hd] at hno
            split_ifs at hno <;> cases hno
          · have hnone : mid.node? (y ++ [p.name]) = none := hy.bare _ (by simp)
            -- The directory is new, so that nothing but the name can be in the way.
            have hblocked : nameLimit < p.name.utf8ByteSize → mid.IsBlocked p := by
              intro hsize
              refine ⟨p.parts.length - 1, y, p.name, Path.parent_eq_upTo p ▸ hy.leadsTo, ?_, hsize⟩
              rw [← List.getLast?_eq_getElem?, Path.name, List.getLast?_eq_some_getLast hparts]
              rfl
            split at h
            · cases h
            · rename_i hfail
              rw [makeDir_of_leadsTo hp hparts hdots hy.leadsTo] at hfail
              split_ifs at hfail with hnul' hsize
              · simp [hnul] at hnul'
              · split at h
                · cases h
                · cases h
                  exact .inr ⟨hnul, hblocked hsize⟩
    · cases h
      exact .inl rfl
    · split at h
      · cases h
      · cases h
        exact .inl rfl

theorem makeDirs_isNewAt (hp : p.isAbsolute = true) (hdots : ".." ∉ p.parts) (hfs : fs.WellFormed)
    (h : fs.makeDirs p = (B, none)) :
    (B = fs ∧ fs.isDir p = .ok true) ∨ ∃ x, IsNewAt fs p x B :=
  makeDirsWithin_isNewAt hp hdots hfs _ h

/-- After success the path leads to a directory. -/
theorem makeDirs_leadsTo (hp : p.isAbsolute = true) (hdots : ".." ∉ p.parts) (hfs : fs.WellFormed)
    (h : fs.makeDirs p = (B, none)) : ∃ x, B.LeadsTo p x := by
  obtain ⟨rfl, hdir⟩ | ⟨x, hx⟩ := makeDirs_isNewAt hp hdots hfs h
  · exact ((isDir_eq_true hp).1 hdir).2
  · exact ⟨x, hx.leadsTo⟩

end TemplateTree.FileSystem
