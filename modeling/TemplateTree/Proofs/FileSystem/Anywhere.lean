import TemplateTree.Proofs.FileSystem.Entries

/-!
# Paths from anywhere

What holds of every path, also of one that starts at the current directory or has double dots in it, and also
where that directory has been removed.

* `Widens`: a file system with more directories and links, and the same current directory.
* `locate_widens`: a path leads to the same place in it.
* `spot_of_locate`: a path that leads to a name leads there by its own last name.
* `Made`: some file system with directories in addition, each under a path or above it.
* `Grown`, `makeDirs_grown`: making directories makes those and nothing else, also if it fails half-way.
-/

namespace TemplateTree.FileSystem

variable {fs A B C : FileSystem} {follow : Bool} {p : Path} {s : Spot} {x : Location} {name : String}

/-! ## Where a path starts -/

/-- Where following a path starts. There is no such place for a relative path when the current directory has
    been removed. -/
def StartsAt (fs : FileSystem) (p : Path) (x : Location) : Prop :=
  if p.isAbsolute then x = [] else fs.workDirLost = false ∧ x = fs.workDir

theorem StartsAt.locate (h : fs.StartsAt p x) (follow : Bool) :
    fs.locate follow p = fs.walk follow linkLimit x p.parts := by
  unfold StartsAt at h
  by_cases hp : p.isAbsolute = true
  · rw [if_pos hp] at h
    rw [FileSystem.locate, if_pos hp, h]
  · rw [if_neg hp] at h
    rw [FileSystem.locate, if_neg hp, h.1, if_neg (by simp), h.2]

theorem StartsAt.directory (hfs : fs.WellFormed) (h : fs.StartsAt p x) : fs.node? x = some .directory := by
  unfold StartsAt at h
  split_ifs at h
  · rw [h, node?_nil]
  · rw [h.2]
    exact hfs.workDir h.1

/-- A path that can be followed starts somewhere, or it is the current directory. -/
theorem startsAt_of_locate (h : fs.locate follow p = .ok s) :
    (∃ x, fs.StartsAt p x) ∨ (p.isAbsolute = false ∧ p.parts = [] ∧ fs.workDirLost = true ∧ s = ⟨fs.workDir, none⟩) := by
  cases hp : p.isAbsolute with
  | true => exact .inl ⟨[], by simp [StartsAt, hp]⟩
  | false =>
    cases hlost : fs.workDirLost with
    | false => exact .inl ⟨fs.workDir, by simp [StartsAt, hp, hlost]⟩
    | true =>
      simp only [FileSystem.locate, hp, hlost, if_true, Bool.false_eq_true, if_false] at h
      split_ifs at h with hparts
      cases h
      exact .inr ⟨rfl, by simpa using hparts, rfl, rfl⟩

/-! ## More nodes -/

/-- One file system has the directories and links of another, and the same current directory. -/
structure Widens (A B : FileSystem) : Prop extends Extends A B where
  workDir : B.workDir = A.workDir
  workDirLost : B.workDirLost = A.workDirLost

/-- A file in place of an entry, whatever that was, adds no directories and links. -/
theorem Widens.of_file {content : ByteArray} {mode stamp : Nat}
    (hnode : ∀ y, B.node? y = if y = x then some (.file content mode stamp) else A.node? y)
    (hwork : B.workDir = A.workDir) (hlost : B.workDirLost = A.workDirLost) : Widens B A := by
  refine ⟨⟨fun y hy => ?_, fun y t hy => ?_⟩, hwork.symm, hlost.symm⟩
  all_goals
    rw [hnode] at hy
    split_ifs at hy
    · cases hy
    · exact hy

/-- In place of something else than a directory or link, it takes none away. -/
theorem Widens.to_file {content : ByteArray} {mode stamp : Nat}
    (hnode : ∀ y, B.node? y = if y = x then some (.file content mode stamp) else A.node? y)
    (hwork : B.workDir = A.workDir) (hlost : B.workDirLost = A.workDirLost)
    (hdir : A.node? x ≠ some .directory) (hlink : ∀ t, A.node? x ≠ some (.link t)) : Widens A B := by
  refine ⟨⟨fun y hy => ?_, fun y t hy => ?_⟩, hwork, hlost⟩
  · rw [hnode, if_neg (by rintro rfl; exact hdir hy), hy]
  · rw [hnode, if_neg (by rintro rfl; exact hlink t hy), hy]

theorem StartsAt.widens (h : A.StartsAt p x) (hext : Widens A B) : B.StartsAt p x := by
  unfold StartsAt at h ⊢
  rwa [hext.workDir, hext.workDirLost]

theorem locate_widens (hext : Widens A B)
    (hend : follow = true → ∀ t, B.node? s.location ≠ some (.link t)) (hs : A.locate follow p = .ok s) :
    B.locate follow p = .ok s := by
  obtain ⟨x, hx⟩ | ⟨hp, hparts, hlost, rfl⟩ := startsAt_of_locate hs
  · rw [hx.locate] at hs
    rw [(hx.widens hext).locate]
    exact walk_mono hext.toExtends (fun hfollow _ => hend hfollow) _ _ _ hs
  · simp [FileSystem.locate, hp, hparts, hext.workDir, hext.workDirLost, hlost]

theorem LeadsTo.widens (h : A.LeadsTo p x) (hext : Widens A B) : B.LeadsTo p x := by
  obtain ⟨hdir, s, hs, rfl⟩ := h
  have hdir' := hext.directory _ hdir
  exact ⟨hdir', s, locate_widens hext (fun _ t => by simp [hdir']) hs, rfl⟩

theorem Names.widens (h : A.Names p x) (hext : Widens A B) : B.Names p x := by
  obtain ⟨hne, hsize, d, hd, rfl⟩ := h
  exact ⟨hne, hsize, d, hd.widens hext, rfl⟩

/-- Where the end of a path is no link, it does not matter whether links are followed there. -/
theorem locate_true_of_false (hend : ∀ t, fs.node? s.location ≠ some (.link t))
    (hs : fs.locate false p = .ok s) : fs.locate true p = .ok s := by
  obtain ⟨x, hx⟩ | ⟨hp, hparts, hlost, rfl⟩ := startsAt_of_locate hs
  · rw [hx.locate] at hs ⊢
    exact walk_followed hend _ _ _ hs
  · simp [FileSystem.locate, hp, hparts, hlost]

/-- A path that can be followed to its end can be followed but for the last link. -/
theorem locate_false_of_true (hs : fs.locate true p = .ok s) :
    ∃ s', fs.locate false p = .ok s' ∧ (s' = s ∨ ∃ t, fs.node? s'.location = some (.link t)) := by
  obtain ⟨x, hx⟩ | ⟨hp, hparts, hlost, rfl⟩ := startsAt_of_locate hs
  · rw [hx.locate] at hs ⊢
    exact walk_unfollowed _ _ _ hs
  · exact ⟨_, by simp [FileSystem.locate, hp, hparts, hlost], .inl rfl⟩

/-! ## The last name -/

/-- A path that leads to a name has that as its last name, in the directory that the rest leads to. -/
theorem spot_of_locate (hfs : fs.WellFormed) (hs : fs.locate false p = .ok s) (hname : s.name = some name) :
    name = p.name ∧ name ≠ ".." ∧ fs.Names p s.location ∧ fs.LeadsTo p.parent s.directory := by
  obtain ⟨start, hstart⟩ | ⟨-, -, -, rfl⟩ := startsAt_of_locate hs
  · rw [hstart.locate] at hs
    have hne : p.parts ≠ [] := by
      intro hnil
      rw [hnil] at hs
      cases hs
      cases hname
    have hparts : p.parts = p.parent.parts ++ [p.name] := (congrArg Path.parts (Path.parent_child hne)).symm
    rw [hparts] at hs
    obtain ⟨d, left, hd, hdir, hs⟩ := walk_concat hfs _ _ _ (hstart.directory hfs) hs
    have hdots : p.name ≠ ".." := by
      intro hdots
      rw [hdots] at hs
      cases left <;>
      · simp only [walk, walkNames] at hs
        cases hs
        cases hname
    obtain ⟨hsize, rfl⟩ := (walk_last hdots left).1 hs
    have hlead : fs.LeadsTo p.parent d.location :=
      ⟨hdir, d, by rw [StartsAt.locate (p := p.parent) hstart, hd], rfl⟩
    obtain rfl : p.name = name := by simpa using hname
    exact ⟨rfl, hdots, ⟨hne, hsize, d.location, hlead, rfl⟩, hlead⟩
  · cases hname

/-! ## Making directories -/

theorem makeDir_ok (h : A.makeDir p = .ok B) :
    ∃ s name, hasNul p = false ∧ A.locate false p = .ok s ∧ s.name = some name ∧ A.node? s.location = none ∧
      B = A.put s.location .directory := by
  obtain ⟨s, hfind, h⟩ := bind_eq_ok.1 h
  obtain ⟨hnul, hs⟩ := find_eq_ok.1 hfind
  split at h
  · rename_i hname hnone
    cases h
    exact ⟨s, _, hnul, hs, hname, hnone, rfl⟩
  · cases h

/-- `B` is `A` with some more directories, which lie under the path or above it. -/
structure Made (p : Path) (A B : FileSystem) : Prop where
  node : ∀ x, B.node? x = A.node? x ∨
    (A.node? x = none ∧ B.node? x = some .directory ∧ ∃ k, B.Names (p.upTo k) x)
  clock : B.clock = A.clock

namespace Made

theorem refl (p : Path) (A : FileSystem) : Made p A A :=
  ⟨fun _ => .inl rfl, rfl⟩

/-- What was there is there as it was. -/
theorem keeps (h : Made p A B) {node : Node} (hx : A.node? x = some node) :
    B.node? x = some node := by
  obtain heq | ⟨hnone, -⟩ := h.node x
  · rw [heq, hx]
  · rw [hx] at hnone
    cases hnone

theorem toExtends (h : Made p A B) : Extends A B :=
  ⟨fun _ hx => h.keeps hx, fun _ _ hx => h.keeps hx⟩

theorem of_parent (h : Made p.parent A B) : Made p A B := by
  refine ⟨fun x => (h.node x).imp id ?_, h.clock⟩
  rintro ⟨hnone, hdir, k, hk⟩
  rw [Path.parent_eq_upTo, Path.upTo_upTo] at hk
  exact ⟨hnone, hdir, _, hk⟩

end Made

/-- `B` is `A` with some more directories, and is well-formed, with the same current directory. -/
structure Grown (p : Path) (A B : FileSystem) : Prop extends Made p A B where
  wellFormed : B.WellFormed
  workDir : B.workDir = A.workDir
  workDirLost : B.workDirLost = A.workDirLost

namespace Grown

theorem widens (h : Grown p A B) : Widens A B :=
  ⟨h.toMade.toExtends, h.workDir, h.workDirLost⟩

theorem refl (hA : A.WellFormed) (p : Path) : Grown p A A :=
  ⟨.refl p A, hA, rfl, rfl⟩

theorem trans (h : Grown p A B) (h' : Grown p B C) : Grown p A C := by
  refine ⟨⟨fun x => ?_, h'.clock.trans h.clock⟩, h'.wellFormed, h'.workDir.trans h.workDir,
    h'.workDirLost.trans h.workDirLost⟩
  obtain heq | ⟨hnone, hdir, k, hk⟩ := h'.node x
  · obtain heq' | ⟨hnone, hdir, k, hk⟩ := h.node x
    · exact .inl (heq.trans heq')
    · exact .inr ⟨hnone, heq.trans hdir, k, hk.widens h'.widens⟩
  · obtain heq' | ⟨-, hdir', -⟩ := h.node x
    · exact .inr ⟨heq' ▸ hnone, hdir, k, hk⟩
    · rw [hdir'] at hnone
      cases hnone

theorem of_parent (h : Grown p.parent A B) : Grown p A B :=
  ⟨h.toMade.of_parent, h.wellFormed, h.workDir, h.workDirLost⟩

end Grown

theorem makeDir_grown (hA : A.WellFormed) (h : A.makeDir p = .ok B) : Grown p A B := by
  obtain ⟨s, name, hnul, hs, hname, hnone, rfl⟩ := makeDir_ok h
  obtain ⟨rfl, hdots, hnames, hlead⟩ := spot_of_locate hA hs hname
  have hne := hnames.ne_nil
  have hkeep : ∀ y node, A.node? y = some node → (A.put s.location .directory).node? y = some node := by
    intro y node hy
    rw [node?_put A hne, if_neg (by rintro rfl; simp [hnone] at hy), hy]
  have hwidens : Widens A (A.put s.location .directory) :=
    ⟨⟨fun y => hkeep y _, fun y t => hkeep y _⟩, rfl, rfl⟩
  have hentry : IsEntryName p.name := by
    refine ⟨hdots, hnames.2.1, ?_⟩
    simp only [hasNul, List.any_eq_false, List.contains_iff_mem] at hnul
    exact hnul _ (Path.name_mem hnames.1)
  have hlocation : s.location = s.directory ++ [p.name] := by simp [Spot.location, hname]
  refine ⟨⟨fun y => ?_, rfl⟩, ?_, rfl, rfl⟩
  · rw [node?_put A hne]
    split_ifs with hy
    · refine .inr ⟨hy ▸ hnone, rfl, p.parts.length, ?_⟩
      rw [hy, Path.upTo, List.take_length]
      exact hnames.widens hwidens
    · exact .inl rfl
  · rw [hlocation] at hnone ⊢
    exact hA.put hlead.1 hentry (by simp [hnone]) _

/-- However far making directories gets, what is new are directories under the path or above it. -/
theorem makeDirsWithin_grown (hA : A.WellFormed) (depth : Nat) (p : Path) :
    Grown p A (A.makeDirsWithin depth p).1 := by
  induction depth generalizing p with
  | zero =>
    rw [makeDirsWithin]
    split
    · exact makeDir_grown hA ‹_›
    · exact .refl hA p
  | succ depth ih =>
    rw [makeDirsWithin]
    split
    · exact makeDir_grown hA ‹_›
    · split
      · exact .refl hA p
      · have above := ih p.parent
        split <;> rename_i hrec <;> rw [hrec] at above
        · exact above.of_parent
        · split
          · exact above.of_parent.trans (makeDir_grown above.wellFormed ‹_›)
          · split <;> exact above.of_parent
    · exact .refl hA p
    · split <;> exact .refl hA p

theorem makeDirs_grown (hA : A.WellFormed) (p : Path) : Grown p A (A.makeDirs p).1 :=
  makeDirsWithin_grown hA _ p

end TemplateTree.FileSystem
