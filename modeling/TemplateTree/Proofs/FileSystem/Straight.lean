import TemplateTree.Proofs.FileSystem.Directories
import TemplateTree.Proofs.FileSystem.Pruning

/-!
# Directories along a straight path

Where no link is on the way, it is the names of a path that decide what becomes of making directories along
it: they are made if all that is there above is directories, and otherwise nothing changes.

* `locate_stopped`: a path that meets something other than a directory on its way.
* `makeDirs_straight`: making directories where everything on the way is one, or is not there.
* `makeDirs_behind_file`: making directories behind a file.
-/

namespace TemplateTree

namespace Path

variable {p : Path} {y : Location}

theorem parent_parts_append (hne : p.parts ≠ []) : p.parent.parts ++ [p.name] = p.parts :=
  congrArg Path.parts (parent_child hne)

theorem prefix_parts_iff (hne : p.parts ≠ []) : y <+: p.parts ↔ y = p.parts ∨ y <+: p.parent.parts := by
  rw [← parent_parts_append hne, List.prefix_concat_iff]

theorem ne_of_prefix_parent (hne : p.parts ≠ []) (hy : y <+: p.parent.parts) : y ≠ p.parts := by
  rintro rfl
  have := hy.length_le
  rw [← parent_parts_append hne, List.length_append, List.length_singleton] at this
  omega

end Path

namespace FileSystem

variable {fs : FileSystem} {follow : Bool} {on : LinkStep} {p : Path} {x y : Location}

/-! ## Where a path stops -/

/-- What a name that is no directory makes of a path that goes on behind it. -/
def stopError : Option Node → Errno
  | none => .noEntry
  | some _ => .notDirectory

theorem walkNames_stopped {rest : List String} (hrest : rest ≠ []) :
    ∀ names here, names ≠ [] → ".." ∉ names → (∀ n ∈ names, n.utf8ByteSize ≤ nameLimit) →
      (∀ y, y <+: names → y ≠ [] → y ≠ names → fs.node? (here ++ y) = some .directory) →
      fs.node? (here ++ names) ≠ some .directory → (∀ t, fs.node? (here ++ names) ≠ some (.link t)) →
      fs.walkNames follow on here (names ++ rest) = .error (stopError (fs.node? (here ++ names))) := by
  intro names
  induction names with
  | nil => exact fun _ h => absurd rfl h
  | cons name names ih =>
    intro here _ hdots hsize habove hdir hlink
    obtain ⟨hname, hdots⟩ : name ≠ ".." ∧ ".." ∉ names := by simpa [eq_comm] using hdots
    have hle : ¬nameLimit < name.utf8ByteSize := Nat.not_lt.2 (hsize name (by simp))
    rw [List.cons_append, walkNames, if_neg (by simpa using hname), if_neg hle]
    by_cases hnames : names = []
    · subst hnames
      cases hnode : fs.node? (here ++ [name]) with
      | none => simp [hrest, stopError]
      | some node =>
        cases node with
        | file => simp [hrest, stopError]
        | directory => exact absurd hnode hdir
        | link t => exact absurd hnode (hlink t)
    · have hhere : fs.node? (here ++ [name]) = some .directory :=
        habove [name] (by simp) (by simp) (by simpa using Ne.symm hnames)
      have hbelow : ∀ y, here ++ [name] ++ y = here ++ name :: y := fun y => by simp
      simp only [hhere, List.isEmpty_iff, List.append_eq_nil_iff, hnames, false_and, if_false]
      rw [← hbelow names] at hdir hlink ⊢
      refine ih _ hnames hdots (fun n hn => hsize n (by simp [hn])) (fun y hy _ hne => ?_) hdir hlink
      rw [hbelow]
      exact habove _ (List.cons_prefix_cons.2 ⟨rfl, hy⟩) (by simp) (by simpa using hne)

/-- A path stops at the first name on its way that is there as a file, or is not there. -/
theorem locate_stopped (hp : p.isAbsolute = true) (hdots : ".." ∉ p.parts)
    (hsize : ∀ n ∈ p.parts, n.utf8ByteSize ≤ nameLimit) (hy : y <+: p.parts) (hne : y ≠ p.parts)
    (habove : ∀ z, z <+: y → z ≠ y → fs.node? z = some .directory)
    (hdir : fs.node? y ≠ some .directory) (hlink : ∀ t, fs.node? y ≠ some (.link t)) :
    fs.locate follow p = .error (stopError (fs.node? y)) := by
  obtain ⟨rest, hrest⟩ := hy
  have hyne : y ≠ [] := by
    rintro rfl
    exact hdir (node?_nil fs)
  have hstop : ∀ on, fs.walkNames follow on [] p.parts = .error (stopError (fs.node? y)) := by
    intro on
    rw [← hrest]
    refine walkNames_stopped ?_ y [] hyne ?_ ?_ (fun z hz _ => habove z hz) hdir hlink
    · rintro rfl
      exact hne (by simpa using hrest)
    · exact fun h => hdots (hrest ▸ List.mem_append_left rest h)
    · exact fun n hn => hsize n (hrest ▸ List.mem_append_left rest hn)
  rw [locate_of_isAbsolute hp]
  cases linkLimit <;> exact hstop _

/-- Asking about such a path answers no. -/
theorem asks_stopped (node : Option Node) {ask : Node → Bool} (hp : p.isAbsolute = true)
    (hnul : hasNul p = false) (h : fs.locate follow p = .error (stopError node)) :
    fs.asks follow p ask = .ok false := by
  have hhere : isHere p = false := by simp [isHere, hp]
  simp only [asks, look, hhere, find, hnul, h, Except.mapError, bind, Except.bind, Bool.false_eq_true, if_false]
  cases node <;> rfl

/-- Everything that a file lies in is a directory. -/
theorem WellFormed.directory_above (hfs : fs.WellFormed) (hy : (fs.node? y).isSome) (hx : x <+: y) (hne : x ≠ y) :
    fs.node? x = some .directory := by
  obtain ⟨rest, rfl⟩ := hx
  by_contra hdir
  rw [hfs.node?_append_eq_none hdir rest fun h => hne (by simp [h])] at hy
  cases hy

/-- Where something on the way is missing, there is a first name that is. -/
theorem exists_first_missing (hfs : fs.WellFormed)
    (hdir : ∀ z, z <+: x → (fs.node? z).isSome → fs.node? z = some .directory) (hx : fs.node? x = none) :
    ∃ y, y <+: x ∧ fs.node? y = none ∧ ∀ z, z <+: y → z ≠ y → fs.node? z = some .directory := by
  induction x using List.reverseRecOn with
  | nil => simp at hx
  | append_singleton front name ih =>
    by_cases hfront : fs.node? front = none
    · obtain ⟨y, hy, hnone, habove⟩ := ih (fun z hz => hdir z (hz.trans (List.prefix_append _ _))) hfront
      exact ⟨y, hy.trans (List.prefix_append _ _), hnone, habove⟩
    · refine ⟨_, List.prefix_rfl, hx, fun z hz hne => ?_⟩
      obtain rfl | hz := List.prefix_concat_iff.1 hz
      · exact absurd rfl hne
      · have hthere := hdir front (List.prefix_append _ _) (Option.isSome_iff_ne_none.2 hfront)
        obtain ⟨rest, rfl⟩ := hz
        exact hfs.directory_of_append hthere

/-! ## Making directories -/

section

variable (hp : p.isAbsolute = true) (hdots : ".." ∉ p.parts) (hnul : hasNul p = false)

include hp hdots hnul

omit hp hdots in
/-- The error of making a directory behind a name that is no directory. -/
theorem makeDir_stopped {e : Errno} (h : fs.locate false p = .error e) :
    fs.makeDir p = .error (.about e p.text) := by
  simp only [makeDir, find, hnul, h, Except.mapError, bind, Except.bind, Bool.false_eq_true, if_false]

/-- The last of the directories, in one that is there. -/
theorem makeDir_straight (hfs : fs.WellFormed) (hne : p.parts ≠ [])
    (hsize : ∀ n ∈ p.parts, n.utf8ByteSize ≤ nameLimit)
    (habove : ∀ y, y <+: p.parent.parts → fs.node? y = some .directory) (hnone : fs.node? p.parts = none) :
    fs.makeDir p = .ok (fs.put p.parts .directory) ∧ (fs.put p.parts .directory).WellFormed ∧
      ∀ y, (fs.put p.parts .directory).node? y = if y <+: p.parts then some .directory else fs.node? y := by
  have hnames : fs.Names p p.parts := names_of_directories hp hne hdots hsize fun y hy hyne =>
    habove y (((Path.prefix_parts_iff hne).1 hy).resolve_left hyne)
  refine ⟨(makeDir_eq_ok hfs hp hdots).2 ⟨hnul, p.parts, hnames, hnone, rfl⟩,
    hnames.wellFormed_put hfs hdots hnul (by simp [hnone]) _, fun y => ?_⟩
  rw [node?_put fs hne]
  by_cases hy : y = p.parts
  · simp [hy]
  · rw [if_neg hy]
    split_ifs with hpre
    · exact habove y (((Path.prefix_parts_iff hne).1 hpre).resolve_left hy)
    · rfl

omit hnul in
/-- Where the directory above is missing, the error says so. -/
theorem locate_missing (hfs : fs.WellFormed) (hne : p.parts ≠ [])
    (hsize : ∀ n ∈ p.parts, n.utf8ByteSize ≤ nameLimit)
    (hdir : ∀ y, y <+: p.parts → (fs.node? y).isSome → fs.node? y = some .directory)
    (hup : fs.node? p.parent.parts = none) : fs.locate follow p = .error .noEntry := by
  have hpre : ∀ y, y <+: p.parent.parts → y <+: p.parts := fun y hy => (Path.prefix_parts_iff hne).2 (.inr hy)
  obtain ⟨y, hy, hnone, habove⟩ := exists_first_missing hfs (fun z hz => hdir z (hpre z hz)) hup
  have hstopped : fs.locate follow p = .error (stopError (fs.node? y)) :=
    locate_stopped hp hdots hsize (hpre y hy) (Path.ne_of_prefix_parent hne hy) habove (by simp [hnone])
      (by simp [hnone])
  rwa [hnone] at hstopped

/-- A directory that is there already does not have to be made. -/
theorem makeDirsWithin_present (hfs : fs.WellFormed) (hsize : ∀ n ∈ p.parts, n.utf8ByteSize ≤ nameLimit)
    (hdir : fs.node? p.parts = some .directory) (depth : Nat) :
    fs.makeDirsWithin (depth + 1) p = (fs, none) := by
  have hall : ∀ y, y <+: p.parts → fs.node? y = some .directory := by
    rintro y ⟨rest, hrest⟩
    exact hfs.directory_of_append (hrest ▸ hdir)
  have hmake : fs.makeDir p = .error (.about .exists p.text) := by
    by_cases hne : p.parts = []
    · have hlocate : fs.locate false p = .ok ⟨[], none⟩ := by
        rw [locate_of_isAbsolute hp, hne]
        rfl
      simp only [makeDir, find_eq_ok.2 ⟨hnul, hlocate⟩, bind, Except.bind]
      rfl
    · have habove : fs.LeadsTo p.parent p.parent.parts :=
        leadsTo_of_directories (p := p.parent) hp (Path.not_mem_parent hdots)
          (fun n hn => hsize n (List.dropLast_subset _ hn)) fun y hy =>
            hall y ((Path.prefix_parts_iff hne).2 (.inr hy))
      rw [makeDir_of_leadsTo hp hne hdots habove, Path.parent_parts_append hne, hnul, if_neg (by simp),
        if_neg (Nat.not_lt.2 (hsize _ (Path.name_mem hne))), if_neg (by simp [hdir])]
  have hpresent : fs.orPresent p (.about .exists p.text) = .ok fs := by
    rw [orPresent, (isDir_eq_true hp).2 ⟨hnul, _, leadsTo_of_directories hp hdots hsize hall⟩]
    rfl
  rw [makeDirsWithin, hmake]
  simp only [SystemError.about] at hpresent ⊢
  rw [hpresent]

theorem makeDirsWithin_straight (depth : Nat) (hfs : fs.WellFormed)
    (hsize : ∀ n ∈ p.parts, n.utf8ByteSize ≤ nameLimit) (hdepth : p.parts.length < depth)
    (hdir : ∀ y, y <+: p.parts → (fs.node? y).isSome → fs.node? y = some .directory) :
    ∃ B, fs.makeDirsWithin depth p = (B, none) ∧ B.WellFormed ∧ B.clock = fs.clock ∧
      ∀ y, B.node? y = if y <+: p.parts then some .directory else fs.node? y := by
  induction depth generalizing p with
  | zero => omega
  | succ depth ih =>
    cases hnode : fs.node? p.parts with
    | some node =>
      have hthere := hdir _ List.prefix_rfl (by rw [hnode]; rfl)
      refine ⟨fs, makeDirsWithin_present hp hdots hnul hfs hsize hthere depth, hfs, rfl, fun y => ?_⟩
      split_ifs with hy
      · obtain ⟨rest, hrest⟩ := hy
        exact hfs.directory_of_append (hrest ▸ hthere)
      · rfl
    | none =>
      have hne : p.parts ≠ [] := by
        intro hnil
        rw [hnil, node?_nil] at hnode
        cases hnode
      have hpre : ∀ y, y <+: p.parent.parts → y <+: p.parts := fun y hy =>
        (Path.prefix_parts_iff hne).2 (.inr hy)
      cases hup : fs.node? p.parent.parts with
      | some node =>
        have hthere := hdir _ (hpre _ List.prefix_rfl) (by rw [hup]; rfl)
        obtain ⟨hmake, hB, hBnode⟩ := makeDir_straight hp hdots hnul hfs hne hsize
          (fun y hy => by
            obtain ⟨rest, hrest⟩ := hy
            exact hfs.directory_of_append (hrest ▸ hthere)) hnode
        exact ⟨_, by rw [makeDirsWithin, hmake], hB, rfl, hBnode⟩
      | none =>
        -- The first attempt fails; then the directories above are made, and the last one.
        have hfirst := makeDir_stopped hnul (locate_missing hp hdots hfs hne hsize hdir hup)
        have hnul' : hasNul p.parent = false := by
          simp only [hasNul, List.any_eq_false] at hnul ⊢
          exact fun n hn => hnul n (List.dropLast_subset _ hn)
        have hlength : p.parent.parts.length < p.parts.length := by
          rw [← Path.parent_parts_append hne, List.length_append, List.length_singleton]
          omega
        obtain ⟨M, hM, hMwf, hclock, hMnode⟩ := ih (p := p.parent) hp (Path.not_mem_parent hdots) hnul'
          (fun n hn => hsize n (List.dropLast_subset _ hn)) (by omega) fun z hz => hdir z (hpre z hz)
        obtain ⟨hmake, hB, hBnode⟩ := makeDir_straight hp hdots hnul hMwf hne hsize
          (fun z hz => by rw [hMnode, if_pos hz])
          (by rw [hMnode, if_neg fun h => Path.ne_of_prefix_parent hne h rfl, hnode])
        have hroot : (p.parent == p) = false := by
          rw [beq_eq_false_iff_ne]
          exact fun h => Path.ne_of_prefix_parent hne List.prefix_rfl (congrArg Path.parts h)
        refine ⟨M.put p.parts .directory, ?_, hB, hclock, fun z => ?_⟩
        · rw [makeDirsWithin, hfirst]
          simp only [SystemError.about, hroot, hM, hmake, Bool.false_eq_true, if_false]
        · rw [hBnode, hMnode]
          by_cases hz : z <+: p.parts
          · rw [if_pos hz, if_pos hz]
          · rw [if_neg hz, if_neg hz, if_neg fun h => hz (hpre z h)]

/-- Where everything on the way is a directory or missing, the directories are made. -/
theorem makeDirs_straight (hfs : fs.WellFormed) (hsize : ∀ n ∈ p.parts, n.utf8ByteSize ≤ nameLimit)
    (hdir : ∀ y, y <+: p.parts → (fs.node? y).isSome → fs.node? y = some .directory) :
    ∃ B, fs.makeDirs p = (B, none) ∧ B.WellFormed ∧ B.clock = fs.clock ∧
      ∀ y, B.node? y = if y <+: p.parts then some .directory else fs.node? y :=
  makeDirsWithin_straight hp hdots hnul _ hfs hsize (Nat.lt_succ_self _) hdir

omit hdots in
/-- Behind a file no directory is made. -/
theorem makeDirs_behind_file (hstop : ∀ follow, fs.locate follow p = .error .notDirectory) :
    fs.makeDirs p = (fs, some (.about .notDirectory p.text)) := by
  have hmake := makeDir_stopped hnul (hstop false)
  have hhere : fs.isDir p = .ok false := asks_stopped (some .directory) hp hnul (hstop true)
  rw [makeDirs, makeDirsWithin, hmake]
  simp only [SystemError.about, orPresent, hhere]
  rfl

end

end FileSystem

end TemplateTree
