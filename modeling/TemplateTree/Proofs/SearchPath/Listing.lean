import Mathlib.Data.List.Sort
import TemplateTree.Proofs.Output.Clearing
import TemplateTree.Proofs.SearchPath.Resolving

/-!
# What lies below a directory

The relative paths of everything below a directory that leads to no directory itself. Links are not entered. A walk
gives them in a fixed order: first the files of a directory and then what lies in its subdirectories, by name.

* `ComesBefore`: the order.
* `listed`: the relative paths, as a walk comes across them.
* `Lies`, `mem_listed`, `listed_ordered`: these are the relative paths of what lies there, in order.
* `leadsTo_of_isDir`: a directory under the absolute form of its path.
-/

namespace TemplateTree

open FileSystem Output

variable {fs : FileSystem} {path : Path} {x : Location}

/-! ## The order of relative paths -/

/-- Whether a relative path comes before another one: the files of a directory come before everything in its
    subdirectories, and each are in the order of their names. -/
def ComesBefore : List String → List String → Prop
  | [x], [y] => x < y
  | [_], _ :: _ :: _ => True
  | x :: a :: as, y :: b :: bs => x < y ∨ (x = y ∧ ComesBefore (a :: as) (b :: bs))
  | _, _ => False

namespace ComesBefore

theorem irrefl : ∀ a, ¬ComesBefore a a
  | [] => id
  | [x] => String.lt_irrefl x
  | x :: a :: as => by
    rintro (h | ⟨-, h⟩)
    · exact String.lt_irrefl x h
    · exact irrefl (a :: as) h

theorem trans : ∀ {a b c}, ComesBefore a b → ComesBefore b c → ComesBefore a c
  | [], _, _, h, _ => h.elim
  | [_], [_], [_], h, h' => String.lt_trans h h'
  | [_], [_], _ :: _ :: _, _, _ => trivial
  | [_], _ :: _ :: _, _ :: _ :: _, _, _ => trivial
  | x :: a :: as, y :: b :: bs, z :: c :: cs, h, h' => by
    rcases h with hxy | ⟨rfl, hab⟩ <;> rcases h' with hyz | ⟨rfl, hbc⟩
    · exact .inl (String.lt_trans hxy hyz)
    · exact .inl hxy
    · exact .inl hyz
    · exact .inr ⟨rfl, trans hab hbc⟩

theorem cons (x : String) : ∀ {a b}, ComesBefore a b → ComesBefore (x :: a) (x :: b)
  | _ :: _, _ :: _, h => .inr ⟨rfl, h⟩
  | [], _, h => h.elim
  | [_], [], h => h.elim
  | _ :: _ :: _, [], h => h.elim

theorem of_lt {x y : String} (h : x < y) : ∀ {a b}, a ≠ [] → b ≠ [] → ComesBefore (x :: a) (y :: b)
  | _ :: _, _ :: _, _, _ => .inl h
  | [], _, ha, _ => absurd rfl ha
  | _ :: _, [], _, hb => absurd rfl hb

theorem of_file (x y : String) : ∀ {b}, b ≠ [] → ComesBefore [x] (y :: b)
  | _ :: _, _ => trivial
  | [], hb => absurd rfl hb

instance : IsStrictOrder (List String) ComesBefore where
  irrefl := irrefl
  trans _ _ _ := trans

end ComesBefore

/-! ## What lies below a directory -/

namespace FileSystem

/-- The relative paths of what lies below a directory and leads to no directory, in order. Directories are nested
    at most `depth` deep. -/
def listed (fs : FileSystem) : Nat → Path → List (List String)
  | 0, _ => []
  | depth + 1, path =>
    match fs.scan path with
    | .error _ => []
    | .ok listing =>
      listing.others.map (fun name => [name]) ++
        listing.directories.flatMap fun name =>
          if fs.isLinkEntry (path.child name) then []
          else (listed fs depth (path.child name)).map (name :: ·)

/-- Whether something lies at a relative path below a directory, in real directories all the way, and leads to no
    directory itself. -/
structure Lies (fs : FileSystem) (path : Path) (segments : List String) : Prop where
  proper : segments ≠ []
  there : ∃ x, fs.LeadsTo path x ∧ (fs.node? (x ++ segments)).isSome
  noDirectory : ∀ y, ¬fs.LeadsTo (path.descend segments) y

/-- The order by insertion, which evaluates where the order by merging does not. -/
theorem children_eq_insertionSort (fs : FileSystem) (x : Location) :
    fs.children x = (fs.nodes.filterMap fun e => nameIn? x e.1).insertionSort (· ≤ ·) :=
  List.mergeSort_eq_insertionSort _ _

/-- The names in a directory are in order. -/
theorem children_ordered (hfs : fs.WellFormed) (x : Location) : (fs.children x).Pairwise (· < ·) := by
  have hsorted : (fs.children x).Pairwise fun a b => nameLe a b = true := by
    refine List.pairwise_mergeSort (fun a b c hab hbc => ?_) (fun a b => ?_) _
    · simp only [nameLe, decide_eq_true_eq] at hab hbc ⊢
      exact String.le_trans hab hbc
    · simp only [nameLe, Bool.or_eq_true, decide_eq_true_eq]
      exact String.le_total a b
  refine (hsorted.and (nodup_children hfs x)).imp fun hle => ?_
  obtain ⟨hle, hne⟩ := hle
  simp only [nameLe, decide_eq_true_eq] at hle
  exact String.not_le.1 fun hge => hne (String.le_antisymm hle hge)

theorem leadsToDirectory_eq_true {name : String} (hp : path.isAbsolute = true) :
    fs.leadsToDirectory path name = true ↔
      hasNul (path.child name) = false ∧ ∃ y, fs.LeadsTo (path.child name) y := by
  rw [← isDir_eq_true (p := path.child name) hp, leadsToDirectory]
  cases fs.isDir (path.child name) with
  | ok b => simp
  | error e => simp

/-- A walk goes on from the real directories in a directory. -/
theorem enters_iff (hfs : fs.WellFormed) (hp : path.isAbsolute = true) (hnul : hasNul path = false)
    (hx : fs.LeadsTo path x) {name : String} :
    (name ∈ fs.children x ∧ fs.leadsToDirectory path name = true ∧ fs.isLinkEntry (path.child name) = false) ↔
      fs.node? (x ++ [name]) = some .directory := by
  constructor
  · rintro ⟨hmem, hdir, hlink⟩
    exact (leadsTo_of_leadsToDirectory hfs hp (isEntryName_of_mem_children hfs hmem).1 hx hdir hlink).1
  · intro hdir
    have hmem : name ∈ fs.children x := mem_children.2 (by rw [hdir]; rfl)
    have hname := isEntryName_of_mem_children hfs hmem
    have hnul' : hasNul (path.child name) = false := hasNul_child hnul hname
    have hlead := hx.child_directory hp hname.1 hname.2.1 hdir
    refine ⟨hmem, (leadsToDirectory_eq_true hp).2 ⟨hnul', _, hlead⟩, ?_⟩
    have hlook : fs.look false (path.child name) = .ok .directory :=
      (look_eq_ok (p := path.child name) hp).2
        ⟨hnul', _, (hx.child hp hname.1).2 ⟨hname.2.1, rfl⟩, hdir⟩
    simp [isLinkEntry, isLink, asks, hlook]

theorem lies_singleton (hfs : fs.WellFormed) (hp : path.isAbsolute = true) (hnul : hasNul path = false)
    (hx : fs.LeadsTo path x) {name : String} :
    fs.Lies path [name] ↔ name ∈ fs.children x ∧ fs.leadsToDirectory path name = false := by
  rw [mem_children, ← Bool.not_eq_true, leadsToDirectory_eq_true hp]
  constructor
  · rintro ⟨-, ⟨y, hy, hthere⟩, hno⟩
    rw [hx.unique hy]
    exact ⟨hthere, fun ⟨_, z, hz⟩ => hno z hz⟩
  · rintro ⟨hthere, hno⟩
    refine ⟨by simp, ⟨x, hx, hthere⟩, fun z hz => hno ⟨?_, z, hz⟩⟩
    exact hasNul_child hnul (isEntryName_of_mem_children hfs (mem_children.2 hthere))

theorem lies_cons (hfs : fs.WellFormed) (hp : path.isAbsolute = true) (hx : fs.LeadsTo path x) {name : String}
    {rest : List String} (hrest : rest ≠ []) :
    fs.Lies path (name :: rest) ↔
      fs.node? (x ++ [name]) = some .directory ∧ fs.Lies (path.child name) rest := by
  have hdescend : path.descend (name :: rest) = (path.child name).descend rest := by
    simp [Path.descend, Path.child]
  have hsplit : x ++ name :: rest = x ++ [name] ++ rest := by simp
  have hlead : fs.node? (x ++ [name]) = some .directory → fs.LeadsTo (path.child name) (x ++ [name]) :=
    fun hdir =>
      have hname : IsEntryName name := hfs.named _ _ _ hdir
      hx.child_directory hp hname.1 hname.2.1 hdir
  constructor
  · rintro ⟨-, ⟨y, hy, hthere⟩, hno⟩
    obtain rfl := hx.unique hy
    rw [hsplit] at hthere
    have hdir : fs.node? (x ++ [name]) = some .directory := by
      by_contra hdir
      rw [hfs.node?_append_eq_none hdir rest hrest] at hthere
      cases hthere
    exact ⟨hdir, hrest, ⟨_, hlead hdir, hthere⟩, hdescend ▸ hno⟩
  · rintro ⟨hdir, -, ⟨y, hy, hthere⟩, hno⟩
    rw [← (hlead hdir).unique hy, ← hsplit] at hthere
    exact ⟨by simp, ⟨x, hx, hthere⟩, hdescend ▸ hno⟩

theorem ne_nil_of_mem_listed {depth : Nat} {segments : List String} (h : segments ∈ fs.listed depth path) :
    segments ≠ [] := by
  cases depth with
  | zero => cases h
  | succ depth =>
    rw [listed] at h
    cases hscan : fs.scan path with
    | error e =>
      rw [hscan] at h
      cases h
    | ok listing =>
      rw [hscan] at h
      obtain h | h := List.mem_append.1 h
      · obtain ⟨name, -, rfl⟩ := List.mem_map.1 h
        simp
      · obtain ⟨name, -, h⟩ := List.mem_flatMap.1 h
        split_ifs at h
        · cases h
        · obtain ⟨rest, -, rfl⟩ := List.mem_map.1 h
          simp

/-- The relative paths that a walk goes through are those of what lies below. -/
theorem mem_listed (hfs : fs.WellFormed) (hp : path.isAbsolute = true) (hnul : hasNul path = false)
    (hx : fs.LeadsTo path x) {depth : Nat}
    (hdepth : ∀ segments, (fs.node? (x ++ segments)).isSome → segments.length ≤ depth) {segments : List String} :
    segments ∈ fs.listed depth path ↔ fs.Lies path segments := by
  induction depth generalizing path x segments with
  | zero =>
    refine ⟨nofun, fun ⟨hproper, ⟨y, hy, hthere⟩, _⟩ => ?_⟩
    rw [← hx.unique hy] at hthere
    exact absurd (List.length_eq_zero_iff.1 (Nat.le_zero.1 (hdepth _ hthere))) hproper
  | succ depth ih =>
    cases segments with
    | nil => exact ⟨fun h => absurd rfl (ne_nil_of_mem_listed h), fun h => absurd rfl h.proper⟩
    | cons name rest =>
      rw [listed, scan_of_leadsTo hnul hx]
      simp only [List.mem_append, List.mem_map, List.mem_flatMap, List.mem_filter]
      by_cases hrest : rest = []
      · subst hrest
        rw [lies_singleton hfs hp hnul hx]
        constructor
        · rintro (⟨name', ⟨hmem, hno⟩, heq⟩ | ⟨name', -, h⟩)
          · obtain rfl : name' = name := by simpa using heq
            exact ⟨hmem, by simpa using hno⟩
          · split_ifs at h
            · cases h
            · obtain ⟨rest, hrest, heq⟩ := List.mem_map.1 h
              exact absurd (List.cons.inj heq).2 (ne_nil_of_mem_listed hrest)
        · exact fun ⟨hmem, hno⟩ => .inl ⟨name, ⟨hmem, by simpa using hno⟩, rfl⟩
      · rw [lies_cons hfs hp hx hrest]
        have hbelow : fs.node? (x ++ [name]) = some .directory →
            (rest ∈ fs.listed depth (path.child name) ↔ fs.Lies (path.child name) rest) := by
          intro hdir
          obtain ⟨hmem, -, -⟩ := (enters_iff hfs hp hnul hx).2 hdir
          have hname := isEntryName_of_mem_children hfs hmem
          have hp' : (path.child name).isAbsolute = true := hp
          refine ih hp' (hasNul_child hnul hname)
            (hx.child_directory hp hname.1 hname.2.1 hdir) fun names hnames => ?_
          have := hdepth (name :: names) (by rwa [List.append_cons])
          simpa using this
        constructor
        · rintro (⟨name', -, heq⟩ | ⟨name', hmem, h⟩)
          · exact absurd (List.cons.inj heq).2.symm hrest
          · split_ifs at h with hlink
            · cases h
            · obtain ⟨rest', hmem', heq⟩ := List.mem_map.1 h
              obtain ⟨rfl, rfl⟩ := List.cons.inj heq
              have hdir := (enters_iff hfs hp hnul hx).1 ⟨hmem.1, hmem.2, by simpa using hlink⟩
              exact ⟨hdir, (hbelow hdir).1 hmem'⟩
        · rintro ⟨hdir, hlies⟩
          obtain ⟨hmem, hlead, hlink⟩ := (enters_iff hfs hp hnul hx).2 hdir
          refine .inr ⟨name, ⟨hmem, hlead⟩, ?_⟩
          rw [if_neg (by simp [hlink])]
          exact List.mem_map.2 ⟨rest, (hbelow hdir).2 hlies, rfl⟩

/-- A walk goes through them in order. -/
theorem listed_ordered (hfs : fs.WellFormed) (depth : Nat) (path : Path) :
    (fs.listed depth path).Pairwise ComesBefore := by
  induction depth generalizing path with
  | zero => exact .nil
  | succ depth ih =>
    rw [listed]
    cases hscan : fs.scan path with
    | error e => exact .nil
    | ok listing =>
      obtain ⟨x, -, hdirs, hothers⟩ := scan_eq_ok hscan
      have hordered := children_ordered hfs x
      dsimp only
      rw [hdirs, hothers, List.pairwise_append, List.pairwise_map, List.pairwise_flatMap]
      refine ⟨hordered.filter _, ⟨fun name _ => ?_, ?_⟩, ?_⟩
      · split_ifs
        · exact .nil
        · exact List.pairwise_map.2 ((ih _).imp (.cons name))
      · refine (hordered.filter _).imp fun {name name'} hlt a ha b hb => ?_
        split_ifs at ha hb
        · cases ha
        · cases ha
        · cases hb
        · obtain ⟨rest, hrest, rfl⟩ := List.mem_map.1 ha
          obtain ⟨rest', hrest', rfl⟩ := List.mem_map.1 hb
          exact .of_lt hlt (ne_nil_of_mem_listed hrest) (ne_nil_of_mem_listed hrest')
      · intro a ha b hb
        obtain ⟨name, -, rfl⟩ := List.mem_map.1 ha
        obtain ⟨name', -, hb⟩ := List.mem_flatMap.1 hb
        split_ifs at hb
        · cases hb
        · obtain ⟨rest, hrest, rfl⟩ := List.mem_map.1 hb
          exact .of_file name name' (ne_nil_of_mem_listed hrest)

end FileSystem

/-! ## The absolute form of a source -/

namespace FileSystem

variable {follow : Bool} {on : LinkStep} {here : Location} {names rest : List String} {root : Path}

theorem walkNames_along (hfs : fs.WellFormed) (hdir : fs.node? (here ++ names) = some .directory)
    (hrest : rest ≠ []) :
    fs.walkNames follow on here (names ++ rest) = fs.walkNames follow on (here ++ names) rest := by
  induction names generalizing here with
  | nil => simp
  | cons name names ih =>
    rw [List.append_cons] at hdir ⊢
    have hhere := hfs.directory_of_append hdir
    obtain ⟨hname, hsize, -⟩ := hfs.named _ _ _ hhere
    have hmore : names ++ rest ≠ [] := by simp [hrest]
    rw [← ih hdir, List.cons_append, walkNames, if_neg (by simpa using hname), if_neg (Nat.not_lt.2 hsize)]
    simp [hhere, hmore]

/-- A path that leads to a directory leads there in its absolute form. -/
theorem LeadsTo.absolute (hfs : fs.WellFormed) (h : fs.LeadsTo root x) (habs : fs.absolute root = .ok path) :
    fs.LeadsTo path x := by
  obtain ⟨hdir, s, hs, rfl⟩ := h
  obtain ⟨hfixed, rfl⟩ := SearchPath.absolute_eq_ok.1 habs
  by_cases hroot : root.isAbsolute = true
  · have hself : root.absolute fs.workPath = root := by simp [Path.absolute, Path.join, hroot]
    rw [hself]
    exact ⟨hdir, s, hs, rfl⟩
  · have hlost : fs.workDirLost = false := by
      by_contra hlost
      exact hroot (hfixed (by simpa using hlost))
    have hpath : root.absolute fs.workPath = ⟨.single, fs.workDir ++ root.parts⟩ := by
      simp [Path.absolute, Path.join, hroot, workPath]
    have hwork := hfs.workDir hlost
    rw [locate, if_neg hroot, if_neg (by simp [hlost])] at hs
    rw [hpath]
    by_cases hparts : root.parts = []
    · rw [hparts] at hs ⊢
      obtain rfl : s = ⟨fs.workDir, none⟩ := by cases hs; rfl
      simp only [List.append_nil, Spot.location, Option.toList_none]
      exact leadsTo_of_directories (p := ⟨.single, fs.workDir⟩) rfl (hfs.workDir_names hlost)
        (fun name hname => (hfs.isEntryName_of_mem (by rw [hwork]; rfl) hname).2.1)
        fun y hy => by
          obtain ⟨rest, hrest⟩ := hy
          exact hfs.directory_of_append (show fs.node? (y ++ rest) = some .directory by rw [hrest, hwork])
    · refine ⟨hdir, s, ?_, rfl⟩
      rw [locate_of_isAbsolute rfl, ← hs]
      have halong : ∀ on, fs.walkNames true on [] (fs.workDir ++ root.parts)
          = fs.walkNames true on fs.workDir root.parts :=
        fun on => walkNames_along hfs (show fs.node? ([] ++ fs.workDir) = some .directory from hwork) hparts
      cases linkLimit <;> exact halong _

theorem hasNul_absolute (hfs : fs.WellFormed) (hnul : hasNul root = false) (habs : fs.absolute root = .ok path) :
    hasNul path = false := by
  unfold FileSystem.absolute at habs
  split_ifs at habs with hroot hlost
  · cases habs
    exact hnul
  · cases habs
    rw [Bool.not_eq_true] at hlost
    have hparts : (root.absolute fs.workPath).parts = fs.workDir ++ root.parts := by
      simp [Path.absolute, Path.join, hroot, workPath]
    have hwork : ∀ name ∈ fs.workDir, Char.ofNat 0 ∉ name.toList := fun name hname =>
      (hfs.isEntryName_of_mem (by rw [hfs.workDir hlost]; rfl) hname).2.2
    simp only [hasNul, List.any_eq_false, List.contains_iff_mem] at hnul ⊢
    intro name hname
    exact (List.mem_append.1 (hparts ▸ hname)).elim (hwork name) (hnul name)

/-- The absolute form of a source that is a directory leads to that. -/
theorem leadsTo_of_isDir (hfs : fs.WellFormed) (hdir : fs.isDir root = .ok true)
    (habs : fs.absolute root = .ok path) : hasNul path = false ∧ ∃ x, fs.LeadsTo path x := by
  suffices hroot : hasNul root = false ∧ ∃ x, fs.LeadsTo root x by
    obtain ⟨hnul, x, hx⟩ := hroot
    exact ⟨hasNul_absolute hfs hnul habs, x, hx.absolute hfs habs⟩
  obtain ⟨node, hlook, hnode⟩ := (asks_eq_true _).1 hdir
  obtain rfl : node = .directory := by
    cases node with
    | directory => rfl
    | file | link => cases hnode
  by_cases hhere : isHere root = true
  · have hparts : root.isAbsolute = false ∧ root.parts = [] := by simpa [isHere] using hhere
    have hlost : fs.workDirLost = false := by
      by_contra hlost
      have := (SearchPath.absolute_eq_ok.1 habs).1 (by simpa using hlost)
      simp [hparts.1] at this
    refine ⟨by simp [hasNul, hparts.2], fs.workDir, hfs.workDir hlost, ⟨fs.workDir, none⟩, ?_, ?_⟩
    · rw [locate, if_neg (by simp [hparts.1]), if_neg (by simp [hlost]), hparts.2]
      rfl
    · simp [Spot.location]
  · rw [look, if_neg hhere] at hlook
    obtain ⟨s, hs, hlook⟩ := bind_eq_ok.1 hlook
    obtain ⟨hnul, hs⟩ := find_eq_ok.1 hs
    refine ⟨hnul, s.location, ?_, s, hs, rfl⟩
    cases hat : fs.node? s.location with
    | none =>
      rw [hat] at hlook
      cases hlook
    | some node =>
      rw [hat] at hlook
      cases hlook
      rfl

end FileSystem

end TemplateTree
