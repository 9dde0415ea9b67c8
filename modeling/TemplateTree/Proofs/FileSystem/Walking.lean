import TemplateTree.Proofs.FileSystem.Nodes

/-!
# Following paths

How the place that a path leads to depends on the nodes of the file system, and on the parts of the path.
All paths here start at the root directory.

* `walk_mono`: a path that can be followed leads to the same place where every directory and link that
  is met is still there.
* `walk_append`, `walk_concat`: following the parts of a path one after the other.
* `walk_rename`, `walk_unfollowed`, `walk_followed`: what the last name of a path changes.
* `LeadsTo`: a path leads to a directory; `LeadsTo.child`, `leadsTo_of_child`: one name further.
-/

namespace TemplateTree.FileSystem

variable {fs A B : FileSystem} {follow : Bool} {on : LinkStep} {here : Location} {s : Spot}

/-! ## One name -/

@[simp] theorem walkNames_up (fs : FileSystem) (follow : Bool) (on : LinkStep) (here : Location)
    (rest : List String) :
    fs.walkNames follow on here (".." :: rest) = fs.walkNames follow on here.dropLast rest := by
  simp [walkNames]

/-- What is known when a name has been followed: it is the last one, or names a directory to go on
    from, or a link. -/
theorem walkNames_cons_eq_ok {name : String} {rest : List String} (hname : name ≠ "..") :
    fs.walkNames follow on here (name :: rest) = .ok s ↔
      name.utf8ByteSize ≤ nameLimit ∧
        ((rest = [] ∧ s = ⟨here, some name⟩ ∧
            (follow = true → ∀ t, fs.node? (here ++ [name]) ≠ some (.link t))) ∨
          (rest ≠ [] ∧ fs.node? (here ++ [name]) = some .directory ∧
            fs.walkNames follow on (here ++ [name]) rest = .ok s) ∨
          (∃ t, fs.node? (here ++ [name]) = some (.link t) ∧ (rest ≠ [] ∨ follow = true) ∧
            on here t rest = .ok s)) := by
  rw [walkNames, if_neg (by simpa using hname)]
  by_cases hsize : nameLimit < name.utf8ByteSize
  · simp [hsize, Nat.not_le.2 hsize]
  · have hle : name.utf8ByteSize ≤ nameLimit := Nat.le_of_not_lt hsize
    rw [if_neg hsize]
    by_cases hrest : rest = []
    · cases hnode : fs.node? (here ++ [name]) with
      | none => simp [hrest, hle, eq_comm]
      | some node =>
        cases node with
        | file | directory => simp [hrest, hle, eq_comm]
        | link target => cases follow <;> simp [hrest, hle, eq_comm]
    · cases hnode : fs.node? (here ++ [name]) with
      | none => simp [hrest]
      | some node => cases node <;> simp [hrest, hle]

/-! ## More nodes -/

/-- Every directory and link of one file system is in another. -/
structure Extends (A B : FileSystem) : Prop where
  directory : ∀ x, A.node? x = some .directory → B.node? x = some .directory
  link : ∀ x t, A.node? x = some (.link t) → B.node? x = some (.link t)

namespace Extends

theorem refl (A : FileSystem) : Extends A A := ⟨fun _ h => h, fun _ _ h => h⟩

theorem trans {C : FileSystem} (h : Extends A B) (h' : Extends B C) : Extends A C :=
  ⟨fun x hx => h'.directory x (h.directory x hx), fun x t hx => h'.link x t (h.link x t hx)⟩

end Extends

theorem walkNames_mono {onA onB : LinkStep} (h : Extends A B)
    (hend : follow = true → (∀ t, A.node? s.location ≠ some (.link t)) →
      ∀ t, B.node? s.location ≠ some (.link t))
    (hon : ∀ here t rest, onA here t rest = .ok s → onB here t rest = .ok s) :
    ∀ names here, A.walkNames follow onA here names = .ok s →
      B.walkNames follow onB here names = .ok s := by
  intro names
  induction names with
  | nil => intro here hA; exact hA
  | cons name rest ih =>
    intro here hA
    by_cases hname : name = ".."
    · rw [hname, walkNames_up] at hA ⊢
      exact ih _ hA
    · rw [walkNames_cons_eq_ok hname] at hA ⊢
      obtain ⟨hsize, ⟨hrest, rfl, hplain⟩ | ⟨hrest, hdir, hA⟩ | ⟨t, hlink, hgo, hA⟩⟩ := hA
      · exact ⟨hsize, .inl ⟨hrest, rfl, fun hfollow => hend hfollow (hplain hfollow)⟩⟩
      · exact ⟨hsize, .inr (.inl ⟨hrest, h.directory _ hdir, ih _ hA⟩)⟩
      · exact ⟨hsize, .inr (.inr ⟨t, h.link _ _ hlink, hgo, hon _ _ _ hA⟩)⟩

/-- A path that leads to a spot still leads there when nodes are added, as long as it does not end in a
    link that would be followed. -/
theorem walk_mono (h : Extends A B)
    (hend : follow = true → (∀ t, A.node? s.location ≠ some (.link t)) →
      ∀ t, B.node? s.location ≠ some (.link t)) :
    ∀ budget here names, A.walk follow budget here names = .ok s →
      B.walk follow budget here names = .ok s := by
  intro budget
  induction budget with
  | zero =>
    intro here names
    exact walkNames_mono h hend (fun _ _ _ h => h) names here
  | succ budget ih =>
    intro here names
    exact walkNames_mono h hend (fun _ _ _ h => ih _ _ h) names here

/-! ## Paths in parts -/

theorem walkNames_append (ys : List String) (hys : ys ≠ [])
    (hdir : fs.node? s.location = some .directory) :
    ∀ xs here, fs.walkNames true on here xs = .ok s →
      (∀ f on', fs.walkNames f on' here (xs ++ ys) = fs.walkNames f on' s.location ys) ∨
      ∃ h t r, on h t r = .ok s ∧
        ∀ f on', fs.walkNames f on' here (xs ++ ys) = on' h t (r ++ ys) := by
  intro xs
  induction xs with
  | nil =>
    intro here hx
    cases hx
    exact .inl fun f on' => by simp [Spot.location]
  | cons name rest ih =>
    intro here hx
    by_cases hname : name = ".."
    · rw [hname, walkNames_up] at hx
      rw [hname]
      simpa using ih _ hx
    · obtain ⟨hsize, ⟨rfl, rfl, -⟩ | ⟨-, hnode, hx⟩ | ⟨t, hlink, -, hx⟩⟩ :=
        (walkNames_cons_eq_ok hname).1 hx
      · have hnode : fs.node? (here ++ [name]) = some .directory := hdir
        refine .inl fun f on' => ?_
        simp [walkNames, hname, Nat.not_lt.2 hsize, hnode, hys, Spot.location]
      · have step : ∀ f on', fs.walkNames f on' here (name :: (rest ++ ys)) =
            fs.walkNames f on' (here ++ [name]) (rest ++ ys) := by
          intro f on'
          simp [walkNames, hname, Nat.not_lt.2 hsize, hnode, hys]
        simpa only [List.cons_append, step] using ih _ hx
      · refine .inr ⟨here, t, rest, hx, fun f on' => ?_⟩
        simp [walkNames, hname, Nat.not_lt.2 hsize, hlink, hys]

/-- A path goes on from the directory that its first part leads to. -/
theorem walk_append (ys : List String) (hys : ys ≠ [])
    (hdir : fs.node? s.location = some .directory) :
    ∀ budget here xs, fs.walk true budget here xs = .ok s →
      ∃ left, ∀ f, fs.walk f budget here (xs ++ ys) = fs.walk f left s.location ys := by
  intro budget
  induction budget with
  | zero =>
    intro here xs hx
    obtain h | ⟨_, _, _, h, -⟩ := walkNames_append ys hys hdir xs here hx
    · exact ⟨0, fun f => h f _⟩
    · cases h
  | succ budget ih =>
    intro here xs hx
    obtain h | ⟨h', t, r, hlink, h⟩ := walkNames_append ys hys hdir xs here hx
    · exact ⟨budget + 1, fun f => h f _⟩
    · obtain ⟨left, hleft⟩ := ih _ _ hlink
      refine ⟨left, fun f => ?_⟩
      rw [← hleft f, List.append_assoc]
      exact h f _

theorem walkNames_concat {name : String} (hfs : fs.WellFormed) :
    ∀ xs here, fs.node? here = some .directory →
      fs.walkNames follow on here (xs ++ [name]) = .ok s →
      (∃ d, (∀ on', fs.walkNames true on' here xs = .ok d) ∧
        fs.node? d.location = some .directory ∧
        fs.walkNames follow on d.location [name] = .ok s) ∨
      ∃ h t r, (∀ on', fs.walkNames true on' here xs = on' h t r) ∧
        fs.node? h = some .directory ∧ on h t (r ++ [name]) = .ok s := by
  intro xs
  induction xs with
  | nil =>
    intro here hhere hx
    exact .inl ⟨⟨here, none⟩, fun _ => rfl, by simpa [Spot.location] using hhere,
      by simpa [Spot.location] using hx⟩
  | cons n rest ih =>
    intro here hhere hx
    by_cases hn : n = ".."
    · rw [hn] at hx ⊢
      rw [List.cons_append, walkNames_up] at hx
      simpa using ih _ (hfs.dropLast_directory hhere) hx
    · obtain ⟨hsize, ⟨hnil, -⟩ | ⟨-, hnode, hx⟩ | ⟨t, hlink, -, hx⟩⟩ :=
        (walkNames_cons_eq_ok hn).1 hx
      · simp at hnil
      · by_cases hrest : rest = []
        · subst hrest
          refine .inl ⟨⟨here, some n⟩, fun on' => ?_, hnode, hx⟩
          rw [walkNames_cons_eq_ok hn]
          exact ⟨hsize, .inl ⟨rfl, rfl, fun _ t => by simp [hnode]⟩⟩
        · have step : ∀ on', fs.walkNames true on' here (n :: rest) =
              fs.walkNames true on' (here ++ [n]) rest := by
            intro on'
            simp [walkNames, hn, Nat.not_lt.2 hsize, hnode, hrest]
          simpa only [step] using ih _ hnode hx
      · refine .inr ⟨here, t, rest, fun on' => ?_, hhere, hx⟩
        simp [walkNames, hn, Nat.not_lt.2 hsize, hlink]

/-- Before the last name of a path, a directory has been reached. -/
theorem walk_concat {name : String} (hfs : fs.WellFormed) :
    ∀ budget here xs, fs.node? here = some .directory →
      fs.walk follow budget here (xs ++ [name]) = .ok s →
      ∃ d left, fs.walk true budget here xs = .ok d ∧
        fs.node? d.location = some .directory ∧
        fs.walk follow left d.location [name] = .ok s := by
  intro budget
  induction budget with
  | zero =>
    intro here xs hhere hx
    obtain ⟨d, hd, hdir, hx⟩ | ⟨_, _, _, -, -, h⟩ := walkNames_concat hfs xs here hhere hx
    · exact ⟨d, 0, hd _, hdir, hx⟩
    · cases h
  | succ budget ih =>
    intro here xs hhere hx
    obtain ⟨d, hd, hdir, hx⟩ | ⟨h, t, r, hlink, hdir, hx⟩ :=
      walkNames_concat hfs xs here hhere hx
    · exact ⟨d, budget + 1, hd _, hdir, hx⟩
    · have hbase : fs.node? (if (Path.parse t).isAbsolute then [] else h) = some .directory := by
        split <;> simp [hdir]
      simp only [← List.append_assoc] at hx
      obtain ⟨d, left, hd, hdir, hx⟩ := ih _ _ hbase hx
      exact ⟨d, left, (hlink _).trans hd, hdir, hx⟩

theorem walk_last {name : String} (hname : name ≠ "..") (budget : Nat) :
    fs.walk false budget here [name] = .ok s ↔
      name.utf8ByteSize ≤ nameLimit ∧ s = ⟨here, some name⟩ := by
  cases budget <;> simp [walk, walkNames_cons_eq_ok hname]

theorem walk_last_follow {name : String} (hname : name ≠ "..") (budget : Nat)
    (hlink : ∀ t, fs.node? (here ++ [name]) ≠ some (.link t)) :
    fs.walk true budget here [name] = .ok s ↔
      name.utf8ByteSize ≤ nameLimit ∧ s = ⟨here, some name⟩ := by
  cases budget <;> simp [walk, walkNames_cons_eq_ok hname, hlink]

/-! ## The last name -/

theorem walkNames_rename {on : LinkStep} {old new : String} (hold : old ≠ "..") (hnew : new ≠ "..")
    (hsize : new.utf8ByteSize ≤ old.utf8ByteSize)
    (hon : ∀ h t r s, on h t (r ++ [old]) = .ok s →
      s.name = some old ∧ on h t (r ++ [new]) = .ok ⟨s.directory, some new⟩) :
    ∀ names here, fs.walkNames false on here (names ++ [old]) = .ok s →
      s.name = some old ∧
        fs.walkNames false on here (names ++ [new]) = .ok ⟨s.directory, some new⟩ := by
  intro names
  induction names with
  | nil =>
    intro here hs
    obtain ⟨hle, ⟨-, rfl, -⟩ | ⟨hne, -⟩ | ⟨t, -, hne | hne, -⟩⟩ := (walkNames_cons_eq_ok hold).1 hs
    · exact ⟨rfl, (walkNames_cons_eq_ok hnew).2 ⟨Nat.le_trans hsize hle, .inl ⟨rfl, rfl, nofun⟩⟩⟩
    · exact absurd rfl hne
    · exact absurd rfl hne
    · cases hne
  | cons name rest ih =>
    intro here hs
    rw [List.cons_append] at hs ⊢
    by_cases hname : name = ".."
    · rw [hname, walkNames_up] at hs ⊢
      exact ih _ hs
    · obtain ⟨hle, ⟨hnil, -⟩ | ⟨-, hdir, hs⟩ | ⟨t, hlink, -, hs⟩⟩ := (walkNames_cons_eq_ok hname).1 hs
      · simp at hnil
      · obtain ⟨hs, hrename⟩ := ih _ hs
        exact ⟨hs, (walkNames_cons_eq_ok hname).2 ⟨hle, .inr (.inl ⟨by simp, hdir, hrename⟩)⟩⟩
      · obtain ⟨hs, hrename⟩ := hon _ _ _ _ hs
        exact ⟨hs, (walkNames_cons_eq_ok hname).2
          ⟨hle, .inr (.inr ⟨t, hlink, .inl (by simp), hrename⟩)⟩⟩

/-- Where a path leads is known for every last name if it is known for one. -/
theorem walk_rename {old new : String} (hold : old ≠ "..") (hnew : new ≠ "..")
    (hsize : new.utf8ByteSize ≤ old.utf8ByteSize) :
    ∀ budget here names s, fs.walk false budget here (names ++ [old]) = .ok s →
      s.name = some old ∧
        fs.walk false budget here (names ++ [new]) = .ok ⟨s.directory, some new⟩ := by
  intro budget
  induction budget with
  | zero =>
    intro here names s hs
    exact walkNames_rename hold hnew hsize (fun _ _ _ _ h => by cases h) names here hs
  | succ budget ih =>
    intro here names s hs
    refine walkNames_rename hold hnew hsize (fun h t r s hs => ?_) names here hs
    simp only [← List.append_assoc] at hs ⊢
    exact ih _ _ s hs

theorem walkNames_unfollowed {on on' : LinkStep}
    (hon : ∀ h t r, on h t r = .ok s → ∃ s', on' h t r = .ok s' ∧
      (s' = s ∨ ∃ t, fs.node? s'.location = some (.link t))) :
    ∀ names here, fs.walkNames true on here names = .ok s →
      ∃ s', fs.walkNames false on' here names = .ok s' ∧
        (s' = s ∨ ∃ t, fs.node? s'.location = some (.link t)) := by
  intro names
  induction names with
  | nil =>
    intro here hs
    exact ⟨s, hs, .inl rfl⟩
  | cons name rest ih =>
    intro here hs
    by_cases hname : name = ".."
    · rw [hname, walkNames_up] at hs ⊢
      exact ih _ hs
    · simp only [walkNames_cons_eq_ok hname] at hs ⊢
      obtain ⟨hle, ⟨hrest, rfl, -⟩ | ⟨hrest, hdir, hs⟩ | ⟨t, hlink, -, hs⟩⟩ := hs
      · exact ⟨_, ⟨hle, .inl ⟨hrest, rfl, nofun⟩⟩, .inl rfl⟩
      · obtain ⟨s', hs', hend⟩ := ih _ hs
        exact ⟨s', ⟨hle, .inr (.inl ⟨hrest, hdir, hs'⟩)⟩, hend⟩
      · by_cases hrest : rest = []
        · exact ⟨⟨here, some name⟩, ⟨hle, .inl ⟨hrest, rfl, nofun⟩⟩, .inr ⟨t, hlink⟩⟩
        · obtain ⟨s', hs', hend⟩ := hon _ _ _ hs
          exact ⟨s', ⟨hle, .inr (.inr ⟨t, hlink, .inl hrest, hs'⟩)⟩, hend⟩

/-- A path that leads somewhere also does if a link at its end is not followed: to the same place, or to
    that link. -/
theorem walk_unfollowed :
    ∀ budget here names, fs.walk true budget here names = .ok s →
      ∃ s', fs.walk false budget here names = .ok s' ∧
        (s' = s ∨ ∃ t, fs.node? s'.location = some (.link t)) := by
  intro budget
  induction budget with
  | zero => exact fun here names => walkNames_unfollowed (fun _ _ _ h => by cases h) names here
  | succ budget ih => exact fun here names => walkNames_unfollowed (fun _ _ _ h => ih _ _ h) names here

theorem walkNames_followed {on on' : LinkStep} (hend : ∀ t, fs.node? s.location ≠ some (.link t))
    (hon : ∀ h t r, on h t r = .ok s → on' h t r = .ok s) :
    ∀ names here, fs.walkNames false on here names = .ok s →
      fs.walkNames true on' here names = .ok s := by
  intro names
  induction names with
  | nil =>
    intro here hs
    exact hs
  | cons name rest ih =>
    intro here hs
    by_cases hname : name = ".."
    · rw [hname, walkNames_up] at hs ⊢
      exact ih _ hs
    · rw [walkNames_cons_eq_ok hname] at hs ⊢
      obtain ⟨hle, ⟨hrest, rfl, -⟩ | ⟨hrest, hdir, hs⟩ | ⟨t, hlink, hgo, hs⟩⟩ := hs
      · exact ⟨hle, .inl ⟨hrest, rfl, fun _ => hend⟩⟩
      · exact ⟨hle, .inr (.inl ⟨hrest, hdir, ih _ hs⟩)⟩
      · exact ⟨hle, .inr (.inr ⟨t, hlink, .inr rfl, hon _ _ _ hs⟩)⟩

/-- Where no link is at the end of a path, none has to be followed there. -/
theorem walk_followed (hend : ∀ t, fs.node? s.location ≠ some (.link t)) :
    ∀ budget here names, fs.walk false budget here names = .ok s →
      fs.walk true budget here names = .ok s := by
  intro budget
  induction budget with
  | zero => exact fun here names => walkNames_followed hend (fun _ _ _ h => by cases h) names here
  | succ budget ih =>
    exact fun here names => walkNames_followed hend (fun _ _ _ h => ih _ _ h) names here

/-! ## Looking at a path -/

variable {p : Path} {x : Location} {name : String}

theorem locate_of_isAbsolute (hp : p.isAbsolute = true) (fs : FileSystem) (follow : Bool) :
    fs.locate follow p = fs.walk follow linkLimit [] p.parts := by
  simp [locate, hp]

theorem locate_mono (hp : p.isAbsolute = true) (h : Extends A B)
    (hend : follow = true → ∀ t, B.node? s.location ≠ some (.link t))
    (hs : A.locate follow p = .ok s) : B.locate follow p = .ok s := by
  rw [locate_of_isAbsolute hp] at hs ⊢
  exact walk_mono h (fun hfollow _ => hend hfollow) _ _ _ hs

theorem find_eq_ok : fs.find follow p = .ok s ↔ hasNul p = false ∧ fs.locate follow p = .ok s := by
  unfold find
  cases hasNul p <;> cases fs.locate follow p <;> simp [Except.mapError]

theorem look_eq_ok (hp : p.isAbsolute = true) {node : Node} :
    fs.look follow p = .ok node ↔
      hasNul p = false ∧ ∃ s, fs.locate follow p = .ok s ∧ fs.node? s.location = some node := by
  have hhere : isHere p = false := by simp [isHere, hp]
  simp only [look, hhere, Bool.false_eq_true, if_false, bind_eq_ok, find_eq_ok, and_assoc,
    exists_and_left]
  constructor
  · rintro ⟨hnul, s, hs, hnode⟩
    refine ⟨hnul, s, hs, ?_⟩
    cases h : fs.node? s.location with
    | none =>
      rw [h] at hnode
      cases hnode
    | some n =>
      rw [h] at hnode
      cases hnode
      rfl
  · rintro ⟨hnul, s, hs, hnode⟩
    exact ⟨hnul, s, hs, by rw [hnode]; rfl⟩

theorem asks_eq_true (ask : Node → Bool) :
    fs.asks follow p ask = .ok true ↔
      ∃ node, fs.look follow p = .ok node ∧ ask node = true := by
  unfold asks
  cases fs.look follow p with
  | ok node => simp
  | error e => cases h : e.saysAbsent <;> simp [h]

theorem isAbsolute_of_absolute {root : Path} (h : fs.absolute p = .ok root) :
    root.isAbsolute = true := by
  unfold FileSystem.absolute at h
  split_ifs at h with habs
  · cases h
    exact habs
  · cases h
    simp only [Path.absolute, Path.join, habs]
    rfl

/-! ## Paths to directories -/

/-- Following all links, a path leads to the directory at a location. -/
def LeadsTo (fs : FileSystem) (p : Path) (x : Location) : Prop :=
  fs.node? x = some .directory ∧ ∃ s, fs.locate true p = .ok s ∧ s.location = x

theorem leadsTo_nil (hp : p.isAbsolute = true) (hparts : p.parts = []) : fs.LeadsTo p [] :=
  ⟨by simp, ⟨[], none⟩, by rw [locate_of_isAbsolute hp, hparts]; rfl, rfl⟩

theorem isDir_eq_true (hp : p.isAbsolute = true) :
    fs.isDir p = .ok true ↔ hasNul p = false ∧ ∃ x, fs.LeadsTo p x := by
  rw [isDir, asks_eq_true]
  constructor
  · rintro ⟨node, hlook, hdir⟩
    cases node with
    | directory =>
      obtain ⟨hnul, s, hs, hnode⟩ := (look_eq_ok hp).1 hlook
      exact ⟨hnul, s.location, hnode, s, hs, rfl⟩
    | file | link => cases hdir
  · rintro ⟨hnul, x, hnode, s, hs, rfl⟩
    exact ⟨.directory, (look_eq_ok hp).2 ⟨hnul, s, hs, hnode⟩, rfl⟩

namespace LeadsTo

theorem unique {y : Location} (h : fs.LeadsTo p x) (h' : fs.LeadsTo p y) : x = y := by
  obtain ⟨-, s, hs, rfl⟩ := h
  obtain ⟨-, s', hs', rfl⟩ := h'
  rw [hs] at hs'
  cases hs'
  rfl

theorem mono (hp : p.isAbsolute = true) (hext : Extends A B) (h : A.LeadsTo p x) :
    B.LeadsTo p x := by
  obtain ⟨hdir, s, hs, rfl⟩ := h
  have hdir' := hext.directory _ hdir
  exact ⟨hdir', s, locate_mono hp hext (fun _ t => by simp [hdir']) hs, rfl⟩

/-- One name below a directory. -/
theorem child (hp : p.isAbsolute = true) (h : fs.LeadsTo p x) (hname : name ≠ "..") :
    fs.locate false (p.child name) = .ok s ↔
      name.utf8ByteSize ≤ nameLimit ∧ s = ⟨x, some name⟩ := by
  obtain ⟨hdir, d, hd, rfl⟩ := h
  rw [locate_of_isAbsolute hp] at hd
  obtain ⟨left, hleft⟩ := walk_append [name] (by simp) hdir _ _ _ hd
  rw [locate_of_isAbsolute (p := p.child name) hp, Path.child, hleft, walk_last hname]

/-- A name that is too long leads nowhere. -/
theorem child_too_long (hp : p.isAbsolute = true) (h : fs.LeadsTo p x) (hname : name ≠ "..")
    (hsize : nameLimit < name.utf8ByteSize) (follow : Bool) :
    fs.locate follow (p.child name) = .error .nameTooLong := by
  obtain ⟨hdir, d, hd, rfl⟩ := h
  rw [locate_of_isAbsolute hp] at hd
  obtain ⟨left, hleft⟩ := walk_append [name] (by simp) hdir _ _ _ hd
  rw [locate_of_isAbsolute (p := p.child name) hp, Path.child, hleft]
  cases left <;> simp [walk, walkNames, hname, hsize]

/-- One name below a directory, if it is no link. -/
theorem child_follow (hp : p.isAbsolute = true) (h : fs.LeadsTo p x) (hname : name ≠ "..")
    (hlink : ∀ t, fs.node? (x ++ [name]) ≠ some (.link t)) :
    fs.locate true (p.child name) = .ok s ↔
      name.utf8ByteSize ≤ nameLimit ∧ s = ⟨x, some name⟩ := by
  obtain ⟨hdir, d, hd, rfl⟩ := h
  rw [locate_of_isAbsolute hp] at hd
  obtain ⟨left, hleft⟩ := walk_append [name] (by simp) hdir _ _ _ hd
  rw [locate_of_isAbsolute (p := p.child name) hp, Path.child, hleft, walk_last_follow hname _ hlink]

theorem child_directory (hp : p.isAbsolute = true) (h : fs.LeadsTo p x) (hname : name ≠ "..")
    (hsize : name.utf8ByteSize ≤ nameLimit) (hdir : fs.node? (x ++ [name]) = some .directory) :
    fs.LeadsTo (p.child name) (x ++ [name]) :=
  ⟨hdir, _, (h.child_follow hp hname fun t => by simp [hdir]).2 ⟨hsize, rfl⟩, rfl⟩

end LeadsTo

/-- A path that can be followed has a directory before its last name. -/
theorem leadsTo_of_child (hfs : fs.WellFormed) (hp : p.isAbsolute = true)
    (hs : fs.locate follow (p.child name) = .ok s) : ∃ x, fs.LeadsTo p x := by
  rw [locate_of_isAbsolute (p := p.child name) hp, Path.child] at hs
  obtain ⟨d, -, hd, hdir, -⟩ := walk_concat hfs _ _ _ (node?_nil fs) hs
  exact ⟨d.location, hdir, d, by rw [locate_of_isAbsolute hp, hd], rfl⟩

/-- An entry that is reached by following links is reached by a path, too, if its last link is not
    followed. -/
theorem locate_false_of_leadsTo (hfs : fs.WellFormed) (hp : p.isAbsolute = true)
    (hname : name ≠ "..") (h : fs.LeadsTo (p.child name) x) :
    ∃ d, fs.LeadsTo p d ∧ fs.locate false (p.child name) = .ok ⟨d, some name⟩ ∧
      (fs.node? (d ++ [name]) = some .directory ∧ x = d ++ [name] ∨
        ∃ t, fs.node? (d ++ [name]) = some (.link t)) := by
  obtain ⟨hdir, s, hs, rfl⟩ := h
  rw [locate_of_isAbsolute (p := p.child name) hp, Path.child] at hs
  obtain ⟨d, left, hd, hd', hs⟩ := walk_concat hfs _ _ _ (node?_nil fs) hs
  have hlead : fs.LeadsTo p d.location := ⟨hd', d, by rw [locate_of_isAbsolute hp, hd], rfl⟩
  have hsize : name.utf8ByteSize ≤ nameLimit := by
    cases left <;> exact ((walkNames_cons_eq_ok hname).1 hs).1
  refine ⟨d.location, hlead, (hlead.child hp hname).2 ⟨hsize, rfl⟩, ?_⟩
  by_cases hlink : ∃ t, fs.node? (d.location ++ [name]) = some (.link t)
  · exact .inr hlink
  · obtain ⟨-, rfl⟩ := (walk_last_follow hname left fun t ht => hlink ⟨t, ht⟩).1 hs
    exact .inl ⟨hdir, rfl⟩

end TemplateTree.FileSystem
