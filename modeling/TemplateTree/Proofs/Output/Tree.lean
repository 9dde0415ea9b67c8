import TemplateTree.Proofs.Output.Writing

/-!
# Writing below an output directory

An output directory that its path names itself, and below which there are no links. A path below it
leads to where its names say, and a write there stays below it.

* `IsTree`: such a directory.
* `IsTree.leadsTo_descend`: where the paths below it lead.
* `IsTree.write`: one atomic write below it.
-/

namespace TemplateTree.Output

open FileSystem

variable {A B M : FileSystem} {root : Path} {L D x : Location} {names segments : List String}

/-- A path names the directory that it leads to, and there are no links below. -/
structure IsTree (root : Path) (L : Location) (fs : FileSystem) : Prop where
  wellFormed : fs.WellFormed
  leadsTo : fs.LeadsTo root L
  names : fs.Names root L
  plain : ∀ rest t, fs.node? (L ++ rest) ≠ some (.link t)

namespace IsTree

theorem of_bare (hB : B.WellFormed) (hL : B.LeadsTo root L) (hnames : B.Names root L)
    (hbare : ∀ rest, rest ≠ [] → B.node? (L ++ rest) = none) : IsTree root L B := by
  refine ⟨hB, hL, hnames, fun rest t => ?_⟩
  by_cases hrest : rest = []
  · simp [hrest, hL.1]
  · simp [hbare rest hrest]

variable (hp : root.isAbsolute = true) (hdots : ".." ∉ root.parts)

include hp

/-- More entries, none of which is a link. -/
theorem extend (h : IsTree root L A) (hB : B.WellFormed) (hext : Extends A B)
    (hlink : ∀ x t, B.node? x = some (.link t) → A.node? x = some (.link t)) : IsTree root L B :=
  ⟨hB, h.leadsTo.mono hp hext, h.names.mono hp hext, fun rest t ht => h.plain rest t (hlink _ t ht)⟩

/-- Below the directory, paths that lead to directories lead where their names say. -/
theorem leadsTo_descend (h : IsTree root L A) (hnames : ".." ∉ names)
    (hD : A.LeadsTo (root.descend names) D) : D = L ++ names := by
  induction names using List.reverseRecOn generalizing D with
  | nil =>
    rw [Path.descend_nil] at hD
    rw [List.append_nil, hD.unique h.leadsTo]
  | append_singleton front name ih =>
    simp only [List.mem_append, List.mem_singleton, not_or] at hnames
    rw [Path.descend_concat] at hD
    obtain ⟨d, hd, -, hnode⟩ :=
      locate_false_of_leadsTo h.wellFormed (p := root.descend front) hp (Ne.symm hnames.2) hD
    obtain rfl := ih hnames.1 hd
    rw [List.append_assoc] at hnode
    obtain ⟨-, rfl⟩ | ⟨t, ht⟩ := hnode
    · rfl
    · exact absurd ht (h.plain _ t)

/-- Every path above the directory leads to something. -/
theorem leadsTo_upTo (h : IsTree root L A) (k : Nat) : ∃ d, A.LeadsTo (root.upTo k) d := by
  have key : ∀ n, ∃ d, A.LeadsTo (root.upTo (root.parts.length - n)) d := by
    intro n
    induction n with
    | zero =>
      refine ⟨L, ?_⟩
      rw [Nat.sub_zero, Path.upTo, List.take_length]
      exact h.leadsTo
    | succ n ih =>
      obtain ⟨d, hd⟩ := ih
      by_cases hn : root.parts.length ≤ n
      · rw [show root.parts.length - (n + 1) = root.parts.length - n by omega]
        exact ⟨d, hd⟩
      · have hne : (root.upTo (root.parts.length - n)).parts ≠ [] := by
          simp only [Path.upTo, ne_eq, List.take_eq_nil_iff, not_or]
          refine ⟨by omega, by rintro hnil; simp [hnil] at hn⟩
        obtain ⟨-, s, hs, -⟩ := hd
        rw [← Path.parent_child hne] at hs
        obtain ⟨d', hd'⟩ := leadsTo_of_child h.wellFormed
          (p := (root.upTo (root.parts.length - n)).parent) hp hs
        rw [Path.parent_eq_upTo, Path.upTo_upTo] at hd'
        refine ⟨d', ?_⟩
        convert hd' using 3
        simp only [Path.upTo, List.length_take]
        omega
  obtain ⟨d, hd⟩ := key (root.parts.length - k)
  by_cases hk : k ≤ root.parts.length
  · exact ⟨d, by rwa [show root.parts.length - (root.parts.length - k) = k by omega] at hd⟩
  · refine ⟨d, ?_⟩
    rw [show root.parts.length - (root.parts.length - k) = root.parts.length by omega] at hd
    rwa [Path.upTo, List.take_of_length_le (by omega : root.parts.length ≤ k),
      ← List.take_length (l := root.parts)]

/-- What a path above the directory names is there. -/
theorem node?_of_names_upTo (h : IsTree root L A) (hdots : ".." ∉ root.parts) (hext : Extends A M)
    {k : Nat} (hx : M.Names (root.upTo k) x) : A.node? x ≠ none := by
  obtain ⟨hne, -, d, hd, rfl⟩ := hx
  obtain ⟨y, hy⟩ := h.leadsTo_upTo hp k
  have hname : (root.upTo k).name ≠ ".." := fun heq =>
    hdots (List.take_subset k _ (heq ▸ Path.name_mem hne))
  rw [← Path.parent_child hne] at hy
  obtain ⟨d', hd', -, hnode⟩ :=
    locate_false_of_leadsTo h.wellFormed (p := (root.upTo k).parent) hp hname hy
  rw [(hd'.mono (p := (root.upTo k).parent) hp hext).unique hd] at hnode
  obtain ⟨hnode, -⟩ | ⟨t, hnode⟩ := hnode <;> simp [hnode]

theorem names_descend (h : IsTree root L A) (hnames : ".." ∉ names) (hne : names ≠ [])
    (hx : A.Names (root.descend names) x) : x = L ++ names := by
  rcases List.eq_nil_or_concat names with rfl | ⟨front, name, rfl⟩
  · exact absurd rfl hne
  · rw [List.concat_eq_append] at hx hnames ⊢
    simp only [List.mem_append, not_or] at hnames
    rw [Path.descend_concat, names_child] at hx
    obtain ⟨-, d, hd, rfl⟩ := hx
    rw [h.leadsTo_descend hp hnames.1 hd, List.append_assoc]

theorem of_made (h : IsTree root L A) {p : Path} (hmade : Made p A M) (hM : M.WellFormed) :
    IsTree root L M := by
  refine h.extend hp hM hmade.toExtends fun x t ht => ?_
  obtain heq | ⟨-, hdir, -⟩ := hmade.node x
  · rw [← heq, ht]
  · rw [hdir] at ht
    cases ht

/-- The directories made for a file below the directory lie on the way to it. -/
theorem made_below (h : IsTree root L A) (hdots : ".." ∉ root.parts) (hsegs : ".." ∉ segments)
    (hmade : Made (root.descend segments).parent A M) (hM : M.WellFormed) (x : Location) :
    M.node? x = A.node? x ∨ (A.node? x = none ∧ M.node? x = some .directory ∧
      ∃ q, q ≠ [] ∧ q <+: segments.dropLast ∧ x = L ++ q) := by
  refine (hmade.node x).imp id ?_
  rintro ⟨hnone, hdir, k, hk⟩
  refine ⟨hnone, hdir, ?_⟩
  rw [Path.parent_eq_upTo, Path.upTo_upTo] at hk
  generalize hj : min k ((root.descend segments).parts.length - 1) = j at hk
  have hle : j ≤ root.parts.length + segments.length - 1 := by
    simp only [Path.descend, List.length_append] at hj
    omega
  by_cases hroot : j ≤ root.parts.length
  · have hup : (root.descend segments).upTo j = root.upTo j := by
      simp [Path.upTo, Path.descend, List.take_append_of_le_length hroot]
    rw [hup] at hk
    exact absurd hnone (h.node?_of_names_upTo hp hdots hmade.toExtends hk)
  · have hup : (root.descend segments).upTo j
        = root.descend (segments.take (j - root.parts.length)) := by
      simp only [Path.upTo, Path.descend, List.take_append,
        List.take_of_length_le (Nat.le_of_not_le hroot)]
    rw [hup] at hk
    have hne : segments.take (j - root.parts.length) ≠ [] := by
      rw [ne_eq, List.take_eq_nil_iff, not_or]
      refine ⟨by omega, by rintro rfl; simp at hle; omega⟩
    refine ⟨_, hne, ?_, (h.of_made hp hmade hM).names_descend hp
      (fun hmem => hsegs (List.take_subset _ _ hmem)) hne hk⟩
    rw [List.dropLast_eq_take]
    exact List.take_prefix_take_left (by omega)

end IsTree

/-! ## One write -/

/-- What a write below an output directory changes: directories on the way to the target are new, and
    after success the target has the text. -/
structure Wrote (L : Location) (segments : List String) (mode : Nat) (text : String)
    (A B : FileSystem) (outcome : Option Failure) : Prop where
  clock : A.clock ≤ B.clock
  node : ∀ x, B.node? x = A.node? x ∨
    (A.node? x = none ∧ B.node? x = some .directory ∧
      ∃ q, q ≠ [] ∧ q <+: segments.dropLast ∧ x = L ++ q) ∨
    (outcome = none ∧ x = L ++ segments)
  target : outcome = none → segments ≠ [] ∧ A.node? (L ++ segments) ≠ some .directory ∧
    ∃ stamp, A.clock < stamp ∧ stamp ≤ B.clock ∧
      B.node? (L ++ segments) = some (.file text.toUTF8 mode stamp)

/-- What the body of a write returns, if the write gets as far as that. -/
def written? {σ : Type} (fs : FileSystem) (p : Path) (state : σ)
    (body : FileSystem → σ → Written σ) : Option (Written σ) :=
  match stage fs p with
  | (_, .error _) => none
  | (fs, .ok _) => some (body fs state)

/-- A write that succeeds has got as far as its body, and that has not failed. -/
theorem written?_of_ok {σ : Type} {p : Path} {mode : Nat} {state state' : σ}
    {body : FileSystem → σ → Written σ}
    (h : writeAtomically A p mode state body = (B, state', none)) :
    ∃ written, written? A p state body = some written ∧ written.failure = none := by
  unfold writeAtomically at h
  unfold written?
  generalize stage A p = staged at h
  obtain ⟨fs, e | temp⟩ := staged
  · cases h
  · exact ⟨_, rfl, settle_failure (congrArg (fun r => r.2.2) h)⟩

/-- The target of a write below an output directory is no link. -/
theorem IsTree.target_plain (hp : root.isAbsolute = true) (h : IsTree root L A)
    (hsegs : ".." ∉ segments) (hD : A.LeadsTo (root.descend segments).parent D) (t : String) :
    A.node? (D ++ [(root.descend segments).name]) ≠ some (.link t) := by
  rcases List.eq_nil_or_concat segments with rfl | ⟨front, name, rfl⟩
  · rw [Path.descend_nil] at hD ⊢
    have hnames : A.Names root (D ++ [root.name]) := ⟨h.names.1, h.names.2.1, D, hD, rfl⟩
    simp [hnames.unique h.names, h.leadsTo.1]
  · rw [List.concat_eq_append] at hD hsegs ⊢
    rw [Path.descend_concat, Path.child_parent] at hD
    rw [Path.descend_concat, Path.child_name, h.leadsTo_descend hp (by simp_all) hD,
      List.append_assoc]
    exact h.plain _ t

theorem IsTree.wrote (hp : root.isAbsolute = true) (h : IsTree root L M) (hsegs : ".." ∉ segments)
    (hext : Extends A M) (hMA : M.clock = A.clock) {mode : Nat} {text : String}
    (hnode : ∀ x, M.node? x = A.node? x ∨ (A.node? x = none ∧ M.node? x = some .directory ∧
      ∃ q, q ≠ [] ∧ q <+: segments.dropLast ∧ x = L ++ q)) {outcome : Option Failure}
    (hB : Settled M (root.descend segments) D mode text B outcome) :
    IsTree root L B ∧ Extends A B ∧ Wrote L segments mode text A B outcome := by
  have hclock : A.clock ≤ B.clock := by have := hB.clock_lt; omega
  obtain ⟨hsome, hsame⟩ | ⟨hnone, hnames, hdir, hwritten⟩ := hB.node
  · have hMB : Extends M B := ⟨fun x hx => by rw [hsame, hx], fun x t hx => by rw [hsame, hx]⟩
    refine ⟨h.extend hp hB.wellFormed hMB fun x t ht => by rw [← hsame, ht],
      hext.trans hMB, hclock, fun x => ?_, fun hnone => by simp [hnone] at hsome⟩
    rw [hsame]
    exact (hnode x).imp id .inl
  · -- A successful write has a name: the directory itself is never replaced.
    have hne : segments ≠ [] := by
      rintro rfl
      rw [Path.descend_nil] at hnames hdir
      rw [hnames.unique h.names] at hdir
      exact hdir h.leadsTo.1
    obtain hX := h.names_descend hp hsegs hne hnames
    rw [hX] at hdir hwritten
    have hMB : Extends M B := by
      constructor <;> intro x
      · intro hx
        rw [hwritten, if_neg (by rintro rfl; exact hdir hx), hx]
      · intro t hx
        rw [hwritten, if_neg (by rintro rfl; exact h.plain _ t hx), hx]
    refine ⟨h.extend hp hB.wellFormed hMB fun x t ht => ?_, hext.trans hMB, hclock,
      fun x => ?_, fun _ => ⟨hne, ?_, B.clock, ?_, le_rfl, by rw [hwritten, if_pos rfl]⟩⟩
    · rw [hwritten] at ht
      split_ifs at ht with hx
      · cases ht
      · exact ht
    · rw [hwritten]
      split_ifs with hx
      · exact .inr (.inr ⟨hnone, hx⟩)
      · exact (hnode x).imp id .inl
    · exact fun hA => hdir (hext.directory _ hA)
    · have := hB.clock_lt
      omega

/-- A write below an output directory, however it ends. -/
theorem IsTree.write {σ : Type} (hp : root.isAbsolute = true) (hdots : ".." ∉ root.parts)
    (h : IsTree root L A) (hsegs : ".." ∉ segments) (mode : Nat) (state : σ)
    (body : FileSystem → σ → Written σ) {result : FileSystem × σ × Option Failure}
    (hresult : writeAtomically A (root.descend segments) mode state body = result) :
    IsTree root L result.1 ∧ Extends A result.1 ∧
      ∃ text, Wrote L segments mode text A result.1 result.2.2 ∧
        (result.2.2 = none → ∃ written, written? A (root.descend segments) state body = some written ∧
          written.failure = none ∧ written.text = text) := by
  have hparts : ".." ∉ (root.descend segments).parts := by simp [Path.descend, hdots, hsegs]
  subst hresult
  obtain ⟨M, hmade, hM, ⟨failure, hstage⟩ | ⟨D, name, hfree, hstage⟩⟩ :=
    stage_cases (p := root.descend segments) h.wellFormed hp hparts
  all_goals have hplain := h.of_made hp hmade hM
  all_goals have hnode := h.made_below hp hdots hsegs hmade hM
  · simp only [writeAtomically, hstage]
    refine ⟨hplain, hmade.toExtends, "", ⟨hmade.clock.ge, fun x => (hnode x).imp id .inl, ?_⟩, ?_⟩
    all_goals
      intro h
      cases h
  · have hlink := hplain.target_plain hp hsegs hfree.leadsTo
    have hsettled := settle_settled (p := root.descend segments) hM hp hparts hfree hlink mode
    simp only [writeAtomically, written?, hstage]
    obtain ⟨htree, hext, hwrote⟩ :=
      hplain.wrote hp hsegs hmade.toExtends hmade.clock hnode (hsettled _ _)
    exact ⟨htree, hext, _, hwrote, fun hnone => ⟨_, rfl, settle_failure hnone, rfl⟩⟩

end TemplateTree.Output
