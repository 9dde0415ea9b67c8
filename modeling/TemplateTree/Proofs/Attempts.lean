import Mathlib.Logic.Basic

/-!
# Attempts

Results that are values or errors: what is known of the parts when a composition of them has succeeded or failed.

* `bind_eq_ok`, `bind_eq_error`: one attempt after another.
* `mapError_eq_ok`, `mapError_eq_error`: an attempt whose errors are told in other words.
* `map_eq_error`: an attempt whose result is put otherwise.
* `foldlM_error`, `foldlM_eq_error`, `foldlM_keeps`, `mapM_error`, `mem_mapM`: an attempt for each item of a list.
-/

namespace TemplateTree

variable {ε ε' α β γ : Type}

theorem bind_eq_ok {x : Except ε α} {f : α → Except ε β} {b : β} :
    (x >>= f) = .ok b ↔ ∃ a, x = .ok a ∧ f a = .ok b := by
  cases x <;> simp [bind, Except.bind]

theorem bind_eq_error {x : Except ε α} {f : α → Except ε β} {e : ε} :
    (x >>= f) = .error e ↔ x = .error e ∨ ∃ a, x = .ok a ∧ f a = .error e := by
  cases x <;> simp [bind, Except.bind]

theorem isOk_iff {x : Except ε α} : x.isOk = true ↔ ∃ a, x = .ok a := by
  cases x with
  | error e => exact ⟨nofun, nofun⟩
  | ok a => exact ⟨fun _ => ⟨a, rfl⟩, fun _ => rfl⟩

theorem mapError_eq_ok {x : Except ε α} {g : ε → ε'} {a : α} : x.mapError g = .ok a ↔ x = .ok a := by
  cases x with
  | error e => exact ⟨nofun, nofun⟩
  | ok b =>
    change Except.ok b = .ok a ↔ _
    simp only [Except.ok.injEq]

theorem mapError_eq_error {x : Except ε α} {g : ε → ε'} {e' : ε'} :
    x.mapError g = .error e' ↔ ∃ e, x = .error e ∧ g e = e' := by
  cases x with
  | error e =>
    change Except.error (g e) = .error e' ↔ _
    simp only [Except.error.injEq, exists_eq_left']
  | ok a => exact ⟨nofun, nofun⟩

theorem map_eq_error {x : Except ε α} {f : α → β} {e : ε} : x.map f = .error e ↔ x = .error e := by
  cases x with
  | error e' =>
    change Except.error e' = .error e ↔ _
    simp only [Except.error.injEq]
  | ok a => exact ⟨nofun, nofun⟩

/-! ## Lists -/

/-- A fold fails over one of its items. -/
theorem foldlM_error {f : β → α → Except ε β} {xs : List α} {b : β} {e : ε} (h : xs.foldlM f b = .error e) :
    ∃ x ∈ xs, ∃ c, f c x = .error e := by
  induction xs generalizing b with
  | nil => cases h
  | cons x xs ih =>
    rw [List.foldlM_cons] at h
    obtain h | ⟨c, -, h⟩ := bind_eq_error.1 h
    · exact ⟨x, List.mem_cons_self, b, h⟩
    · obtain ⟨y, hy, h⟩ := ih h
      exact ⟨y, List.mem_cons_of_mem _ hy, h⟩

section

variable {f : β → α → Except ε β} {g : α → Except ε γ} {k : β → γ → β} {xs : List α} {b : β}

/-- A fold that reads its items and goes on with what it has read gets to its end if all of them can be read. -/
theorem exists_foldlM_eq_ok (hf : ∀ b x, f b x = g x >>= fun y => .ok (k b y)) :
    (∃ c, xs.foldlM f b = .ok c) ↔ ∀ x ∈ xs, ∃ y, g x = .ok y := by
  induction xs generalizing b with
  | nil =>
    constructor
    · intro _ x hx
      cases hx
    · intro _
      exact ⟨b, rfl⟩
  | cons x xs ih =>
    simp only [List.foldlM_cons, hf, bind_eq_ok, List.forall_mem_cons]
    constructor
    · rintro ⟨c, d, ⟨y, hy, -⟩, hc⟩
      exact ⟨⟨y, hy⟩, ih.1 ⟨c, hc⟩⟩
    · rintro ⟨⟨y, hy⟩, hrest⟩
      obtain ⟨c, hc⟩ := ih.2 hrest
      exact ⟨c, k b y, ⟨y, hy, rfl⟩, hc⟩

/-- It fails over the first of them that cannot be read. -/
theorem foldlM_eq_error {e : ε} (hf : ∀ b x, f b x = g x >>= fun y => .ok (k b y)) :
    xs.foldlM f b = .error e ↔
      ∃ before x after, xs = before ++ x :: after ∧ (∀ y ∈ before, ∃ z, g y = .ok z) ∧ g x = .error e := by
  induction xs generalizing b with
  | nil =>
    constructor
    · intro hnil
      cases hnil
    · rintro ⟨before, x, after, hxs, -⟩
      simp at hxs
  | cons x xs ih =>
    rw [List.foldlM_cons, hf, bind_eq_error]
    constructor
    · rintro (hx | ⟨c, hc, hrest⟩)
      · obtain hx | ⟨y, -, hy⟩ := bind_eq_error.1 hx
        · exact ⟨[], x, xs, rfl, nofun, hx⟩
        · cases hy
      · obtain ⟨y, hy, -⟩ := bind_eq_ok.1 hc
        obtain ⟨before, z, after, rfl, hbefore, hz⟩ := ih.1 hrest
        exact ⟨x :: before, z, after, rfl, List.forall_mem_cons.2 ⟨⟨y, hy⟩, hbefore⟩, hz⟩
    · rintro ⟨before, z, after, hxs, hbefore, hz⟩
      cases before with
      | nil =>
        cases hxs
        exact .inl (bind_eq_error.2 (.inl hz))
      | cons w before =>
        cases hxs
        obtain ⟨⟨y, hy⟩, hbefore⟩ := List.forall_mem_cons.1 hbefore
        exact .inr ⟨k b y, bind_eq_ok.2 ⟨y, hy, rfl⟩, ih.2 ⟨before, z, after, rfl, hbefore, hz⟩⟩

end

/-- A fold that succeeds keeps what each of its steps keeps. -/
theorem foldlM_keeps {P : β → Prop} {f : β → α → Except ε β}
    (hstep : ∀ b x c, P b → f b x = .ok c → P c) {xs : List α} {b c : β} (hb : P b)
    (h : xs.foldlM f b = .ok c) : P c := by
  induction xs generalizing b with
  | nil =>
    cases h
    exact hb
  | cons x xs ih =>
    rw [List.foldlM_cons] at h
    obtain ⟨d, hd, h⟩ := bind_eq_ok.1 h
    exact ih (hstep b x d hb hd) h

theorem mapM_error {f : α → Except ε β} {xs : List α} {e : ε} (h : xs.mapM f = .error e) :
    ∃ x ∈ xs, f x = .error e := by
  induction xs with
  | nil => cases h
  | cons x xs ih =>
    rw [List.mapM_cons] at h
    obtain h | ⟨b, -, h⟩ := bind_eq_error.1 h
    · exact ⟨x, List.mem_cons_self, h⟩
    · obtain h | ⟨bs, -, h⟩ := bind_eq_error.1 h
      · obtain ⟨y, hy, h⟩ := ih h
        exact ⟨y, List.mem_cons_of_mem _ hy, h⟩
      · cases h

theorem mem_mapM {f : α → Except ε β} {xs : List α} {bs : List β} (h : xs.mapM f = .ok bs) {b : β}
    (hb : b ∈ bs) : ∃ x ∈ xs, f x = .ok b := by
  induction xs generalizing bs with
  | nil =>
    cases h
    cases hb
  | cons x xs ih =>
    rw [List.mapM_cons] at h
    obtain ⟨b', hb', h⟩ := bind_eq_ok.1 h
    obtain ⟨rest, hrest, h⟩ := bind_eq_ok.1 h
    cases h
    obtain rfl | hb := List.mem_cons.1 hb
    · exact ⟨x, List.mem_cons_self, hb'⟩
    · obtain ⟨y, hy, h⟩ := ih hrest hb
      exact ⟨y, List.mem_cons_of_mem _ hy, h⟩

end TemplateTree
