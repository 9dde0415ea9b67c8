import Mathlib.Data.List.Nodup
import Mathlib.Tactic.SplitIfs
import TemplateTree.Template.Machine

/-!
# Laws of the machine

Computations on the machine are a lawful monad: a question only puts the rest of a computation off. Entries
by name are bound and found as in a map.

* `Script.andThen_assoc`, `bind_assoc'`: the laws.
* `Eval.Ends`: computations that come to their end without a question.
* `named?_setNamed`, `named?_setAll`: names that are bound.
-/

namespace TemplateTree.Template

variable {α β γ : Type}

/-! ## Scripts -/

@[simp] theorem Script.andThen_ok (x : Script α) : x.andThen .ok = x := by
  induction x with
  | ok a m => rfl
  | error f m => rfl
  | ask q next ih => simp only [Script.andThen, ih]

theorem Script.andThen_assoc (x : Script α) (f : α → Machine → Script β)
    (g : β → Machine → Script γ) :
    (x.andThen f).andThen g = x.andThen fun a m => (f a m).andThen g := by
  induction x with
  | ok a m => rfl
  | error e m => rfl
  | ask q next ih => simp only [Script.andThen, ih]

/-! ## Computations on the machine -/

namespace Eval

theorem run_bind (x : Eval α) (f : α → Eval β) (m : Machine) :
    (x >>= f) m = (x m).andThen f := by
  change andThen x f m = _
  unfold andThen
  cases x m <;> rfl

theorem bind_pure' (x : Eval α) : x >>= pure = x := by
  funext m
  exact (run_bind x pure m).trans (Script.andThen_ok (x m))

theorem bind_assoc' (x : Eval α) (f : α → Eval β) (g : β → Eval γ) :
    x >>= f >>= g = x >>= fun a => f a >>= g := by
  funext m
  rw [run_bind, run_bind, run_bind]
  refine (Script.andThen_assoc (x m) f g).trans ?_
  congr 1
  funext a m
  exact (run_bind (f a) g m).symm

instance : LawfulMonad Eval :=
  LawfulMonad.mk' Eval bind_pure' (fun _ _ => rfl) bind_assoc'

/-- A computation comes to its end without a question. -/
def Ends (x : Eval α) (m : Machine) (a : α) (m' : Machine) : Prop :=
  x m = .ok a m'

variable {x : Eval α} {f : α → Eval β} {m m' m'' : Machine} {a : α} {b : β}

theorem Ends.bind (h : x.Ends m a m') (hf : (f a).Ends m' b m'') : (x >>= f).Ends m b m'' := by
  unfold Ends at h hf ⊢
  rw [run_bind, h]
  exact hf

theorem ends_pure (a : α) (m : Machine) : (pure a : Eval α).Ends m a m := rfl

/-- A repetition that ends at once. -/
theorem Ends.repeatUntil {step : α → Eval (α ⊕ β)} (h : (step a).Ends m (.inr b) m') :
    (repeatUntil step a).Ends m b m' := by
  obtain ⟨n, hn⟩ : ∃ n, roundLimit = n + 1 := ⟨2 ^ 62 - 1, rfl⟩
  rw [Template.repeatUntil, hn, repeatWithin]
  exact h.bind rfl

end Eval

/-! ## Cells -/

section

variable {m : Machine} {id : CellId}

theorem ends_alloc (c : Cell) (m : Machine) :
    (alloc c).Ends m m.cells.size { m with cells := m.cells.push c } := rfl

theorem ends_cell {c : Cell} (h : m.cells[id]? = some c) : (cell id).Ends m c m := by
  unfold Eval.Ends
  change Script.ok (m.cells[id]?.getD (.list #[])) m = _
  rw [h]
  rfl

theorem ends_scopeAt {s : Scope} (h : m.cells[id]? = some (.scope s)) : (scopeAt id).Ends m s m :=
  (ends_cell h).bind rfl

theorem ends_contextAt {c : Context} (h : m.cells[id]? = some (.context c)) :
    (contextAt id).Ends m c m :=
  (ends_cell h).bind rfl

/-- Changing a cell of what is evaluated here. -/
theorem ends_setCell (h : m.own ≤ id) (c : Cell) :
    (setCell id c).Ends m () { m with cells := m.cells.setIfInBounds id c } := by
  unfold Eval.Ends setCell
  have hother : ¬id < m.own := Nat.not_lt.2 h
  simp only [bind, Eval.andThen, get, getThe, MonadStateOf.get, if_neg hother, pure]
  rfl

theorem ends_modifyScope {s : Scope} (h : m.cells[id]? = some (.scope s)) (hown : m.own ≤ id) (f : Scope → Scope) :
    (modifyScope id f).Ends m () { m with cells := m.cells.setIfInBounds id (.scope (f s)) } :=
  (ends_scopeAt h).bind (ends_setCell hown _)

theorem ends_templateAt {l : Loaded} (h : m.cells[id]? = some (.template l)) :
    (templateAt id).Ends m l m :=
  (ends_cell h).bind rfl

end

/-! ## Entries by name -/

section

variable {entries new : List (String × α)} {name k : String} {value : α}

theorem named?_cons (e : String × α) (entries : List (String × α)) (k : String) :
    named? (e :: entries) k = if e.1 = k then some e.2 else named? entries k := by
  rw [named?, List.find?_cons]
  split_ifs with h
  · rw [beq_iff_eq.2 h]
    rfl
  · rw [beq_eq_false_iff_ne.2 h]
    rfl

theorem named?_setNamed (entries : List (String × α)) (name : String) (value : α) (k : String) :
    named? (setNamed name value entries) k = if name = k then some value else named? entries k := by
  induction entries with
  | nil => rw [setNamed, named?_cons]
  | cons e entries ih =>
    rw [setNamed]
    split_ifs with he hk hk
    · rw [named?_cons, if_pos hk]
    · have hne : e.1 ≠ k := fun h => hk ((beq_iff_eq.1 he).symm.trans h)
      rw [named?_cons, if_neg hk, named?_cons, if_neg hne]
    · have hne : e.1 ≠ k := fun h => he (beq_iff_eq.2 (h.trans hk.symm))
      rw [named?_cons, if_neg hne, ih, if_pos hk]
    · rw [named?_cons, named?_cons, ih, if_neg hk]

/-- The names that are bound. -/
def names (entries : List (String × α)) : List String :=
  entries.map (·.1)

theorem mem_names_setNamed :
    k ∈ names (setNamed name value entries) ↔ k = name ∨ k ∈ names entries := by
  induction entries with
  | nil => simp [setNamed, names]
  | cons e entries ih =>
    simp only [names, List.map_cons, List.mem_cons] at ih ⊢
    rw [setNamed]
    split_ifs with he
    · rw [List.map_cons, List.mem_cons, beq_iff_eq.1 he]
      tauto
    · rw [List.map_cons, List.mem_cons, ih]
      tauto

theorem nodup_setNamed (h : (names entries).Nodup) (name : String) (value : α) :
    (names (setNamed name value entries)).Nodup := by
  induction entries with
  | nil => simp [setNamed, names]
  | cons e entries ih =>
    obtain ⟨he, h⟩ := List.nodup_cons.1 h
    rw [setNamed]
    split_ifs with hname
    · rw [beq_iff_eq] at hname
      exact List.nodup_cons.2 ⟨hname ▸ he, h⟩
    · refine List.nodup_cons.2 ⟨fun hmem => ?_, ih h⟩
      rcases mem_names_setNamed.1 hmem with hmem | hmem
      · exact hname (beq_iff_eq.2 hmem)
      · exact he hmem

/-- Binds names one after the other. -/
def setAll (entries new : List (String × α)) : List (String × α) :=
  new.foldl (fun acc e => setNamed e.1 e.2 acc) entries

theorem named?_eq_none (h : k ∉ names entries) : named? entries k = none := by
  induction entries with
  | nil => rfl
  | cons e entries ih =>
    obtain ⟨he, h⟩ := List.ne_and_not_mem_of_not_mem_cons h
    rw [named?_cons, if_neg (Ne.symm he), ih h]

/-- Names that are bound only once have the values they were bound to. -/
theorem named?_setAll (entries : List (String × α)) (hnew : (names new).Nodup) (k : String) :
    named? (setAll entries new) k = (named? new k).or (named? entries k) := by
  induction new generalizing entries with
  | nil => rfl
  | cons e new ih =>
    obtain ⟨he, hnew⟩ := List.nodup_cons.1 hnew
    have hstep : setAll entries (e :: new) = setAll (setNamed e.1 e.2 entries) new := rfl
    rw [hstep, ih _ hnew, named?_setNamed, named?_cons]
    split_ifs with hk
    · subst hk
      rw [named?_eq_none he]
      rfl
    · rfl

end

end TemplateTree.Template
