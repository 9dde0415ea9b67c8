import Mathlib.Data.List.Forall2
import Mathlib.Tactic.SplitIfs
import TemplateTree.Datum

/-!
# Bound keys

What binding and removing a key does to entries: to the value under each key, and to the keys and their order.
Only keys that are texts are bound and removed here; the other keys of the entries may be of any kind.

* `IsLast`: the last of several items that are about one thing.
* `Entries.get?_insert`, `Entries.get?_erase`: values.
* `Entries.keys_insert`: keys.
* `Entries.IsMap`: entries without a key that comes twice.
* `Entries.get?_ofPairs`, `Entries.IsMap.get?_insertAll`: several pairs, of which the last with a key counts.
-/

namespace TemplateTree

/-! ## The last of several items -/

section

variable {α β : Type} {P : α → Prop} {Q : β → Prop} {xs : List α} {ys : List β} {x x' : α}

/-- An item of a list is the last that has a property. -/
def IsLast (P : α → Prop) (xs : List α) (x : α) : Prop :=
  ∃ before after, xs = before ++ x :: after ∧ P x ∧ ∀ y ∈ after, ¬ P y

theorem isLast_cons {y : α} :
    IsLast P (y :: xs) x ↔ IsLast P xs x ∨ (x = y ∧ P y ∧ ∀ z ∈ xs, ¬ P z) := by
  constructor
  · rintro ⟨before, after, hxs, hx, hafter⟩
    cases before with
    | nil =>
      cases hxs
      exact .inr ⟨rfl, hx, hafter⟩
    | cons z before =>
      cases hxs
      exact .inl ⟨before, after, rfl, hx, hafter⟩
  · rintro (⟨before, after, rfl, hx, hafter⟩ | ⟨rfl, hx, hxs⟩)
    · exact ⟨y :: before, after, rfl, hx, hafter⟩
    · exact ⟨[], xs, rfl, hx, hxs⟩

theorem IsLast.mem (h : IsLast P xs x) : x ∈ xs := by
  obtain ⟨before, after, rfl, -⟩ := h
  simp

theorem IsLast.holds (h : IsLast P xs x) : P x := by
  obtain ⟨before, after, -, hx, -⟩ := h
  exact hx

theorem IsLast.unique (h : IsLast P xs x) (h' : IsLast P xs x') : x = x' := by
  induction xs with
  | nil => cases h.mem
  | cons y xs ih =>
    rw [isLast_cons] at h h'
    rcases h with h | ⟨rfl, -, hnone⟩
    · rcases h' with h' | ⟨-, -, hnone⟩
      · exact ih h h'
      · exact absurd h.holds (hnone x h.mem)
    · rcases h' with h' | ⟨rfl, -⟩
      · exact absurd h'.holds (hnone x' h'.mem)
      · rfl

theorem exists_isLast (h : ∃ x ∈ xs, P x) : ∃ x, IsLast P xs x := by
  induction xs with
  | nil =>
    obtain ⟨x, hx, -⟩ := h
    cases hx
  | cons y xs ih =>
    by_cases hrest : ∃ x ∈ xs, P x
    · obtain ⟨x, hx⟩ := ih hrest
      exact ⟨x, isLast_cons.2 (.inl hx)⟩
    · have hnone : ∀ z ∈ xs, ¬ P z := fun z hz hPz => hrest ⟨z, hz, hPz⟩
      obtain ⟨x, hx, hPx⟩ := h
      rcases List.mem_cons.1 hx with rfl | hx
      · exact ⟨x, isLast_cons.2 (.inr ⟨rfl, hPx, hnone⟩)⟩
      · exact absurd hPx (hnone x hx)

/-- The last items of related lists are related. -/
theorem isLast_iff_of_forall₂ {R : α → β → Prop} (hR : Relator.RightUnique R)
    (hPQ : ∀ x y, R x y → (P x ↔ Q y)) (h : List.Forall₂ R xs ys) {y : β} :
    IsLast Q ys y ↔ ∃ x, IsLast P xs x ∧ R x y := by
  induction h with
  | nil =>
    constructor
    · intro h
      cases h.mem
    · rintro ⟨x, h, -⟩
      cases h.mem
  | @cons x₀ y₀ xs ys h₀ hrest ih =>
    have hnone : (∀ z ∈ ys, ¬ Q z) ↔ ∀ z ∈ xs, ¬ P z := by
      clear ih
      induction hrest with
      | nil => simp
      | cons hxy _ ih => simp only [List.forall_mem_cons, ih, hPQ _ _ hxy]
    rw [isLast_cons, ih, hnone, ← hPQ x₀ y₀ h₀]
    constructor
    · rintro (⟨x, hx, hxy⟩ | ⟨rfl, hx₀, hxs⟩)
      · exact ⟨x, isLast_cons.2 (.inl hx), hxy⟩
      · exact ⟨x₀, isLast_cons.2 (.inr ⟨rfl, hx₀, hxs⟩), h₀⟩
    · rintro ⟨x, hx, hxy⟩
      rcases isLast_cons.1 hx with hx | ⟨rfl, hx₀, hxs⟩
      · exact .inl ⟨x, hx, hxy⟩
      · exact .inr ⟨hR hxy h₀, hx₀, hxs⟩

end

theorem Scalar.same_text {key : Scalar} {name : String} : key.same (.text name) = true ↔ key = .text name := by
  cases key <;> simp [Scalar.same, Scalar.number?]

theorem Scalar.same_text_eq_false {key : Scalar} {name : String} :
    key.same (.text name) = false ↔ key ≠ .text name := by
  rw [← Bool.not_eq_true, Scalar.same_text]

namespace Entries

variable {α : Type} {entries new : Entries α} {name k : String} {v : α}

/-! ## Values -/

theorem get?_cons (e : Scalar × α) (entries : Entries α) (key : Scalar) :
    get? (e :: entries) key = if e.1.same key then some e.2 else get? entries key := by
  unfold get?
  rw [List.find?_cons]
  split <;> simp [*]

theorem get?_insert : (entries.insert (.text name) v).get? (.text k) =
    if name = k then some v else entries.get? (.text k) := by
  have hname : (Scalar.text name).same (.text k) = true ↔ name = k := by
    rw [Scalar.same_text, Scalar.text.injEq]
  induction entries with
  | nil =>
    rw [insert, get?_cons]
    simp only [hname]
  | cons e rest ih =>
    rw [insert]
    by_cases he : e.1.same (.text name) = true
    · rw [if_pos he, get?_cons, get?_cons, Scalar.same_text.1 he]
      simp only [hname]
      split_ifs <;> rfl
    · rw [if_neg he, get?_cons, get?_cons, ih]
      by_cases hk : e.1.same (.text k) = true
      · have hne : name ≠ k := by
          rintro rfl
          exact he hk
        rw [if_pos hk, if_pos hk, if_neg hne]
      · rw [if_neg hk, if_neg hk]

theorem get?_erase : (entries.erase (.text name)).get? (.text k) =
    if name = k then none else entries.get? (.text k) := by
  induction entries with
  | nil => simp [erase, get?]
  | cons e rest ih =>
    unfold erase at ih ⊢
    by_cases he : e.1.same (.text name) = true
    · rw [List.filter_cons_of_neg (by simp [he]), ih, get?_cons, Scalar.same_text.1 he]
      simp only [Scalar.same_text, Scalar.text.injEq]
      split_ifs <;> rfl
    · rw [List.filter_cons_of_pos (by simpa using he), get?_cons, get?_cons, ih]
      by_cases hk : e.1.same (.text k) = true
      · have hne : name ≠ k := by
          rintro rfl
          exact he hk
        rw [if_pos hk, if_pos hk, if_neg hne]
      · rw [if_neg hk, if_neg hk]

theorem get?_eq_none : entries.get? (.text k) = none ↔ .text k ∉ entries.map (·.1) := by
  induction entries with
  | nil => simp [get?]
  | cons e rest ih =>
    rw [get?_cons, List.map_cons, List.mem_cons, not_or, ← ih]
    by_cases he : e.1.same (.text k) = true
    · rw [if_pos he, Scalar.same_text.1 he]
      simp
    · rw [if_neg he]
      have hne : Scalar.text k ≠ e.1 := fun h => he (Scalar.same_text.2 h.symm)
      simp [hne]

/-! ## Keys -/

/-- A key that is bound keeps its place, and a new one comes last. -/
theorem keys_insert : (entries.insert (.text name) v).map (·.1) =
    entries.map (·.1) ++ if (entries.get? (.text name)).isSome then [] else [.text name] := by
  induction entries with
  | nil => rfl
  | cons e rest ih =>
    rw [insert, get?_cons]
    by_cases he : e.1.same (.text name) = true
    · simp [he]
    · rw [if_neg he, if_neg he, List.map_cons, ih]
      rfl

theorem insert_new (h : entries.get? (.text name) = none) :
    entries.insert (.text name) v = entries ++ [(.text name, v)] := by
  induction entries with
  | nil => rfl
  | cons e rest ih =>
    rw [get?_cons] at h
    split_ifs at h with he
    rw [insert, if_neg he, ih h, List.cons_append]

/-- Whether no key comes twice. -/
def IsMap (entries : Entries α) : Prop :=
  (entries.map (·.1)).Pairwise fun a b => a.same b = false

theorem isMap_nil : IsMap ([] : Entries α) :=
  List.Pairwise.nil

theorem IsMap.insert (h : entries.IsMap) (name : String) (v : α) : (entries.insert (.text name) v).IsMap := by
  unfold IsMap
  rw [keys_insert]
  by_cases hname : (entries.get? (.text name)).isSome = true
  · rw [if_pos hname, List.append_nil]
    exact h
  · rw [if_neg hname, List.pairwise_append]
    refine ⟨h, List.pairwise_singleton _ _, ?_⟩
    intro key hkey last hlast
    obtain rfl := List.mem_singleton.1 hlast
    rw [Scalar.same_text_eq_false]
    rintro rfl
    rw [Option.not_isSome_iff_eq_none, get?_eq_none] at hname
    exact hname hkey

theorem IsMap.erase (h : entries.IsMap) (key : Scalar) : (entries.erase key).IsMap :=
  h.sublist (List.Sublist.map _ List.filter_sublist)

theorem IsMap.insertAll (h : entries.IsMap) (hnew : ∀ e ∈ new, ∃ name, e.1 = .text name) :
    (entries.insertAll new).IsMap := by
  unfold Entries.insertAll
  induction new generalizing entries with
  | nil => exact h
  | cons e new ih =>
    obtain ⟨⟨name, hname⟩, hnew⟩ := List.forall_mem_cons.1 hnew
    rw [List.foldl_cons, hname]
    exact ih (h.insert name e.2) hnew

/-! ## Several pairs -/

/-- The last of the pairs with a key gives it a value. -/
def Answers (pairs : List (Scalar × α)) (k : String) (v : α) : Prop :=
  IsLast (fun e => e.1 = .text k) pairs (.text k, v)

theorem exists_answers {pairs : List (Scalar × α)} (h : .text k ∈ pairs.map (·.1)) : ∃ v, Answers pairs k v := by
  obtain ⟨e, he, hkey⟩ := List.mem_map.1 h
  obtain ⟨⟨key, v⟩, hlast⟩ := exists_isLast (P := fun e : Scalar × α => e.1 = .text k) ⟨e, he, hkey⟩
  obtain rfl : key = .text k := hlast.holds
  exact ⟨v, hlast⟩

theorem get?_insertAll_of_not_mem (hnew : ∀ e ∈ new, ∃ name, e.1 = .text name)
    (hk : .text k ∉ new.map (·.1)) : (entries.insertAll new).get? (.text k) = entries.get? (.text k) := by
  unfold insertAll
  induction new generalizing entries with
  | nil => rfl
  | cons e new ih =>
    obtain ⟨⟨name, hname⟩, hnew⟩ := List.forall_mem_cons.1 hnew
    rw [List.map_cons, List.mem_cons, not_or, hname, Scalar.text.injEq] at hk
    rw [List.foldl_cons, ih hnew hk.2, hname, get?_insert, if_neg (Ne.symm hk.1)]

theorem get?_insertAll_of_answers (hnew : ∀ e ∈ new, ∃ name, e.1 = .text name) (h : Answers new k v) :
    (entries.insertAll new).get? (.text k) = some v := by
  obtain ⟨before, after, rfl, -, hafter⟩ := h
  have hmem : .text k ∉ after.map (·.1) := by
    intro hk
    obtain ⟨e, he, hkey⟩ := List.mem_map.1 hk
    exact hafter e he hkey
  have hrest : ∀ e ∈ after, ∃ name, e.1 = .text name :=
    fun e he => hnew e (List.mem_append_right _ (List.mem_cons_of_mem _ he))
  have hcut : entries.insertAll (before ++ (.text k, v) :: after) =
      ((entries.insertAll before).insert (.text k) v).insertAll after := by
    simp only [insertAll, List.foldl_append, List.foldl_cons]
  rw [hcut, get?_insertAll_of_not_mem hrest hmem, get?_insert, if_pos rfl]

theorem get?_ofPairs (hnew : ∀ e ∈ new, ∃ name, e.1 = .text name) :
    (ofPairs new).get? (.text k) = some v ↔ Answers new k v := by
  constructor
  · intro h
    by_cases hk : .text k ∈ new.map (·.1)
    · obtain ⟨w, hw⟩ := exists_answers hk
      rw [ofPairs, get?_insertAll_of_answers hnew hw] at h
      cases h
      exact hw
    · rw [ofPairs, get?_insertAll_of_not_mem hnew hk] at h
      cases h
  · exact get?_insertAll_of_answers hnew

/-- In a map the value under a key is the one that its last pair has, because there is no other. -/
theorem IsMap.answers_iff (h : entries.IsMap) : Answers entries k v ↔ entries.get? (.text k) = some v := by
  have hget {w : α} (hw : Answers entries k w) : entries.get? (.text k) = some w := by
    obtain ⟨before, after, rfl, -⟩ := hw
    rw [IsMap, List.map_append, List.pairwise_append] at h
    have hbefore : ∀ e ∈ before, e.1.same (.text k) = false :=
      fun e he => h.2.2 e.1 (List.mem_map_of_mem he) _ List.mem_cons_self
    have hnone : before.find? (fun e => e.1.same (.text k)) = none := by
      rw [List.find?_eq_none]
      intro e he
      simp [hbefore e he]
    have hfound : (Scalar.text k).same (.text k) = true := Scalar.same_text.2 rfl
    rw [get?, List.find?_append, hnone, Option.none_or, List.find?_cons, hfound]
    rfl
  constructor
  · exact hget
  · intro hv
    by_cases hk : .text k ∈ entries.map (·.1)
    · obtain ⟨w, hw⟩ := exists_answers hk
      rw [hget hw] at hv
      cases hv
      exact hw
    · rw [get?_eq_none.2 hk] at hv
      cases hv

/-- The pairs of a map win over the entries they are added to. -/
theorem IsMap.get?_insertAll (h : new.IsMap) (hnew : ∀ e ∈ new, ∃ name, e.1 = .text name) :
    (entries.insertAll new).get? (.text k) = (new.get? (.text k)).or (entries.get? (.text k)) := by
  cases hget : new.get? (.text k) with
  | none => rw [Option.none_or, get?_insertAll_of_not_mem hnew (get?_eq_none.1 hget)]
  | some v => rw [Option.some_or, get?_insertAll_of_answers hnew (h.answers_iff.2 hget)]

end Entries

end TemplateTree
