import Mathlib.Data.List.Forall2
import Mathlib.Data.List.Induction
import TemplateTree.Proofs.Template.Graphs
import TemplateTree.Proofs.Template.Machine

/-!
# Values that are given to templates

What is given to an engine becomes a value: its lists and maps go into new cells, a graph goes into new cells once,
and everything else stands for itself. The value shows what was given as long as these cells are what they were,
whatever happens to others. Values that are given one after the other have just those cells in common that are
vertices which both of them have.

* `Shows`: a value shows what was given.
* `Shows.frame`: what a value shows depends on its own cells only.
* `Machine.Placed`: the graphs of a machine are in its cells, apart from each other.
* `ofTree_ends`: giving one value.
* `giveEntries_given`: giving the entries of a map.
-/

namespace TemplateTree.Template

variable {ν : Type} [Vertices ν] {cells cells' more : Array Cell} {graphs graphs' : List (Graph × CellId)}
  {v : Value} {d : Tree ν} {id : Nat}

/-! ## What a value shows -/

mutual

/-- A value shows what was given, if it has its shape, the cells of its lists and maps hold what shows their parts,
    and its vertices are where their graphs have been placed. -/
inductive Shows (graphs : List (Graph × CellId)) (cells : Array Cell) : Value → Tree ν → Prop
  | scalar (s : Scalar) : Shows graphs cells (ofScalar s) (.scalar s)
  | list {id : CellId} {items : List Value} {trees : List (Tree ν)}
      (held : cells[id]? = some (.list items.toArray)) (all : ShowsAll graphs cells items trees) :
      Shows graphs cells (.list id) (.list trees)
  | tuple {items : List Value} {trees : List (Tree ν)} (all : ShowsAll graphs cells items trees) :
      Shows graphs cells (.tuple items) (.tuple trees)
  | map {id : CellId} {entries : List (Value × Value)} {branches : List (Scalar × Tree ν)}
      (held : cells[id]? = some (.dict entries)) (all : ShowsPairs graphs cells entries branches) :
      Shows graphs cells (.dict id) (.map branches)
  | set (members : List Scalar) : Shows graphs cells (.set (members.map ofScalar)) (.set members)
  | project (p : Project) : Shows graphs cells (.project p) (.project p)
  | vertex {n : ν} {base : Nat} (placed : graphs.lookup (Vertices.vertex n).graph = some base)
      (holds : Holds cells (Vertices.vertex n).graph base (Vertices.vertex n).number) :
      Shows graphs cells (vertexValue (Vertices.vertex n).graph base (Vertices.vertex n).number) (.vertex n)

/-- Values show what was given, one by one. -/
inductive ShowsAll (graphs : List (Graph × CellId)) (cells : Array Cell) : List Value → List (Tree ν) → Prop
  | nil : ShowsAll graphs cells [] []
  | cons {v : Value} {d : Tree ν} {items : List Value} {trees : List (Tree ν)} (first : Shows graphs cells v d)
      (rest : ShowsAll graphs cells items trees) : ShowsAll graphs cells (v :: items) (d :: trees)

/-- Pairs of values show the entries of a map, one by one. -/
inductive ShowsPairs (graphs : List (Graph × CellId)) (cells : Array Cell) :
    List (Value × Value) → List (Scalar × Tree ν) → Prop
  | nil : ShowsPairs graphs cells [] []
  | cons (k : Scalar) {v : Value} {d : Tree ν} {entries : List (Value × Value)} {branches : List (Scalar × Tree ν)}
      (first : Shows graphs cells v d) (rest : ShowsPairs graphs cells entries branches) :
      ShowsPairs graphs cells ((ofScalar k, v) :: entries) ((k, d) :: branches)

end

/-! ## Own cells -/

mutual

/-- What a value shows depends on its own cells only, and on where the graphs are. -/
theorem Shows.frame {v : Value} {d : Tree ν} (h : Shows graphs cells v d)
    (hkept : ∀ g (base : Nat), graphs.lookup g = some base → graphs'.lookup g = some base)
    (hsame : ∀ id, PartOf cells id v → cells'[id]? = cells[id]?) :
    Shows graphs' cells' v d := by
  cases h with
  | scalar s => exact .scalar s
  | list held all =>
    refine .list ((hsame _ .list).trans held)
      (all.frame hkept fun v hv id hpart => hsame id (.item held ?_ hpart))
    simpa using hv
  | tuple all => exact .tuple (all.frame hkept fun v hv id hpart => hsame id (.tuple hv hpart))
  | map held all =>
    exact .map ((hsame _ .dict).trans held)
      (all.frame hkept fun e he id hpart => hsame id (.entry held he hpart))
  | set members => exact .set members
  | project p => exact .project p
  | vertex placed holds => exact .vertex (hkept _ _ placed) (holds.frame hsame)

theorem ShowsAll.frame {items : List Value} {trees : List (Tree ν)} (h : ShowsAll graphs cells items trees)
    (hkept : ∀ g (base : Nat), graphs.lookup g = some base → graphs'.lookup g = some base)
    (hsame : ∀ v ∈ items, ∀ id, PartOf cells id v → cells'[id]? = cells[id]?) :
    ShowsAll graphs' cells' items trees := by
  cases h with
  | nil => exact .nil
  | cons first rest =>
    exact .cons (first.frame hkept (hsame _ (.head _))) (rest.frame hkept fun v hv => hsame v (.tail _ hv))

theorem ShowsPairs.frame {entries : List (Value × Value)} {branches : List (Scalar × Tree ν)}
    (h : ShowsPairs graphs cells entries branches)
    (hkept : ∀ g (base : Nat), graphs.lookup g = some base → graphs'.lookup g = some base)
    (hsame : ∀ e ∈ entries, ∀ id, PartOf cells id e.2 → cells'[id]? = cells[id]?) :
    ShowsPairs graphs' cells' entries branches := by
  cases h with
  | nil => exact .nil
  | cons k first rest =>
    exact .cons k (first.frame hkept (hsame _ (.head _))) (rest.frame hkept fun e he => hsame e (.tail _ he))

end

mutual

/-- The own cells of a value that shows something are there. -/
theorem Shows.inside {v : Value} {d : Tree ν} (h : Shows graphs cells v d) (hpart : PartOf cells id v) :
    id < cells.size := by
  cases h with
  | scalar s => exact absurd hpart (not_partOf_ofScalar s)
  | list held all =>
    cases hpart with
    | list => exact (Array.getElem?_eq_some_iff.1 held).1
    | item held' mem part =>
      rw [held] at held'
      cases held'
      exact all.inside (by simpa using mem) part
  | tuple all =>
    cases hpart with
    | tuple mem part => exact all.inside mem part
  | map held all =>
    cases hpart with
    | dict => exact (Array.getElem?_eq_some_iff.1 held).1
    | entry held' mem part =>
      rw [held] at held'
      cases held'
      exact all.inside mem part
  | set members => cases hpart
  | project p => cases hpart
  | vertex placed holds =>
    obtain ⟨j, hleads, hj, rfl⟩ := holds.partOf_iff.1 hpart
    exact (Array.getElem?_eq_some_iff.1 (holds j _ hleads (List.getElem?_eq_getElem hj))).1

theorem ShowsAll.inside {items : List Value} {trees : List (Tree ν)} (h : ShowsAll graphs cells items trees)
    {v : Value} (hv : v ∈ items) (hpart : PartOf cells id v) : id < cells.size := by
  cases h with
  | nil => cases hv
  | cons first rest =>
    obtain rfl | hv := List.mem_cons.1 hv
    · exact first.inside hpart
    · exact rest.inside hv hpart

theorem ShowsPairs.inside {entries : List (Value × Value)} {branches : List (Scalar × Tree ν)}
    (h : ShowsPairs graphs cells entries branches) {k v : Value} (he : (k, v) ∈ entries)
    (hpart : PartOf cells id v) : id < cells.size := by
  cases h with
  | nil => cases he
  | cons k first rest =>
    obtain heq | he := List.mem_cons.1 he
    · cases heq
      exact first.inside hpart
    · exact rest.inside he hpart

end

mutual

/-- The vertices that something has are among the own cells of a value that shows it. -/
theorem Shows.partOf_of_has {v : Value} {d : Tree ν} (h : Shows graphs cells v d) {g : Graph} {base : Nat}
    {j : Nat} (hg : graphs.lookup g = some base) (hj : j < g.length) (hhas : d.Has g j) :
    PartOf cells (base + j) v := by
  cases h with
  | scalar | set | project => cases hhas
  | list held all =>
    cases hhas with
    | item mem hhas =>
      obtain ⟨v, hv, hpart⟩ := all.partOf_of_has hg hj mem hhas
      exact .item held (by simpa using hv) hpart
  | tuple all =>
    cases hhas with
    | part mem hhas =>
      obtain ⟨v, hv, hpart⟩ := all.partOf_of_has hg hj mem hhas
      exact .tuple hv hpart
  | map held all =>
    cases hhas with
    | entry mem hhas =>
      obtain ⟨e, he, hpart⟩ := all.partOf_of_has hg hj mem hhas
      exact .entry held he hpart
  | vertex placed holds =>
    cases hhas with
    | vertex graph leads =>
      subst graph
      rw [placed] at hg
      cases hg
      exact partOf_of_leads holds leads hj

theorem ShowsAll.partOf_of_has {items : List Value} {trees : List (Tree ν)} (h : ShowsAll graphs cells items trees)
    {g : Graph} {base : Nat} {j : Nat} (hg : graphs.lookup g = some base) (hj : j < g.length) {d : Tree ν}
    (hd : d ∈ trees) (hhas : d.Has g j) : ∃ v ∈ items, PartOf cells (base + j) v := by
  cases h with
  | nil => cases hd
  | cons first rest =>
    obtain rfl | hd := List.mem_cons.1 hd
    · exact ⟨_, List.mem_cons_self, first.partOf_of_has hg hj hhas⟩
    · obtain ⟨v, hv, hpart⟩ := rest.partOf_of_has hg hj hd hhas
      exact ⟨v, List.mem_cons_of_mem _ hv, hpart⟩

theorem ShowsPairs.partOf_of_has {entries : List (Value × Value)} {branches : List (Scalar × Tree ν)}
    (h : ShowsPairs graphs cells entries branches) {g : Graph} {base : Nat} {j : Nat}
    (hg : graphs.lookup g = some base) (hj : j < g.length) {e : Scalar × Tree ν} (he : e ∈ branches)
    (hhas : e.2.Has g j) : ∃ e ∈ entries, PartOf cells (base + j) e.2 := by
  cases h with
  | nil => cases he
  | cons k first rest =>
    obtain rfl | he := List.mem_cons.1 he
    · exact ⟨_, List.mem_cons_self, first.partOf_of_has hg hj hhas⟩
    · obtain ⟨e, he, hpart⟩ := rest.partOf_of_has hg hj he hhas
      exact ⟨e, List.mem_cons_of_mem _ he, hpart⟩

end

/-! ## Graphs in a machine -/

/-- The graphs of a machine are in its cells as they were given, each apart from the others. -/
structure Machine.Placed (m : Machine) : Prop where
  inside : ∀ g (base : Nat), m.graphs.lookup g = some base → base + g.length ≤ m.cells.size
  holds : ∀ g (base : Nat), m.graphs.lookup g = some base → ∀ i, Holds m.cells g base i
  apart : ∀ g (base : Nat) g' (base' : Nat), m.graphs.lookup g = some base → m.graphs.lookup g' = some base' →
    ∀ i < g.length, ∀ j < g'.length, base + i = base' + j → g = g'

theorem Machine.placed_empty (strict : Bool) : (Machine.empty strict).Placed := by
  constructor <;> simp [Machine.empty]

/-- A machine goes on from another one, with more cells, and with graphs in these. -/
structure Machine.Extends (m m' : Machine) : Prop where
  rest : m' = { m with cells := m'.cells, graphs := m'.graphs }
  cells : ∃ more, m'.cells = m.cells ++ more
  kept : ∀ g (base : Nat), m.graphs.lookup g = some base → m'.graphs.lookup g = some base
  new : ∀ g (base : Nat), m'.graphs.lookup g = some base → m.graphs.lookup g = some base ∨ m.cells.size ≤ base
  placed : m.Placed → m'.Placed

section

variable {m m' m'' : Machine}

theorem Machine.Extends.refl (m : Machine) : m.Extends m :=
  ⟨rfl, ⟨#[], by simp⟩, fun _ _ h => h, fun _ _ h => .inl h, fun h => h⟩

theorem Machine.Extends.size_le (h : m.Extends m') : m.cells.size ≤ m'.cells.size := by
  obtain ⟨more, hmore⟩ := h.cells
  rw [hmore, Array.size_append]
  omega

theorem Machine.Extends.getElem? (h : m.Extends m') (hid : id < m.cells.size) : m'.cells[id]? = m.cells[id]? := by
  obtain ⟨more, hmore⟩ := h.cells
  rw [hmore, Array.getElem?_append_left hid]

theorem Machine.Extends.trans (h : m.Extends m') (h' : m'.Extends m'') : m.Extends m'' := by
  obtain ⟨more, hmore⟩ := h.cells
  obtain ⟨more', hmore'⟩ := h'.cells
  refine ⟨?_, ⟨more ++ more', ?_⟩, fun g base hg => h'.kept g base (h.kept g base hg), fun g base hg => ?_,
    fun hm => h'.placed (h.placed hm)⟩
  · rw [h'.rest, h.rest]
  · rw [hmore', hmore, Array.append_assoc]
  · obtain hg | hbase := h'.new g base hg
    · exact h.new g base hg
    · exact .inr (Nat.le_trans h.size_le hbase)

theorem Machine.Placed.push (h : m.Placed) (c : Cell) : { m with cells := m.cells.push c }.Placed := by
  refine ⟨fun g base hg => ?_, fun g base hg i j c' hleads hc => ?_, h.apart⟩
  · rw [Array.size_push]
    exact Nat.le_succ_of_le (h.inside g base hg)
  · have hheld := h.holds g base hg i j c' hleads hc
    have hlt := (Array.getElem?_eq_some_iff.1 hheld).1
    simp only [Array.getElem?_push, Nat.ne_of_lt hlt, if_false]
    exact hheld

/-- A new cell. -/
theorem Machine.extends_push (m : Machine) (c : Cell) : m.Extends { m with cells := m.cells.push c } :=
  ⟨rfl, ⟨#[c], by simp⟩, fun _ _ h => h, fun _ _ h => .inl h, fun h => h.push c⟩

theorem Shows.extend (h : Shows m.graphs m.cells v d) (hm : m.Extends m') : Shows m'.graphs m'.cells v d :=
  h.frame hm.kept fun _ hpart => hm.getElem? (h.inside hpart)

theorem ShowsAll.extend {items : List Value} {trees : List (Tree ν)} (h : ShowsAll m.graphs m.cells items trees)
    (hm : m.Extends m') : ShowsAll m'.graphs m'.cells items trees :=
  h.frame hm.kept fun _ hv _ hpart => hm.getElem? (h.inside hv hpart)

theorem ShowsPairs.extend {entries : List (Value × Value)} {branches : List (Scalar × Tree ν)}
    (h : ShowsPairs m.graphs m.cells entries branches) (hm : m.Extends m') :
    ShowsPairs m'.graphs m'.cells entries branches :=
  h.frame hm.kept fun _ he _ hpart => hm.getElem? (h.inside he hpart)

/-- A value that shows something is made of the same cells when the machine goes on. -/
theorem Shows.partOf_of_extends (h : Shows m.graphs m.cells v d) (hm : m.Extends m')
    (hpart : PartOf m'.cells id v) : PartOf m.cells id v :=
  hpart.frame fun _ hpart => hm.getElem? (h.inside hpart)

/-! ## Placing a graph -/

/-- A graph that has been added behind the cells of a machine. -/
def Machine.withGraph (m : Machine) (g : Graph) : Machine :=
  { m with
    cells := m.cells ++ (g.map (collectionCell g m.cells.size)).toArray
    graphs := (g, m.cells.size) :: m.graphs }

theorem Machine.lookup_withGraph {g g' : Graph} {base : Nat}
    (h : (m.withGraph g).graphs.lookup g' = some base) :
    (g' = g ∧ base = m.cells.size) ∨ m.graphs.lookup g' = some base := by
  simp only [withGraph, List.lookup_cons] at h
  split at h
  · obtain rfl := beq_iff_eq.1 ‹_›
    cases h
    exact .inl ⟨rfl, rfl⟩
  · exact .inr h

theorem Machine.getElem?_withGraph {g : Graph} {j : Nat} {c : Graph.Collection} (hc : g[j]? = some c) :
    (m.withGraph g).cells[m.cells.size + j]? = some (collectionCell g m.cells.size c) := by
  simp only [withGraph]
  rw [Array.getElem?_append_right (by omega), Nat.add_sub_cancel_left]
  simp [hc]

theorem Machine.Placed.withGraph (h : m.Placed) (g : Graph) : (m.withGraph g).Placed := by
  have hsize : (m.withGraph g).cells.size = m.cells.size + g.length := by simp [Machine.withGraph]
  constructor
  · intro g' base hg
    obtain ⟨rfl, rfl⟩ | hg := Machine.lookup_withGraph hg
    · exact Nat.le_of_eq hsize.symm
    · rw [hsize]
      exact Nat.le_add_right_of_le (h.inside g' base hg)
  · intro g' base hg i j c hleads hc
    obtain ⟨rfl, rfl⟩ | hg := Machine.lookup_withGraph hg
    · exact Machine.getElem?_withGraph hc
    · have hheld := h.holds g' base hg i j c hleads hc
      have hlt := (Array.getElem?_eq_some_iff.1 hheld).1
      simp only [Machine.withGraph, Array.getElem?_append_left hlt]
      exact hheld
  · intro g₁ base₁ g₂ base₂ h₁ h₂ i hi j hj heq
    obtain ⟨rfl, rfl⟩ | h₁' := Machine.lookup_withGraph h₁
    · obtain ⟨rfl, -⟩ | h₂' := Machine.lookup_withGraph h₂
      · rfl
      · have := h.inside g₂ base₂ h₂'
        omega
    · obtain ⟨rfl, rfl⟩ | h₂' := Machine.lookup_withGraph h₂
      · have := h.inside g₁ base₁ h₁'
        omega
      · exact h.apart g₁ base₁ g₂ base₂ h₁' h₂' i hi j hj heq

theorem Machine.extends_withGraph {g : Graph} (hnew : m.graphs.lookup g = none) : m.Extends (m.withGraph g) := by
  refine ⟨rfl, ⟨_, rfl⟩, fun g' base hg => ?_, fun g' base hg => ?_, fun h => h.withGraph g⟩
  · simp only [withGraph, List.lookup_cons]
    have hne : (g' == g) = false := by
      rw [beq_eq_false_iff_ne]
      rintro rfl
      rw [hnew] at hg
      cases hg
    rw [hne]
    exact hg
  · obtain ⟨-, rfl⟩ | hg := Machine.lookup_withGraph hg
    · exact .inr (Nat.le_refl _)
    · exact .inl hg

/-- A graph is placed where it is, or behind all cells. -/
theorem placeGraph_ends (g : Graph) (m : Machine) :
    ∃ base m', (placeGraph g).Ends m base m' ∧ m.Extends m' ∧ m'.graphs.lookup g = some base := by
  cases hlookup : m.graphs.lookup g with
  | some base =>
    refine ⟨base, m, ?_, .refl m, hlookup⟩
    unfold placeGraph Eval.Ends
    simp only [modifyGet, MonadStateOf.modifyGet, hlookup]
  | none =>
    refine ⟨m.cells.size, m.withGraph g, ?_, Machine.extends_withGraph hlookup, ?_⟩
    · unfold placeGraph Eval.Ends
      simp only [modifyGet, MonadStateOf.modifyGet, hlookup]
      rfl
    · simp [Machine.withGraph]

/-! ## Giving a value -/

/-- A cell of a value that has been given: one from `size` on that belongs to no graph, or that of a vertex which was
    given. -/
def Owned (size : Nat) (m : Machine) (d : Tree ν) (id : Nat) : Prop :=
  (size ≤ id ∧ ∀ g (base : Nat), m.graphs.lookup g = some base → ∀ j < g.length, id ≠ base + j) ∨
    ∃ g, ∃ base j : Nat, m.graphs.lookup g = some base ∧ j < g.length ∧ id = base + j ∧ d.Has g j

theorem Owned.extend {size : Nat} (h : Owned size m d id) (hm : m.Extends m') (hid : id < m.cells.size) :
    Owned size m' d id := by
  obtain ⟨hsize, hout⟩ | ⟨g, base, j, hg, hj, heq, hhas⟩ := h
  · refine .inl ⟨hsize, fun g base hg j hj => ?_⟩
    obtain hg | hbase := hm.new g base hg
    · exact hout g base hg j hj
    · omega
  · exact .inr ⟨g, base, j, hm.kept g base hg, hj, heq, hhas⟩

theorem Owned.mono {size size' : Nat} {d' : Tree ν} (h : Owned size m d id) (hsize : size' ≤ size)
    (hhas : ∀ g j, d.Has g j → d'.Has g j) : Owned size' m d' id := by
  obtain ⟨hid, hout⟩ | ⟨g, base, j, hg, hj, heq, hd⟩ := h
  · exact .inl ⟨Nat.le_trans hsize hid, hout⟩
  · exact .inr ⟨g, base, j, hg, hj, heq, hhas g j hd⟩

/-- A cell behind all others belongs to no graph. -/
theorem owned_next (hm : m.Extends m') (hplaced : m.Placed) (c : Cell) :
    Owned m.cells.size { m' with cells := m'.cells.push c } d m'.cells.size := by
  refine .inl ⟨hm.size_le, fun g base hg j hj => ?_⟩
  have := (hm.placed hplaced).inside g base hg
  omega

/-- A value has been given: it shows what was given, and is made of new cells but for vertices. -/
structure Gave (size : Nat) (m : Machine) (v : Value) (d : Tree ν) : Prop where
  shows : Shows m.graphs m.cells v d
  owned : ∀ id, PartOf m.cells id v → Owned size m d id

theorem Gave.extend {size : Nat} (h : Gave size m v d) (hm : m.Extends m') : Gave size m' v d := by
  refine ⟨h.shows.extend hm, fun id hpart => ?_⟩
  have hpart := h.shows.partOf_of_extends hm hpart
  exact (h.owned id hpart).extend hm (h.shows.inside hpart)

mutual

/-- A value goes into the machine, which goes on from where it was. -/
theorem ofTree_ends (d : Tree ν) (m : Machine) :
    ∃ v m', (ofTree d).Ends m v m' ∧ m.Extends m' ∧ (m.Placed → Gave m.cells.size m' v d) := by
  cases d with
  | scalar s =>
    exact ⟨ofScalar s, m, by rw [ofTree]; rfl, .refl m,
      fun _ => ⟨.scalar s, fun id hpart => absurd hpart (not_partOf_ofScalar s)⟩⟩
  | list trees =>
    obtain ⟨items, m', hitems, hm, hgave⟩ := ofTrees_ends trees m
    have hpush := m'.extends_push (.list items.toArray)
    have hheld : (m'.cells.push (.list items.toArray))[m'.cells.size]? = some (.list items.toArray) := by simp
    refine ⟨.list m'.cells.size, _, ?_, hm.trans hpush, fun hplaced => ?_⟩
    · rw [ofTree]
      exact hitems.bind ((ends_alloc _ m').bind rfl)
    · obtain ⟨hall, heach⟩ := hgave hplaced
      refine ⟨.list hheld (hall.extend hpush), fun id hpart => ?_⟩
      cases hpart with
      | list => exact owned_next hm hplaced _
      | item held mem part =>
        obtain rfl : items.toArray = _ := by simpa using hheld.symm.trans held
        obtain ⟨d, hd, hgave⟩ := heach _ mem
        exact ((hgave.extend hpush).owned id part).mono (Nat.le_refl _) fun g j => .item hd
  | tuple trees =>
    obtain ⟨items, m', hitems, hm, hgave⟩ := ofTrees_ends trees m
    refine ⟨.tuple items, m', ?_, hm, fun hplaced => ?_⟩
    · rw [ofTree]
      exact hitems.bind rfl
    · obtain ⟨hall, heach⟩ := hgave hplaced
      refine ⟨.tuple hall, fun id hpart => ?_⟩
      cases hpart with
      | tuple mem part =>
        obtain ⟨d, hd, hgave⟩ := heach _ mem
        exact (hgave.owned id part).mono (Nat.le_refl _) fun g j => .part hd
  | map branches =>
    obtain ⟨entries, m', hentries, hm, hgave⟩ := ofBranches_ends branches m
    have hpush := m'.extends_push (.dict entries)
    have hheld : (m'.cells.push (.dict entries))[m'.cells.size]? = some (.dict entries) := by simp
    refine ⟨.dict m'.cells.size, _, ?_, hm.trans hpush, fun hplaced => ?_⟩
    · rw [ofTree]
      exact hentries.bind ((ends_alloc _ m').bind rfl)
    · obtain ⟨hall, heach⟩ := hgave hplaced
      refine ⟨.map hheld (hall.extend hpush), fun id hpart => ?_⟩
      cases hpart with
      | dict => exact owned_next hm hplaced _
      | entry held mem part =>
        obtain rfl : entries = _ := by simpa using hheld.symm.trans held
        obtain ⟨e, he, hgave⟩ := heach _ mem
        exact ((hgave.extend hpush).owned id part).mono (Nat.le_refl _) fun g j => .entry he
  | set members =>
    exact ⟨_, m, by rw [ofTree]; rfl, .refl m, fun _ => ⟨.set members, nofun⟩⟩
  | project p =>
    exact ⟨_, m, by rw [ofTree]; rfl, .refl m, fun _ => ⟨.project p, nofun⟩⟩
  | vertex n =>
    obtain ⟨base, m', hbase, hm, hlookup⟩ := placeGraph_ends (Vertices.vertex n).graph m
    let x := Vertices.vertex n
    refine ⟨vertexValue x.graph base x.number, m', ?_, hm, fun hplaced => ?_⟩
    · rw [ofTree]
      exact hbase.bind rfl
    · have hholds := (hm.placed hplaced).holds _ _ hlookup (Vertices.vertex n).number
      refine ⟨.vertex hlookup hholds, fun id hpart => ?_⟩
      obtain ⟨j, hleads, hj, rfl⟩ := hholds.partOf_iff.1 hpart
      exact .inr ⟨_, base, j, hlookup, hj, rfl, .vertex rfl hleads⟩

theorem ofTrees_ends (trees : List (Tree ν)) (m : Machine) :
    ∃ items m', (ofTrees trees).Ends m items m' ∧ m.Extends m' ∧ (m.Placed →
      ShowsAll m'.graphs m'.cells items trees ∧ ∀ v ∈ items, ∃ d ∈ trees, Gave m.cells.size m' v d) := by
  cases trees with
  | nil => exact ⟨[], m, by rw [ofTrees]; rfl, .refl m, fun _ => ⟨.nil, nofun⟩⟩
  | cons d trees =>
    obtain ⟨v, m', hv, hm, hgave⟩ := ofTree_ends d m
    obtain ⟨items, m'', hitems, hm', hall⟩ := ofTrees_ends trees m'
    refine ⟨v :: items, m'', ?_, hm.trans hm', fun hplaced => ?_⟩
    · rw [ofTrees]
      exact hv.bind (hitems.bind rfl)
    · have hfirst := (hgave hplaced).extend hm'
      obtain ⟨hshows, heach⟩ := hall (hm.placed hplaced)
      refine ⟨.cons hfirst.shows hshows, fun w hw => ?_⟩
      obtain rfl | hw := List.mem_cons.1 hw
      · exact ⟨d, List.mem_cons_self, hfirst⟩
      · obtain ⟨d', hd', hgave'⟩ := heach w hw
        exact ⟨d', List.mem_cons_of_mem _ hd', hgave'.shows, fun id hpart =>
          (hgave'.owned id hpart).mono hm.size_le fun g j h => h⟩

theorem ofBranches_ends (branches : List (Scalar × Tree ν)) (m : Machine) :
    ∃ entries m', (ofBranches branches).Ends m entries m' ∧ m.Extends m' ∧ (m.Placed →
      ShowsPairs m'.graphs m'.cells entries branches ∧
        ∀ e ∈ entries, ∃ b ∈ branches, Gave m.cells.size m' e.2 b.2) := by
  cases branches with
  | nil => exact ⟨[], m, by rw [ofBranches]; rfl, .refl m, fun _ => ⟨.nil, nofun⟩⟩
  | cons b branches =>
    obtain ⟨k, d⟩ := b
    obtain ⟨v, m', hv, hm, hgave⟩ := ofTree_ends d m
    obtain ⟨entries, m'', hentries, hm', hall⟩ := ofBranches_ends branches m'
    refine ⟨(ofScalar k, v) :: entries, m'', ?_, hm.trans hm', fun hplaced => ?_⟩
    · rw [ofBranches]
      exact hv.bind (hentries.bind rfl)
    · have hfirst := (hgave hplaced).extend hm'
      obtain ⟨hshows, heach⟩ := hall (hm.placed hplaced)
      refine ⟨.cons k hfirst.shows hshows, fun e he => ?_⟩
      obtain rfl | he := List.mem_cons.1 he
      · exact ⟨(k, d), List.mem_cons_self, hfirst⟩
      · obtain ⟨b', hb', hgave'⟩ := heach e he
        exact ⟨b', List.mem_cons_of_mem _ hb', hgave'.shows, fun id hpart =>
          (hgave'.owned id hpart).mono hm.size_le fun g j h => h⟩

end

theorem give_eq (s : Session) (d : Tree ν) :
    ∃ v m, s.give d = (v, { s with machine := m }) ∧ s.machine.Extends m ∧
      (s.machine.Placed → Gave s.machine.cells.size m v d) := by
  obtain ⟨v, m, hends, hm, hgave⟩ := ofTree_ends d s.machine
  refine ⟨v, m, ?_, hm, hgave⟩
  rw [Session.give, show ofTree d s.machine = _ from hends]
  rfl

/-! ## Giving the entries of a map -/

/-- The cells that two values have in common are those of the vertices that were given with both. -/
def MeetInVertices (m : Machine) (e f : Value × Tree ν) : Prop :=
  ∀ id : Nat, (PartOf m.cells id e.1 ∧ PartOf m.cells id f.1) ↔
    ∃ g, ∃ base j : Nat, m.graphs.lookup g = some base ∧ j < g.length ∧ id = base + j ∧ e.2.Has g j ∧ f.2.Has g j

/-- Two values that have been given have no cell in common, unless it is that of a vertex. -/
theorem meetInVertices {e f : Value × Tree ν} {size : Nat} (hplaced : m.Placed) (he : Gave 0 m e.1 e.2)
    (hf : Gave size m f.1 f.2) (hold : ∀ id, PartOf m.cells id e.1 → id < size) : MeetInVertices m e f := by
  intro id
  constructor
  · rintro ⟨hpart, hpart'⟩
    obtain ⟨hnew, -⟩ | ⟨g, base, j, hg, hj, rfl, hhas⟩ := hf.owned id hpart'
    · exact absurd (hold id hpart) (Nat.not_lt.2 hnew)
    · obtain ⟨-, hout⟩ | ⟨g', base', j', hg', hj', heq, hhas'⟩ := he.owned _ hpart
      · exact absurd rfl (hout g base hg j hj)
      · obtain rfl := hplaced.apart g base g' base' hg hg' j hj j' hj' heq
        rw [hg] at hg'
        cases hg'
        obtain rfl := Nat.add_left_cancel heq
        exact ⟨g, base, j, hg, hj, rfl, hhas', hhas⟩
  · rintro ⟨g, base, j, hg, hj, rfl, hhas, hhas'⟩
    exact ⟨he.shows.partOf_of_has hg hj hhas, hf.shows.partOf_of_has hg hj hhas'⟩

theorem MeetInVertices.extend {e f : Value × Tree ν} (h : MeetInVertices m e f) (hm : m.Extends m')
    (he : Shows m.graphs m.cells e.1 e.2) (hf : Shows m.graphs m.cells f.1 f.2) : MeetInVertices m' e f := by
  intro id
  constructor
  · rintro ⟨hpart, hpart'⟩
    obtain ⟨g, base, j, hg, hrest⟩ := (h id).1 ⟨he.partOf_of_extends hm hpart, hf.partOf_of_extends hm hpart'⟩
    exact ⟨g, base, j, hm.kept g base hg, hrest⟩
  · rintro ⟨g, base, j, hg, hj, rfl, hhas, hhas'⟩
    exact ⟨(he.extend hm).partOf_of_has hg hj hhas, (hf.extend hm).partOf_of_has hg hj hhas'⟩

/-- Entries that have been given: each value shows what it was given as, and two of them meet in vertices only. -/
structure Given (m : Machine) (given : Entries Value) (entries : Entries (Tree ν)) : Prop where
  gave : List.Forall₂ (fun e e' => e.1 = e'.1 ∧ Gave 0 m e.2 e'.2) given entries
  meet : ((given.map (·.2)).zip (entries.map (·.2))).Pairwise (MeetInVertices m)

namespace Given

variable {given : Entries Value} {entries : Entries (Tree ν)}

theorem shows (h : Given m given entries) :
    List.Forall₂ (fun e e' => e.1 = e'.1 ∧ Shows m.graphs m.cells e.2 e'.2) given entries :=
  h.gave.imp fun _ _ he => ⟨he.1, he.2.shows⟩

theorem gave_of_mem (h : Given m given entries) {e : Value × Tree ν}
    (he : e ∈ (given.map (·.2)).zip (entries.map (·.2))) : Gave 0 m e.1 e.2 := by
  have hall : List.Forall₂ (Gave 0 m) (given.map (·.2)) (entries.map (·.2)) :=
    List.forall₂_map_left_iff.2 (List.forall₂_map_right_iff.2 (h.gave.imp fun _ _ he => he.2))
  exact List.forall₂_iff_zip.1 hall |>.2 he

/-- When the machine goes on, what has been given is the same. -/
theorem extend (h : Given m given entries) (hm : m.Extends m') : Given m' given entries := by
  refine ⟨h.gave.imp fun _ _ he => ⟨he.1, he.2.extend hm⟩, ?_⟩
  exact h.meet.imp_of_mem fun he hf hmeet => hmeet.extend hm (h.gave_of_mem he).shows (h.gave_of_mem hf).shows

/-- One more entry. -/
theorem concat (h : Given m given entries) (hm : m.Extends m') (hplaced : m.Placed) (k : Scalar)
    (hgave : Gave m.cells.size m' v d) : Given m' (given ++ [(k, v)]) (entries ++ [(k, d)]) := by
  have hlater := h.extend hm
  have hzero : Gave 0 m' v d :=
    ⟨hgave.shows, fun id hpart => (hgave.owned id hpart).mono (Nat.zero_le _) fun g j h => h⟩
  refine ⟨List.rel_append hlater.gave (.cons ⟨rfl, hzero⟩ .nil), ?_⟩
  have hlength : (given.map (·.2)).length = (entries.map (·.2)).length := by simpa using h.gave.length_eq
  rw [List.map_append, List.map_append, List.zip_append hlength]
  refine List.pairwise_append.2 ⟨hlater.meet, List.pairwise_singleton _ _, fun e he f hf => ?_⟩
  obtain rfl := List.mem_singleton.1 hf
  refine meetInVertices (hm.placed hplaced) (hlater.gave_of_mem he) hgave fun id hpart => ?_
  have hshows := (h.gave_of_mem he).shows
  exact hshows.inside (hshows.partOf_of_extends hm hpart)

end Given

theorem giveEntries_concat (s : Session) (entries : Entries (Tree ν)) (k : Scalar) (d : Tree ν) :
    s.giveEntries (entries ++ [(k, d)]) =
      let (given, s) := s.giveEntries entries
      (given ++ [(k, (s.give d).1)], (s.give d).2) := by
  simp [Session.giveEntries, List.foldl_append]

theorem giveEntries_given (s : Session) (entries : Entries (Tree ν)) :
    ∃ m, (s.giveEntries entries).2 = { s with machine := m } ∧ s.machine.Extends m ∧
      (s.machine.Placed → Given m (s.giveEntries entries).1 entries) := by
  induction entries using List.reverseRecOn with
  | nil => exact ⟨s.machine, rfl, .refl _, fun _ => ⟨.nil, .nil⟩⟩
  | append_singleton entries e ih =>
    obtain ⟨k, d⟩ := e
    obtain ⟨m, hsession, hm, hgiven⟩ := ih
    rw [giveEntries_concat]
    generalize s.giveEntries entries = result at hsession hgiven ⊢
    obtain ⟨given, s'⟩ := result
    obtain rfl : s' = _ := hsession
    obtain ⟨v, m', hgive, hm', hgave⟩ := give_eq { s with machine := m } d
    simp only [hgive]
    exact ⟨m', rfl, hm.trans hm', fun hplaced =>
      (hgiven hplaced).concat hm' (hm.placed hplaced) k (hgave (hm.placed hplaced))⟩

/-- Entries keep their keys when they are given. -/
theorem giveEntries_keys (s : Session) (entries : Entries (Tree ν)) :
    (s.giveEntries entries).1.map (·.1) = entries.map (·.1) := by
  induction entries using List.reverseRecOn with
  | nil => rfl
  | append_singleton entries e ih =>
    rw [giveEntries_concat]
    simp [ih]

end

end TemplateTree.Template
