import TemplateTree.Template.Engine

/-!
# Graphs in cells

A value is made of the cells that can be reached from it. The collections of a graph have one cell each, and what
can be reached from a vertex in the graph and in the cells is the same, also when the graph leads back to itself.

* `PartOf`: the cells that a value is made of.
* `Graph.Leads`: the vertices that can be reached from a vertex.
* `Holds`: the cells of a vertex, and of all that it leads to, are as in the graph.
* `Holds.partOf_iff`: a vertex is made of the cells of what it leads to.
-/

namespace TemplateTree

/-! ## Reaching vertices -/

namespace Graph

/-- A part is a collection by its number, or has it among its items. -/
inductive Part.Names (j : Nat) : Part → Prop
  | vertex : Names j (.vertex j)
  | item {items : List Part} {p : Part} (mem : p ∈ items) (h : Names j p) : Names j (.tuple items)

/-- A collection has another one as a part. -/
def Collection.Names (j : Nat) : Collection → Prop
  | .list items => ∃ p ∈ items, p.Names j
  | .map entries => ∃ e ∈ entries, e.2.Names j

/-- A vertex leads to itself, and to what its parts lead to. -/
inductive Leads (g : Graph) : Nat → Nat → Prop
  | here (i : Nat) : Leads g i i
  | on {i j k : Nat} {c : Collection} (at_ : g[i]? = some c) (names : c.Names j) (rest : Leads g j k) : Leads g i k

theorem Leads.trans {g : Graph} {i j k : Nat} (h : g.Leads i j) (h' : g.Leads j k) : g.Leads i k := by
  induction h with
  | here => exact h'
  | on at_ names _ ih => exact .on at_ names (ih h')

end Graph

/-- A value has a vertex among what it is made of. -/
inductive Tree.Has {ν : Type} [Vertices ν] (g : Graph) (j : Nat) : Tree ν → Prop
  | vertex {v : ν} (graph : (Vertices.vertex v).graph = g) (leads : g.Leads (Vertices.vertex v).number j) :
      Has g j (.vertex v)
  | item {items : List (Tree ν)} {d : Tree ν} (mem : d ∈ items) (h : Has g j d) : Has g j (.list items)
  | part {items : List (Tree ν)} {d : Tree ν} (mem : d ∈ items) (h : Has g j d) : Has g j (.tuple items)
  | entry {entries : List (Scalar × Tree ν)} {e : Scalar × Tree ν} (mem : e ∈ entries) (h : Has g j e.2) :
      Has g j (.map entries)

namespace Template

variable {cells cells' : Array Cell} {g : Graph} {base id : CellId} {i j : Nat} {v : Value} {p : Graph.Part}

/-! ## The cells of a value -/

/-- A cell is one of those that a value is made of. -/
inductive PartOf (cells : Array Cell) (id : CellId) : Value → Prop
  | list : PartOf cells id (.list id)
  | item {list : CellId} {items : Array Value} {v : Value} (held : cells[list]? = some (.list items))
      (mem : v ∈ items.toList) (part : PartOf cells id v) : PartOf cells id (.list list)
  | tuple {items : List Value} {v : Value} (mem : v ∈ items) (part : PartOf cells id v) :
      PartOf cells id (.tuple items)
  | dict : PartOf cells id (.dict id)
  | entry {dict : CellId} {entries : List (Value × Value)} {k v : Value}
      (held : cells[dict]? = some (.dict entries)) (mem : (k, v) ∈ entries) (part : PartOf cells id v) :
      PartOf cells id (.dict dict)

/-- When the cells of a value are the same in other cells, it is made of no more than these there. -/
theorem PartOf.frame (h : PartOf cells' id v) (hsame : ∀ id, PartOf cells id v → cells'[id]? = cells[id]?) :
    PartOf cells id v := by
  induction h with
  | list => exact .list
  | item held mem _ ih =>
    have held := (hsame _ .list).symm.trans held
    exact .item held mem (ih fun id hpart => hsame id (.item held mem hpart))
  | tuple mem _ ih => exact .tuple mem (ih fun id hpart => hsame id (.tuple mem hpart))
  | dict => exact .dict
  | entry held mem _ ih =>
    have held := (hsame _ .dict).symm.trans held
    exact .entry held mem (ih fun id hpart => hsame id (.entry held mem hpart))

/-- Values that stand for themselves are not made of cells. -/
theorem not_partOf_ofScalar (s : Scalar) : ¬PartOf cells id (ofScalar s) := by
  cases s <;> exact nofun

/-! ## The cells of a graph -/

theorem mem_partValues {items : List Graph.Part} (h : v ∈ partValues g base items) :
    ∃ p ∈ items, v = partValue g base p := by
  induction items with
  | nil => cases h
  | cons p rest ih =>
    rw [partValues, List.mem_cons] at h
    obtain rfl | h := h
    · exact ⟨p, List.mem_cons_self, rfl⟩
    · obtain ⟨q, hq, hv⟩ := ih h
      exact ⟨q, List.mem_cons_of_mem _ hq, hv⟩

theorem partValue_mem {items : List Graph.Part} (h : p ∈ items) : partValue g base p ∈ partValues g base items := by
  induction h with
  | head => exact List.mem_cons_self
  | tail _ _ ih => exact List.mem_cons_of_mem _ ih

/-- The cells of a vertex, and of all that it leads to, are as in the graph. -/
def Holds (cells : Array Cell) (g : Graph) (base : CellId) (i : Nat) : Prop :=
  ∀ j c, g.Leads i j → g[j]? = some c → cells[base + j]? = some (collectionCell g base c)

theorem Holds.of_leads (h : Holds cells g base i) (hleads : g.Leads i j) : Holds cells g base j :=
  fun _ _ hon hc => h _ _ (hleads.trans hon) hc

/-- A part is made of what the collection that it names is made of. -/
theorem partOf_of_names (hnames : p.Names i) (h : PartOf cells id (vertexValue g base i)) :
    PartOf cells id (partValue g base p) := by
  induction hnames with
  | vertex => exact h
  | item mem _ ih => exact .tuple (partValue_mem mem) ih

theorem partOf_of_leads (h : Holds cells g base i) (hleads : g.Leads i j) (hj : j < g.length) :
    PartOf cells (base + j) (vertexValue g base i) := by
  induction hleads with
  | here i =>
    unfold vertexValue
    rw [List.getElem?_eq_getElem hj]
    cases g[i] with
    | list => exact .list
    | map => exact .dict
  | @on i k j c hat hnames rest ih =>
    have hnext := ih (h.of_leads (.on hat hnames (.here k))) hj
    have hheld := h i c (.here i) hat
    unfold vertexValue
    rw [hat]
    cases c with
    | list items =>
      obtain ⟨p, hp, hnames⟩ := hnames
      exact .item hheld (by simpa using partValue_mem hp) (partOf_of_names hnames hnext)
    | map entries =>
      obtain ⟨e, he, hnames⟩ := hnames
      exact .entry hheld (List.mem_map_of_mem he) (partOf_of_names hnames hnext)

theorem vertexValue_eq_list (h : .list id = vertexValue g base i) :
    ∃ items, g[i]? = some (.list items) ∧ id = base + i := by
  unfold vertexValue at h
  split at h
  · cases h
    exact ⟨_, ‹_›, rfl⟩
  · cases h
  · cases h

theorem vertexValue_eq_dict (h : .dict id = vertexValue g base i) :
    ∃ entries, g[i]? = some (.map entries) ∧ id = base + i := by
  unfold vertexValue at h
  split at h
  · cases h
  · cases h
    exact ⟨_, ‹_›, rfl⟩
  · cases h

theorem partValue_eq_list (h : .list id = partValue g base p) :
    ∃ i items, p = .vertex i ∧ g[i]? = some (.list items) ∧ id = base + i := by
  cases p with
  | scalar s => cases s <;> cases h
  | tuple | set => cases h
  | vertex i =>
    obtain ⟨items, hat, hid⟩ := vertexValue_eq_list h
    exact ⟨i, items, rfl, hat, hid⟩

theorem partValue_eq_dict (h : .dict id = partValue g base p) :
    ∃ i entries, p = .vertex i ∧ g[i]? = some (.map entries) ∧ id = base + i := by
  cases p with
  | scalar s => cases s <;> cases h
  | tuple | set => cases h
  | vertex i =>
    obtain ⟨entries, hat, hid⟩ := vertexValue_eq_dict h
    exact ⟨i, entries, rfl, hat, hid⟩

theorem partValue_eq_tuple {items : List Value} (h : .tuple items = partValue g base p) :
    ∃ parts, p = .tuple parts ∧ items = partValues g base parts := by
  cases p with
  | scalar s => cases s <;> cases h
  | tuple parts => exact ⟨parts, rfl, Value.tuple.inj h⟩
  | set => cases h
  | vertex i =>
    simp only [partValue, vertexValue] at h
    split at h <;> cases h

/-- A part is made of cells of the graph only: those of what it leads to. -/
theorem exists_leads_of_partOf (hp : ∀ i, p.Names i → Holds cells g base i)
    (h : PartOf cells id (partValue g base p)) :
    ∃ i j, p.Names i ∧ g.Leads i j ∧ j < g.length ∧ id = base + j := by
  generalize hv : partValue g base p = v at h
  induction h generalizing p with
  | list =>
    obtain ⟨i, items, rfl, hat, hid⟩ := partValue_eq_list hv.symm
    exact ⟨i, i, .vertex, .here i, (List.getElem?_eq_some_iff.1 hat).1, hid⟩
  | item held mem _ ih =>
    obtain ⟨i, parts, rfl, hat, rfl⟩ := partValue_eq_list hv.symm
    have hheld := hp i .vertex i _ (.here i) hat
    rw [hheld] at held
    cases held
    obtain ⟨q, hq, rfl⟩ := mem_partValues (by simpa using mem)
    have hstep : ∀ k, q.Names k → g.Leads i k := fun k hk => .on hat ⟨q, hq, hk⟩ (.here k)
    obtain ⟨k, j, hk, hleads, hj, hid⟩ := ih (fun k hk => (hp i .vertex).of_leads (hstep k hk)) rfl
    exact ⟨i, j, .vertex, (hstep k hk).trans hleads, hj, hid⟩
  | tuple mem _ ih =>
    obtain ⟨parts, rfl, rfl⟩ := partValue_eq_tuple hv.symm
    obtain ⟨q, hq, rfl⟩ := mem_partValues mem
    obtain ⟨k, j, hk, hleads, hj, hid⟩ := ih (fun k hk => hp k (.item hq hk)) rfl
    exact ⟨k, j, .item hq hk, hleads, hj, hid⟩
  | dict =>
    obtain ⟨i, items, rfl, hat, hid⟩ := partValue_eq_dict hv.symm
    exact ⟨i, i, .vertex, .here i, (List.getElem?_eq_some_iff.1 hat).1, hid⟩
  | entry held mem _ ih =>
    obtain ⟨i, entries, rfl, hat, rfl⟩ := partValue_eq_dict hv.symm
    have hheld := hp i .vertex i _ (.here i) hat
    rw [hheld] at held
    cases held
    obtain ⟨e, he, heq⟩ := List.mem_map.1 mem
    cases heq
    have hstep : ∀ k, e.2.Names k → g.Leads i k := fun k hk => .on hat ⟨e, he, hk⟩ (.here k)
    obtain ⟨k, j, hk, hleads, hj, hid⟩ := ih (fun k hk => (hp i .vertex).of_leads (hstep k hk)) rfl
    exact ⟨i, j, .vertex, (hstep k hk).trans hleads, hj, hid⟩

/-- A vertex is made of the cells of what it leads to. -/
theorem Holds.partOf_iff (h : Holds cells g base i) :
    PartOf cells id (vertexValue g base i) ↔ ∃ j, g.Leads i j ∧ j < g.length ∧ id = base + j := by
  constructor
  · intro hpart
    have honly : ∀ k, (Graph.Part.vertex i).Names k → Holds cells g base k := by
      rintro k ⟨⟩
      exact h
    obtain ⟨k, j, ⟨⟩, hleads, hj, hid⟩ := exists_leads_of_partOf (p := .vertex i) honly hpart
    exact ⟨j, hleads, hj, hid⟩
  · rintro ⟨j, hleads, hj, rfl⟩
    exact partOf_of_leads h hleads hj

/-- Whether the cells of a vertex are as in the graph depends on these cells only. -/
theorem Holds.frame (h : Holds cells g base i)
    (hsame : ∀ id, PartOf cells id (vertexValue g base i) → cells'[id]? = cells[id]?) : Holds cells' g base i := by
  intro j c hleads hc
  rw [hsame _ (partOf_of_leads h hleads (List.getElem?_eq_some_iff.1 hc).1)]
  exact h j c hleads hc

end Template

end TemplateTree
