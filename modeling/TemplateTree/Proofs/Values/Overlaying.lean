import Mathlib.Data.List.Induction
import TemplateTree.Context
import TemplateTree.Proofs.Values.Binding

/-!
# Names laid over a base

The context of an input file is the base of its run with three names laid over it: the project, the package and the
class. A name that the base has already keeps its place there and gets a new value, and the others come last.

* `Entries.Overlays`, `Entries.overlay_overlays`: what binding several names makes of entries.
* `Entries.AgreeBut`, `Entries.overlay_congr`: what was under these names before does not matter.
* `IsClassName`, `InputFile.className_eq_iff`: the class of a file.
* `buildContext_overlays`: contexts.
-/

namespace TemplateTree

namespace Entries

variable {α : Type} {base context entries entries' : Entries α} {bound : List (String × α)} {names : List String}
  {name : String} {v : α}

/-- Binds names one after the other. -/
def overlay (base : Entries α) (bound : List (String × α)) : Entries α :=
  bound.foldl (fun entries b => entries.insert (.text b.1) b.2) base

/-! ## Keys and values -/

/-- Binding a name does not touch what is under other keys. -/
theorem mem_insert_of_ne {e : Scalar × α} (hne : e.1 ≠ .text name) :
    e ∈ entries.insert (.text name) v ↔ e ∈ entries := by
  induction entries with
  | nil =>
    simp only [insert, List.mem_singleton, List.not_mem_nil, iff_false]
    rintro rfl
    exact hne rfl
  | cons e' rest ih =>
    rw [insert]
    by_cases he : e'.1.same (.text name) = true
    · have hkey : e'.1 = .text name := Scalar.same_text.1 he
      have hnew : e ≠ (e'.1, v) := by
        rintro rfl
        exact hne hkey
      have hold : e ≠ e' := by
        rintro rfl
        exact hne hkey
      rw [if_pos he, List.mem_cons, List.mem_cons, or_iff_right hnew, or_iff_right hold]
    · rw [if_neg he, List.mem_cons, List.mem_cons, ih]

/-- A context is a base with several names bound in it: the keys of the base come in their order, and behind them
    the names that the base does not have; under other keys there is what the base has there; and under each name
    there is its value. -/
structure Overlays (base context : Entries α) (bound : List (String × α)) : Prop where
  isMap : context.IsMap
  keys : context.map (·.1) =
    base.map (·.1) ++ ((bound.map (·.1)).filter fun name => (base.get? (.text name)).isNone).map .text
  others : ∀ e : Scalar × α, (∀ b ∈ bound, e.1 ≠ .text b.1) → (e ∈ context ↔ e ∈ base)
  values : ∀ b ∈ bound, context.get? (.text b.1) = some b.2

theorem Overlays.get?_eq_none_iff (h : Overlays base context bound) (hname : name ∉ bound.map (·.1)) :
    context.get? (.text name) = none ↔ base.get? (.text name) = none := by
  have hmem : .text name ∈ context.map (·.1) ↔ .text name ∈ base.map (·.1) := by
    rw [h.keys, List.mem_append]
    apply or_iff_left
    intro hbound
    obtain ⟨name', hname', heq⟩ := List.mem_map.1 hbound
    cases heq
    exact hname (List.mem_of_mem_filter hname')
  rw [get?_eq_none, get?_eq_none, hmem]

/-- One more name. -/
theorem Overlays.insert (h : Overlays base context bound) (hname : name ∉ bound.map (·.1)) (v : α) :
    Overlays base (context.insert (.text name) v) (bound ++ [(name, v)]) where
  isMap := h.isMap.insert name v
  keys := by
    have hlast : (if (context.get? (.text name)).isSome then [] else [Scalar.text name]) =
        ([name].filter fun name => (base.get? (.text name)).isNone).map .text := by
      cases hbase : base.get? (.text name) with
      | none => simp [hbase, (h.get?_eq_none_iff hname).2 hbase]
      | some w =>
        have hsome : (context.get? (.text name)).isSome = true := by
          rw [Option.isSome_iff_ne_none, ne_eq, h.get?_eq_none_iff hname, hbase]
          exact Option.some_ne_none w
        simp [hbase, hsome]
    rw [keys_insert, hlast, h.keys, List.map_append, List.filter_append, List.map_append, List.append_assoc]
    rfl
  others := by
    intro e he
    obtain ⟨hbound, hne⟩ := List.forall_mem_append.1 he
    rw [mem_insert_of_ne (hne _ List.mem_cons_self)]
    exact h.others e hbound
  values := by
    intro b hb
    rw [get?_insert]
    rcases List.mem_append.1 hb with hbound | hlast
    · have hne : name ≠ b.1 := by
        rintro rfl
        exact hname (List.mem_map_of_mem hbound)
      rw [if_neg hne]
      exact h.values b hbound
    · cases List.mem_singleton.1 hlast
      exact if_pos rfl

theorem overlay_overlays (bound : List (String × α)) (hbase : base.IsMap) (hbound : (bound.map (·.1)).Nodup) :
    Overlays base (base.overlay bound) bound := by
  induction bound using List.reverseRecOn with
  | nil => exact ⟨hbase, by simp [overlay], fun _ _ => Iff.rfl, nofun⟩
  | append_singleton bound b ih =>
    rw [List.map_append, List.nodup_append] at hbound
    obtain ⟨hbound, -, hdisjoint⟩ := hbound
    rw [overlay, List.foldl_concat]
    exact (ih hbound).insert (fun hmem => hdisjoint _ hmem _ List.mem_cons_self rfl) b.2

/-! ## Values that do not matter -/

/-- Entries have the same keys in the same order, and the same values under all of them but some names. -/
def AgreeBut (names : List String) (entries entries' : Entries α) : Prop :=
  List.Forall₂ (fun e e' => e.1 = e'.1 ∧ ((∀ name ∈ names, e.1 ≠ .text name) → e.2 = e'.2)) entries entries'

/-- Binding a name in a map makes up for the difference under it. -/
theorem AgreeBut.insert (h : AgreeBut (name :: names) entries entries') (hmap : entries.IsMap) (v : α) :
    AgreeBut names (entries.insert (.text name) v) (entries'.insert (.text name) v) := by
  induction h with
  | nil => exact .cons ⟨rfl, fun _ => rfl⟩ .nil
  | @cons e e' rest rest' hhead hrest ih =>
    obtain ⟨hkey, hvalue⟩ := hhead
    obtain ⟨hhead, hmap⟩ := List.pairwise_cons.1 hmap
    rw [Entries.insert, Entries.insert, ← hkey]
    by_cases he : e.1.same (.text name) = true
    · rw [if_pos he, if_pos he]
      refine .cons ⟨rfl, fun _ => rfl⟩ ?_
      -- The name does not come again.
      have hne : ∀ e' ∈ rest, e'.1 ≠ .text name := by
        intro e' he' heq
        have hother := hhead e'.1 (List.mem_map_of_mem he')
        rw [heq, he] at hother
        cases hother
      refine ((List.forall₂_and_left _ _).2 ⟨hne, hrest⟩).imp ?_
      rintro a a' ⟨ha, hsame, hothers⟩
      exact ⟨hsame, fun hnames => hothers (List.forall_mem_cons.2 ⟨ha, hnames⟩)⟩
    · rw [if_neg he, if_neg he]
      refine .cons ⟨hkey, fun hnames => hvalue (List.forall_mem_cons.2 ⟨?_, hnames⟩)⟩ (ih hmap)
      exact fun heq => he (Scalar.same_text.2 heq)

theorem overlay_congr (bound : List (String × α)) (hmap : entries.IsMap) (h : AgreeBut (bound.map (·.1)) entries entries') :
    entries.overlay bound = entries'.overlay bound := by
  induction bound generalizing entries entries' with
  | nil =>
    have hequal : List.Forall₂ (· = ·) entries entries' :=
      h.imp fun e e' ⟨hkey, hvalue⟩ => Prod.ext hkey (hvalue nofun)
    rwa [List.forall₂_eq_eq_eq] at hequal
  | cons b bound ih => exact ih (hmap.insert b.1 b.2) (h.insert hmap b.2)

end Entries

/-! ## The class of a file -/

theorem dropEnding?_eq_some {ending s rest : List Char} : dropEnding? ending s = some rest ↔ s = rest ++ ending := by
  unfold dropEnding?
  constructor
  · intro h
    split_ifs at h with hsuffix
    cases h
    exact (List.suffix_iff_eq_append.1 (List.isSuffixOf_iff_suffix.1 hsuffix)).symm
  · rintro rfl
    rw [if_pos (List.isSuffixOf_iff_suffix.2 (List.suffix_append _ _))]
    simp

/-- A name is what is left of a file's name when an ending is taken off once, or the file's name if it has no such
    ending. No ending, and an empty one, leave the name as it is. -/
inductive IsClassName : Option String → String → String → Prop
  | stripped (name ending : String) (hne : ending ≠ "") : IsClassName (some ending) (name ++ ending) name
  | whole {extension : Option String} {last : String}
      (h : ∀ ending, extension = some ending → ending ≠ "" → ∀ name, last ≠ name ++ ending) :
      IsClassName extension last last

theorem IsClassName.unique {extension : Option String} {last name name' : String}
    (h : IsClassName extension last name) (h' : IsClassName extension last name') : name = name' := by
  cases h with
  | stripped _ ending hne =>
    generalize hlast : name ++ ending = last at h'
    generalize hextension : some ending = extension at h'
    cases h' with
    | stripped =>
      cases hextension
      exact (String.append_left_inj ending).1 hlast
    | whole h => exact absurd hlast.symm (h ending hextension.symm hne name)
  | whole h =>
    cases h' with
    | stripped _ _ hne => exact absurd rfl (h _ rfl hne _)
    | whole => rfl

namespace InputFile

variable {f : InputFile} {extension : Option String} {parents : List String} {last name : String}

theorem className_isClassName (f : InputFile) (extension : Option String) :
    IsClassName extension f.lastName (f.className extension) := by
  unfold className
  cases extension with
  | none => exact .whole nofun
  | some ending =>
    dsimp only
    by_cases hempty : ending = ""
    · rw [if_pos (beq_iff_eq.2 hempty)]
      refine .whole ?_
      rintro _ ⟨⟩ hne
      exact absurd hempty hne
    rw [if_neg (by simpa using hempty)]
    split
    · rename_i cs hdrop
      have hlast : f.lastName = String.ofList cs ++ ending := by
        apply String.toList_injective
        simpa using dropEnding?_eq_some.1 hdrop
      rw [hlast]
      exact .stripped _ _ hempty
    · rename_i hdrop
      refine .whole ?_
      rintro _ ⟨⟩ - name hname
      have hsome : dropEnding? ending.toList f.lastName.toList = some name.toList := by
        rw [dropEnding?_eq_some, hname, String.toList_append]
      rw [hdrop] at hsome
      cases hsome

theorem className_eq_iff : f.className extension = name ↔ IsClassName extension f.lastName name := by
  constructor
  · rintro rfl
    exact className_isClassName f extension
  · exact (className_isClassName f extension).unique

theorem lastName_of_segments (h : f.segments = parents ++ [last]) : f.lastName = last := by
  rw [lastName, h, List.getLast?_concat, Option.getD_some]

theorem packageName_of_segments (h : f.segments = parents ++ [last]) :
    f.packageName = ".".intercalate parents := by
  rw [packageName, parentSegments, h, List.dropLast_concat]

/-- The names that a context has of its file, with their values. -/
def derived {α : Type} (ofText : String → α) (f : InputFile) (project : α) (extension : Option String) :
    List (String × α) :=
  [("project", project), ("package", ofText f.packageName), ("class", ofText (f.className extension))]

end InputFile

/-! ## Contexts -/

/-- A context is its base with the project, the package and the class of the file laid over it, and does not depend
    on what the base has under these names. The package is the names of the directories above the file, joined by
    dots. The class is the name of the file without one source extension. -/
theorem buildContext_overlays {α : Type} (ofText : String → α) {base : Option (Entries α)} (f : InputFile)
    (project : α) (extension : Option String) (hbase : (base.getD []).IsMap) :
    (base.getD []).Overlays (buildContext ofText base f project extension) (f.derived ofText project extension) ∧
    (∀ other : Option (Entries α), (base.getD []).AgreeBut ["project", "package", "class"] (other.getD []) →
      buildContext ofText other f project extension = buildContext ofText base f project extension) ∧
    (f.segments = [] → f.packageName = "" ∧ f.className extension = "") ∧
    ∀ parents last, f.segments = parents ++ [last] →
      f.packageName = ".".intercalate parents ∧
        ∀ name, f.className extension = name ↔ IsClassName extension last name := by
  refine ⟨?_, ?_, ?_, ?_⟩
  · exact Entries.overlay_overlays (f.derived ofText project extension) hbase
      (show ["project", "package", "class"].Nodup by decide)
  · intro other hother
    exact (Entries.overlay_congr (f.derived ofText project extension) hbase hother).symm
  · intro hempty
    have hlast : f.lastName = "" := by rw [InputFile.lastName, hempty]; rfl
    constructor
    · rw [InputFile.packageName, InputFile.parentSegments, hempty]
      rfl
    · rw [InputFile.className_eq_iff, hlast]
      refine .whole ?_
      intro ending _ hne name hname
      exact hne (String.append_eq_empty_iff.1 hname.symm).2
  · intro parents last hsegments
    refine ⟨InputFile.packageName_of_segments hsegments, fun name => ?_⟩
    rw [InputFile.className_eq_iff, InputFile.lastName_of_segments hsegments]

/-- A file whose name has the source extension twice. -/
def generated : InputFile :=
  ⟨["a", "b", "Gen.java.java"], ⟨.single, ["t"]⟩, by decide⟩

/-- A base that has a class, between other keys: the class stays in its place, and what it was does not matter. -/
theorem buildContext_overlays_generated :
    let base (name : String) : Option (Entries String) :=
      some [(.text "k", "1"), (.text "class", name), (.int 3, "2")]
    let context (name : String) := buildContext id (base name) generated "p" (some ".java")
    context "y" = context "x" ∧
      (context "x").map (·.1) = [.text "k", .text "class", .int 3, .text "project", .text "package"] ∧
      (context "x").get? (.text "package") = some "a.b" ∧ (context "x").get? (.text "class") = some "Gen.java" := by
  intro base context
  have hmap : ((base "x").getD []).IsMap := by
    simp [base, Entries.IsMap, Scalar.same, Scalar.number?]
  obtain ⟨hoverlays, hother, -, hnames⟩ := buildContext_overlays id generated "p" (some ".java") hmap
  obtain ⟨hpackage, hclass⟩ := hnames ["a", "b"] "Gen.java.java" rfl
  have hname : generated.className (some ".java") = "Gen.java" :=
    (hclass "Gen.java").2 (.stripped "Gen.java" ".java" (by decide))
  refine ⟨hother (base "y") ?_, hoverlays.keys, ?_, ?_⟩
  · refine .cons ⟨rfl, fun _ => rfl⟩ (.cons ⟨rfl, fun hne => ?_⟩ (.cons ⟨rfl, fun _ => rfl⟩ .nil))
    exact absurd rfl (hne "class" (by decide))
  · rw [hoverlays.values ("package", generated.packageName) (by simp [InputFile.derived]), hpackage]
    rfl
  · rw [hoverlays.values ("class", generated.className (some ".java")) (by simp [InputFile.derived]), hname]

end TemplateTree
