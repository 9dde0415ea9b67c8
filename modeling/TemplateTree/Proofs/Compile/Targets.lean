import Mathlib.Tactic.SplitIfs
import TemplateTree.Compile
import TemplateTree.Proofs.Attempts
import TemplateTree.Proofs.Text.Pieces

/-!
# Targets of input files

A file is rendered to the path that its segments lead to from the root of the output directory. Joining paths
drops empty texts and dots, and starts anew at a text that is an absolute path; none of this happens to the
segments of a file. So every relative path has a target and a name of its own.

* `Path.joinAll`, `Path.joinAll_eq_descend`: texts joined to a path one after the other.
* `Path.parse_text`: a path can be read back from its text.
* `InputFile.ofFields_named`: the relative paths that a file can have.
* `InputFile.split_relativeName`: the segments in the name of a file.
* `renderFile_joinAll`: where a file is rendered to.
* `InputFile.targets_apart`: targets and names are as different as the relative paths.
-/

namespace TemplateTree

/-! ## Joining texts to a path -/

namespace Path

variable {p q : Path} {s : String} {cs : List Char} {texts : List String}

theorem splitSlash_eq_splitOn (cs : List Char) : splitSlash cs = cs.splitOn '/' :=
  Text.eq_splitOn rfl (fun _ _ => rfl) cs

theorem not_mem_of_mem_splitSlash : ∀ piece ∈ splitSlash cs, '/' ∉ piece := by
  rw [splitSlash_eq_splitOn]
  exact Text.not_mem_of_mem_splitOn

/-- A text that is one name of a path. -/
def IsOneName (s : String) : Prop :=
  isName s = true ∧ '/' ∉ s.toList

instance : DecidablePred IsOneName :=
  fun s => inferInstanceAs (Decidable (isName s = true ∧ '/' ∉ s.toList))

theorem IsOneName.ne_nil (h : IsOneName s) : s.toList ≠ [] := by
  obtain ⟨hname, -⟩ := h
  rintro hnil
  rw [String.toList_eq_nil_iff] at hnil
  simp [isName, hnil] at hname

theorem rootOf_of_head? (h : cs.head? ≠ some '/') : rootOf cs = .relative := by
  cases cs with
  | nil => rfl
  | cons c cs =>
    unfold rootOf
    split <;> simp_all

theorem rootOf_slash (h : cs.head? ≠ some '/') : rootOf ('/' :: cs) = .single := by
  unfold rootOf
  split <;> simp_all

theorem rootOf_slashes (h : cs.head? ≠ some '/') : rootOf ('/' :: '/' :: cs) = .double := by
  cases cs with
  | nil => rfl
  | cons c cs =>
    have hc : c ≠ '/' := fun hc => h (by rw [hc]; rfl)
    simp [rootOf, hc]

/-- A name is read as itself. -/
theorem parse_of_isOneName (h : IsOneName s) : parse s = ⟨.relative, [s]⟩ := by
  have hpieces : splitSlash s.toList = [s.toList] := by
    rw [splitSlash_eq_splitOn, List.splitOn_eq_singleton h.2]
  have hroot : rootOf s.toList = .relative :=
    rootOf_of_head? fun hhead => h.2 (List.mem_of_head? hhead)
  rw [parse, hroot, names, hpieces]
  simp [h.1]

/-- Texts joined to a path, one after the other. -/
def joinAll (p : Path) (texts : List String) : Path :=
  texts.foldl (fun p s => p.join (parse s)) p

/-- Names are put behind the names of the path. -/
theorem joinAll_eq_descend (h : ∀ s ∈ texts, IsOneName s) : p.joinAll texts = p.descend texts := by
  induction texts generalizing p with
  | nil => simp [joinAll, descend]
  | cons s texts ih =>
    have hjoin : p.join (parse s) = p.child s := by
      rw [parse_of_isOneName (h s List.mem_cons_self)]
      rfl
    have hrest := ih (p := p.child s) fun t ht => h t (List.mem_cons_of_mem _ ht)
    simpa [joinAll, hjoin, child, descend] using hrest

/-- Whether `q` is `p` with at least one name behind it. -/
def IsBelow (q p : Path) : Prop :=
  q.root = p.root ∧ p.parts <+: q.parts ∧ q ≠ p

theorem descend_inj {a b : List String} : p.descend a = p.descend b ↔ a = b := by
  simp [descend]

theorem isBelow_descend : IsBelow (p.descend texts) p ↔ texts ≠ [] := by
  have hself : p.descend texts = p ↔ texts = [] := by
    cases p
    simp [descend]
  constructor
  · exact fun h hnil => h.2.2 (hself.2 hnil)
  · exact fun h => ⟨rfl, List.prefix_append _ _, mt hself.1 h⟩

/-! ## Reading a path back -/

/-- A path whose parts are names. -/
def IsTidy (p : Path) : Prop :=
  ∀ s ∈ p.parts, IsOneName s

instance : DecidablePred IsTidy :=
  fun p => inferInstanceAs (Decidable (∀ s ∈ p.parts, IsOneName s))

theorem isTidy_parse (s : String) : IsTidy (parse s) := by
  intro name hname
  obtain ⟨hmem, hname⟩ := List.mem_filter.1 hname
  obtain ⟨piece, hpiece, rfl⟩ := List.mem_map.1 hmem
  exact ⟨hname, by simpa using not_mem_of_mem_splitSlash piece hpiece⟩

theorem IsTidy.descend (hp : IsTidy p) (h : ∀ s ∈ texts, IsOneName s) : IsTidy (p.descend texts) := by
  intro s hs
  exact (List.mem_append.1 hs).elim (hp s) (h s)

/-- Cutting at the slashes that were put between names gives the names back. -/
theorem splitSlash_intercalate (hne : texts ≠ []) (h : ∀ s ∈ texts, IsOneName s) :
    splitSlash ("/".intercalate texts).toList = texts.map String.toList := by
  rw [splitSlash_eq_splitOn, String.toList_intercalate]
  refine List.splitOn_intercalate _ ?_ (by simpa using hne)
  rintro cs hcs
  obtain ⟨s, hs, rfl⟩ := List.mem_map.1 hcs
  exact (h s hs).2

theorem names_intercalate (h : ∀ s ∈ texts, IsOneName s) :
    names ("/".intercalate texts).toList = texts := by
  by_cases hne : texts = []
  · subst hne
    decide
  · rw [names, splitSlash_intercalate hne h]
    simpa [Function.comp_def] using fun s hs => (h s hs).1

theorem names_slash (cs : List Char) : names ('/' :: cs) = names cs := by
  simp [names, splitSlash, isName]

/-- Names with slashes between them do not begin with a slash. -/
theorem head?_intercalate (h : ∀ s ∈ texts, IsOneName s) :
    ("/".intercalate texts).toList.head? ≠ some '/' := by
  cases texts with
  | nil => decide
  | cons s rest =>
    have hs := h s List.mem_cons_self
    rw [String.toList_intercalate]
    cases hcs : s.toList with
    | nil => exact absurd hcs hs.ne_nil
    | cons c cs =>
      have hc : c ≠ '/' := fun hc => hs.2 (by simp [hcs, hc])
      cases rest <;> simpa [hcs, List.intercalate] using hc

/-- A path is read back from its text. -/
theorem parse_text (h : IsTidy p) : parse p.text = p := by
  obtain ⟨root, parts⟩ := p
  have hparts : names ("/".intercalate parts).toList = parts := names_intercalate h
  have hhead := head?_intercalate h
  cases root with
  | relative =>
    by_cases hnil : parts = []
    · subst hnil
      decide
    · have htext : text ⟨.relative, parts⟩ = "/".intercalate parts := by
        simp [text, rootText, hnil]
      rw [htext, parse, rootOf_of_head? hhead, hparts]
  | single =>
    have htext : (text ⟨.single, parts⟩).toList = '/' :: ("/".intercalate parts).toList := by
      simp [text, rootText]
    rw [parse, htext, names_slash, hparts]
    rw [rootOf_slash hhead]
  | double =>
    have htext : (text ⟨.double, parts⟩).toList = '/' :: '/' :: ("/".intercalate parts).toList := by
      simp [text, rootText]
    rw [parse, htext, names_slash, names_slash, hparts]
    rw [rootOf_slashes hhead]

end Path

/-! ## The segments of a file -/

theorem isSegment_iff {s : String} :
    isSegment s = true ↔ s ≠ "" ∧ s ≠ "." ∧ s ≠ ".." ∧ '/' ∉ s.toList ∧ '\\' ∉ s.toList := by
  simp [isSegment, and_assoc]

theorem isOneName_of_isSegment {s : String} (h : isSegment s = true) : Path.IsOneName s := by
  obtain ⟨hempty, hdot, -, hslash, -⟩ := isSegment_iff.1 h
  exact ⟨by simp [Path.isName, hempty, hdot], hslash⟩

namespace InputFile

variable {f g : InputFile} {segments : List String} {path : Path}

theorem isOneName {s : String} (h : s ∈ f.segments) : Path.IsOneName s :=
  isOneName_of_isSegment (List.all_eq_true.1 f.segments_ok s h)

theorem make_eq_ok : make segments path = .ok f ↔ f.segments = segments ∧ f.path = path := by
  obtain ⟨segments', path', hok⟩ := f
  unfold make
  split_ifs with h
  · simp only [Except.ok.injEq, InputFile.mk.injEq, eq_comm]
  · refine ⟨nofun, fun heq => absurd hok ?_⟩
    rwa [show segments' = segments from heq.1]

/-- The fields of a file with given segments and a given path. -/
def named (segments : List String) (path : String) : Fields :=
  [("relative_path", .tuple (segments.map Datum.text)), ("absolute_path", .text path)]

theorem all_texts (place : Nat → Defect → List Violation) (segments : List String) :
    ∀ i, Checked.all (fun i d => (Read.text d).mapError (place i)) i (segments.map Datum.text)
      = .ok segments := by
  induction segments with
  | nil => exact fun _ => rfl
  | cons s segments ih =>
    intro i
    rw [List.map_cons, Checked.all, ih (i + 1)]
    rfl

/-- A file is accepted if all its segments are, and refused over the first that is not. -/
theorem ofFields_named (segments : List String) (path : String) :
    ofFields (named segments path) =
      (make segments (Path.parse path)).mapError fun s =>
        [⟨[.field "relative_path"], .refused (badSegment s)⟩] := by
  have hpath : (named segments path).required "absolute_path" Read.path = .ok (Path.parse path) := rfl
  have hsegments : readSegments (named segments path) =
      (segments.find? (!isSegment ·)).elim (.ok segments) fun s =>
        .error [⟨[.field "relative_path"], .refused (badSegment s)⟩] := by
    change (Checked.all _ 0 _ >>= _) = _
    rw [all_texts]
    simp only [bind, Except.bind]
    cases segments.find? (!isSegment ·) <;> rfl
  unfold ofFields
  rw [hpath, hsegments]
  cases hfind : segments.find? (!isSegment ·) with
  | some s =>
    have hbad : ¬ segments.all isSegment = true := by
      have hs := List.find?_some hfind
      have hmem := List.mem_of_find?_eq_some hfind
      simp only [List.all_eq_true]
      exact fun h => by simp [h s hmem] at hs
    simp only [make, hbad, hfind]
    rfl
  | none => rfl

/-- Cutting the name of a file at its slashes gives its segments. -/
theorem split_relativeName (h : f.segments ≠ []) :
    (f.relativeName.toList.splitOn '/').map String.ofList = f.segments := by
  rw [← Path.splitSlash_eq_splitOn, relativeName, Path.splitSlash_intercalate h fun s hs => isOneName hs]
  simp [Function.comp_def]

theorem relativeName_inj : f.relativeName = g.relativeName ↔ f.segments = g.segments := by
  refine ⟨fun h => ?_, fun h => by rw [relativeName, relativeName, h]⟩
  have hnames : ∀ f : InputFile, Path.names f.relativeName.toList = f.segments :=
    fun f => Path.names_intercalate fun s hs => isOneName hs
  rw [← hnames f, ← hnames g, h]

theorem joinAll_segments (f : InputFile) (root : Path) : root.joinAll f.segments = root.descend f.segments :=
  Path.joinAll_eq_descend fun _ hs => isOneName hs

/-- The text of a target is the text of no other path. -/
theorem parse_target (f : InputFile) {root : Path} (h : root.IsTidy) :
    Path.parse (root.joinAll f.segments).text = root.joinAll f.segments := by
  rw [joinAll_segments]
  exact Path.parse_text (h.descend fun s hs => isOneName hs)

end InputFile

/-! ## Where files are rendered to -/

variable {α σ : Type}

/-- A file with a valid context is rendered to its segments joined to the root of the output directory. -/
theorem renderFile_joinAll (engine : Engine α σ) (job : Job α) (root : Path) (f : InputFile) (run : Run σ)
    (h : contextViolations (buildContext engine.ofText job.base f job.project job.options.sourceExtension) = []) :
    let rendered := renderUnit engine
      (buildContext engine.ofText job.base f job.project job.options.sourceExtension)
      f.path f.relativeName (root.joinAll f.segments) run.files run.engine
    ∃ log warnings, renderFile engine job root f run
      = (⟨rendered.1, rendered.2.1, log, warnings⟩, rendered.2.2) := by
  rw [InputFile.joinAll_segments]
  simp only [renderFile, h]
  exact ⟨_, _, rfl⟩

/-- A relative path is accepted exactly if each of its segments is a name and no step up and has no slash of either
kind; the start of an absolute path is never found in what has come so far. Joined to any root, accepted segments
are put behind the parts of the root, one by one, which leads below the root unless there are none. Distinct
relative paths have distinct targets, the texts of these are distinct also, and the names that a report gives to
the files are distinct and can be cut into the segments again. -/
theorem InputFile.targets_apart (engine : Engine α σ) (job : Job α) (root : Path) (run : Run σ) :
    (∀ segments path, (∃ f, InputFile.ofFields (InputFile.named segments path) = .ok f) ↔
      ∀ s ∈ segments, s ≠ "" ∧ s ≠ "." ∧ s ≠ ".." ∧ '/' ∉ s.toList ∧ '\\' ∉ s.toList) ∧
    (∀ segments path f, InputFile.ofFields (InputFile.named segments path) = .ok f →
      f.segments = segments ∧ f.path = Path.parse path) ∧
    ∀ f : InputFile,
      (∀ s ∈ f.segments, (Path.parse s).isAbsolute = false) ∧
      (let context := buildContext engine.ofText job.base f job.project job.options.sourceExtension
        let rendered := renderUnit engine context f.path f.relativeName (root.joinAll f.segments)
          run.files run.engine
        contextViolations context = [] → ∃ log warnings,
          renderFile engine job root f run = (⟨rendered.1, rendered.2.1, log, warnings⟩, rendered.2.2)) ∧
      (root.joinAll f.segments).root = root.root ∧
      (root.joinAll f.segments).parts = root.parts ++ f.segments ∧
      ((root.joinAll f.segments).IsBelow root ↔ f.segments ≠ []) ∧
      (f.segments ≠ [] → (f.relativeName.toList.splitOn '/').map String.ofList = f.segments) ∧
      ∀ g : InputFile,
        (root.joinAll f.segments = root.joinAll g.segments ↔ f.segments = g.segments) ∧
        (root.IsTidy → ((root.joinAll f.segments).text = (root.joinAll g.segments).text ↔
          f.segments = g.segments)) ∧
        (f.relativeName = g.relativeName ↔ f.segments = g.segments) := by
  refine ⟨fun segments path => ?_, fun segments path f h => ?_, fun f => ?_⟩
  · simp only [InputFile.ofFields_named, mapError_eq_ok, InputFile.make_eq_ok]
    constructor
    · rintro ⟨f, rfl, -⟩ s hs
      exact isSegment_iff.1 (List.all_eq_true.1 f.segments_ok s hs)
    · exact fun h => ⟨⟨segments, _, List.all_eq_true.2 fun s hs => isSegment_iff.2 (h s hs)⟩, rfl, rfl⟩
  · rw [InputFile.ofFields_named, mapError_eq_ok] at h
    exact InputFile.make_eq_ok.1 h
  have htarget := f.joinAll_segments root
  refine ⟨fun s hs => ?_, renderFile_joinAll engine job root f run, ?_, ?_, ?_, InputFile.split_relativeName,
    fun g => ⟨?_, fun htidy => ⟨fun htext => ?_, fun h => by rw [h]⟩, InputFile.relativeName_inj⟩⟩
  · rw [Path.parse_of_isOneName (InputFile.isOneName hs)]
    rfl
  · rw [htarget]
    rfl
  · rw [htarget]
    rfl
  · rw [htarget]
    exact Path.isBelow_descend
  · rw [htarget, g.joinAll_segments, Path.descend_inj]
  · rw [← Path.descend_inj (p := root), ← htarget, ← g.joinAll_segments]
    rw [← InputFile.parse_target f htidy, htext, InputFile.parse_target g htidy]

/-! ### Two files with a name that begins with dots -/

/-- A job without files. -/
def rendersNothing : Job Datum where
  inputs := .files []
  includeDirs := []
  base := none
  output := ⟨.single, ["out"]⟩
  project := .text ""
  options := {}

theorem InputFile.targets_apart_dotted :
    let f : InputFile := ⟨["a", "..b"], ⟨.single, ["s", "b"]⟩, rfl⟩
    let g : InputFile := ⟨["a..", "b"], ⟨.single, ["s", "b"]⟩, rfl⟩
    let root := Path.parse "/out//./x"
    (∃ f, InputFile.ofFields (InputFile.named ["a", "..b"] "/s/b") = .ok f) ∧
      (∃ log warnings files failure, renderFile recorder rendersNothing root f ⟨.empty [], [], [], []⟩
        = (⟨files, [], log, warnings⟩, failure)) ∧
      (Path.parse "a").isAbsolute = false ∧ (root.joinAll f.segments).IsBelow root ∧
      (f.relativeName.toList.splitOn '/').map String.ofList = ["a", "..b"] ∧
      (root.joinAll f.segments).text ≠ (root.joinAll g.segments).text := by
  intro f g root
  obtain ⟨haccepts, hgives, hfile⟩ :=
    InputFile.targets_apart recorder rendersNothing root ⟨.empty [], [], [], []⟩
  have haccepted := (haccepts ["a", "..b"] "/s/b").2 (by decide)
  obtain ⟨f', hf'⟩ := haccepted
  have hsegments : f'.segments = ["a", "..b"] := (hgives _ _ _ hf').1
  obtain ⟨hanchor, hrender, -, -, hbelow, hsplit, hother⟩ := hfile f
  obtain ⟨log, warnings, hrendered⟩ := hrender (by decide)
  refine ⟨⟨f', hf'⟩, ⟨log, warnings, _, _, hrendered⟩, hanchor "a" (by decide), hbelow.2 (by decide),
    hsplit (by decide), fun htext => ?_⟩
  have hsame := ((hother g).2.1 (Path.isTidy_parse _)).1 htext
  exact absurd hsame (by decide)

end TemplateTree
