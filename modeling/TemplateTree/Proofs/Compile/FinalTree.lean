import TemplateTree.Proofs.Compile.History
import TemplateTree.Proofs.Output.Removal

/-!
# The output directory in the end

What stands in the output directory after a run that returned a report: under the relative path of every
file that was rendered, the text of the last rendering, and otherwise only directories on the way to
input files.

* `lastText?`: the text that a history leaves under a relative path.
* `Laid`: the output directory agrees with a history; kept by every file.
* `compile_output`: the output directory after a run.
-/

namespace TemplateTree

open FileSystem Output

variable {α σ : Type} {engine : Engine α σ} {job : Job α} {root : Path} {L : Location}
variable {A B : FileSystem} {done : List (InputFile × Outcome)} {names : List String}
variable {file : InputFile} {outcome : Outcome} {text : String}

/-! ## The last text -/

/-- The text under a relative path after one more file. -/
def nextText? (names : List String) (last : Option String) : InputFile × Outcome → Option String
  | (file, .wrote text) => if file.segments = names then some text else last
  | (_, .failed _) => last

/-- The text that was written last under a relative path. -/
def lastText? (done : List (InputFile × Outcome)) (names : List String) : Option String :=
  done.foldl (nextText? names) none

theorem lastText?_concat (entry : InputFile × Outcome) :
    lastText? (done ++ [entry]) names = nextText? names (lastText? done names) entry := by
  simp [lastText?]

/-- A relative path has a text if some file was rendered to it. -/
theorem exists_lastText :
    (∃ text, lastText? done names = some text) ↔
      ∃ file text, (file, Outcome.wrote text) ∈ done ∧ file.segments = names := by
  induction done using List.reverseRecOn with
  | nil => simp [lastText?]
  | append_singleton done entry ih =>
    obtain ⟨file, outcome⟩ := entry
    rw [lastText?_concat]
    cases outcome with
    | failed failure => simpa [nextText?] using ih
    | wrote text =>
      by_cases hnames : file.segments = names
      · simp only [nextText?, hnames, if_true]
        exact ⟨fun _ => ⟨file, text, by simp, hnames⟩, fun _ => ⟨text, rfl⟩⟩
      · simp only [nextText?, hnames, if_false, ih, List.mem_append, List.mem_singleton]
        constructor
        · rintro ⟨file', text', hmem, rfl⟩
          exact ⟨file', text', .inl hmem, rfl⟩
        · rintro ⟨file', text', hmem | heq, rfl⟩
          · exact ⟨file', text', hmem, rfl⟩
          · cases heq
            exact absurd rfl hnames

theorem mem_rendered {p : Path} :
    p ∈ done.filterMap (Outcome.rendered? root) ↔
      ∃ names, (∃ text, lastText? done names = some text) ∧ p = root.descend names := by
  simp only [List.mem_filterMap, Prod.exists, exists_lastText]
  constructor
  · rintro ⟨file, outcome, hmem, hp⟩
    cases outcome with
    | failed => cases hp
    | wrote text =>
      cases hp
      exact ⟨_, ⟨file, text, hmem, rfl⟩, rfl⟩
  · rintro ⟨-, ⟨file, text, hmem, rfl⟩, rfl⟩
    exact ⟨file, .wrote text, hmem, rfl⟩

/-! ## Agreement with a history -/

/-- The output directory agrees with what has been done so far. -/
structure Laid (root : Path) (L : Location) (done : List (InputFile × Outcome)) (fs : FileSystem) :
    Prop where
  isTree : IsTree root L fs
  named : lastText? done [] = none
  text : ∀ names text, lastText? done names = some text →
    ∃ stamp, fs.node? (L ++ names) = some (.file text.toUTF8 defaultMode stamp)
  rest : ∀ names, names ≠ [] → lastText? done names = none → fs.node? (L ++ names) = none ∨
    (fs.node? (L ++ names) = some .directory ∧
      ∃ entry ∈ done, names <+: entry.1.segments ∧ names ≠ entry.1.segments)

namespace Laid

theorem of_bare (hB : B.WellFormed) (hL : B.LeadsTo root L) (hnames : B.Names root L)
    (hbare : ∀ rest, rest ≠ [] → B.node? (L ++ rest) = none) : Laid root L [] B :=
  ⟨.of_bare hB hL hnames hbare, rfl, nofun, fun names hne _ => .inl (hbare names hne)⟩

/-- What is at a relative path, in one statement. -/
theorem node? (h : Laid root L done A) (hne : names ≠ []) {node : Node}
    (hnode : A.node? (L ++ names) = some node) :
    (∃ text stamp, lastText? done names = some text ∧
      node = .file text.toUTF8 defaultMode stamp) ∨
    (node = .directory ∧ ∃ entry ∈ done, names <+: entry.1.segments ∧ names ≠ entry.1.segments) := by
  cases hlast : lastText? done names with
  | some text =>
    obtain ⟨stamp, hfile⟩ := h.text names text hlast
    rw [hnode] at hfile
    exact .inl ⟨text, stamp, rfl, Option.some.inj hfile⟩
  | none =>
    obtain hnone | ⟨hdir, hentry⟩ := h.rest names hne hlast
    · rw [hnode] at hnone
      cases hnone
    · rw [hnode] at hdir
      exact .inr ⟨Option.some.inj hdir, hentry⟩

/-- What a prefix of a path without its last name is. -/
theorem isPrefix_of_dropLast {q segments : List String} (hq : q ≠ []) (h : q <+: segments.dropLast) :
    q <+: segments ∧ q ≠ segments := by
  refine ⟨h.trans (List.dropLast_prefix segments), ?_⟩
  rintro rfl
  have := h.length_le
  rw [List.length_dropLast] at this
  have := List.length_pos_iff.2 hq
  omega

theorem node?_of_wrote {failure : Option Failure}
    (hwrote : Wrote L file.segments defaultMode text A B failure) (names : List String) :
    B.node? (L ++ names) = A.node? (L ++ names) ∨
      (A.node? (L ++ names) = none ∧ B.node? (L ++ names) = some .directory ∧
        names <+: file.segments ∧ names ≠ file.segments) ∨
      (failure = none ∧ names = file.segments) := by
  obtain heq | ⟨hnone, hdir, q, hq, hprefix, hx⟩ | ⟨hnone, hx⟩ := hwrote.node (L ++ names)
  · exact .inl heq
  · rw [← List.append_cancel_left hx] at hq hprefix
    exact .inr (.inl ⟨hnone, hdir, isPrefix_of_dropLast hq hprefix⟩)
  · exact .inr (.inr ⟨hnone, List.append_cancel_left hx⟩)

/-- One more file, which failed. -/
theorem failed (h : Laid root L done A) (hB : IsTree root L B) {failure : Failure}
    (hwrote : Wrote L file.segments defaultMode text A B (some failure)) :
    Laid root L (done ++ [(file, .failed failure)]) B := by
  have hlast : ∀ names, lastText? (done ++ [(file, .failed failure)]) names = lastText? done names :=
    fun names => lastText?_concat _
  refine ⟨hB, by rw [hlast, h.named], fun names text' htext => ?_, fun names hne hnone => ?_⟩
  · rw [hlast] at htext
    obtain ⟨stamp, hfile⟩ := h.text names text' htext
    obtain heq | ⟨hnone, -⟩ | ⟨hnone, -⟩ := node?_of_wrote hwrote names
    · exact ⟨stamp, heq.trans hfile⟩
    · rw [hfile] at hnone
      cases hnone
    · cases hnone
  · rw [hlast] at hnone
    obtain heq | ⟨-, hdir, hprefix⟩ | ⟨hnone, -⟩ := node?_of_wrote hwrote names
    · obtain hA | ⟨hdir, entry, hmem, hentry⟩ := h.rest names hne hnone
      · exact .inl (heq.trans hA)
      · exact .inr ⟨heq.trans hdir, entry, by simp [hmem], hentry⟩
    · exact .inr ⟨hdir, _, List.mem_append_right _ (List.mem_singleton_self _), hprefix⟩
    · cases hnone

/-- One more file, which was rendered. -/
theorem wrote (h : Laid root L done A) (hB : IsTree root L B)
    (hwrote : Wrote L file.segments defaultMode text A B none) :
    Laid root L (done ++ [(file, .wrote text)]) B := by
  obtain ⟨hne, -, stamp, -, -, htarget⟩ := hwrote.target rfl
  have hlast : ∀ names, lastText? (done ++ [(file, .wrote text)]) names
      = if file.segments = names then some text else lastText? done names :=
    fun names => lastText?_concat _
  refine ⟨hB, by rw [hlast, if_neg hne, h.named], fun names text' htext => ?_,
    fun names hne' hnone => ?_⟩
  · rw [hlast] at htext
    split_ifs at htext with hnames
    · subst hnames
      cases htext
      exact ⟨stamp, htarget⟩
    · obtain ⟨stamp', hfile⟩ := h.text names text' htext
      obtain heq | ⟨hnone, -⟩ | ⟨-, heq⟩ := node?_of_wrote hwrote names
      · exact ⟨stamp', heq.trans hfile⟩
      · rw [hfile] at hnone
        cases hnone
      · exact absurd heq.symm hnames
  · rw [hlast] at hnone
    split_ifs at hnone with hnames
    obtain heq | ⟨-, hdir, hprefix⟩ | ⟨-, heq⟩ := node?_of_wrote hwrote names
    · obtain hA | ⟨hdir, entry, hmem, hentry⟩ := h.rest names hne' hnone
      · exact .inl (heq.trans hA)
      · exact .inr ⟨heq.trans hdir, entry, by simp [hmem], hentry⟩
    · exact .inr ⟨hdir, _, List.mem_append_right _ (List.mem_singleton_self _), hprefix⟩
    · exact absurd heq.symm hnames

end Laid

theorem after_eq {run next : Run σ} {failure : Option Failure}
    (h : renderFile engine job root file run = (next, failure)) :
    (after engine job root file run).files = next.files ∧
      (after engine job root file run).engine = next.engine := by
  unfold after
  rw [h]
  cases failure <;> exact ⟨rfl, rfl⟩

/-- Every file keeps the output directory in agreement with the history. -/
theorem History.laid (hp : root.isAbsolute = true) (hdots : ".." ∉ root.parts)
    {files : List InputFile} {run final : Run σ} {outcomes : List Outcome}
    (hist : History engine job root files run outcomes final) (h : Laid root L done run.files) :
    Laid root L (done ++ files.zip outcomes) final.files := by
  induction hist generalizing done with
  | nil run => simpa using h
  | @cons file files run final outcome outcomes head tail ih =>
    have hnext : Laid root L (done ++ [(file, outcome)])
        (after engine job root file run).files := by
      cases hresult : renderFile engine job root file run with
      | mk next failure =>
        obtain ⟨htree, -, text, hwrote, htext⟩ := renderFile_step hp hdots h.isTree hresult
        rw [(after_eq hresult).1]
        cases failure with
        | none =>
          cases head with
          | failed hfailed => simp [hresult] at hfailed
          | wrote ok source body complete =>
            rw [← (htext rfl).unique (.wrote ok source body complete)]
            exact h.wrote htree hwrote
        | some failure =>
          cases head with
          | wrote ok => simp [hresult] at ok
          | failed hfailed =>
            rw [hresult] at hfailed
            cases hfailed
            exact h.failed htree hwrote
    have := ih hnext
    rwa [List.append_assoc, List.singleton_append, ← List.zip_cons_cons] at this

/-! ## Whole runs -/

/-- A run that is ready to render has an empty output directory. -/
theorem prepare_laid (hp : root.isAbsolute = true) (hdots : ".." ∉ root.parts)
    {files : List InputFile} {run start : Run σ} {searchPath : String}
    (hfs : run.files.WellFormed)
    (h : prepare engine job root files run = (start, .ok searchPath)) :
    ∃ L, Laid root L [] start.files := by
  obtain ⟨records, hrebuild⟩ := prepare_ok h
  obtain ⟨L, hL, hnames, hbare⟩ := rebuild_bare hp hdots hfs hrebuild
  have hwf := (rebuild_aside hp hdots hfs).1
  rw [hrebuild] at hwf
  exact ⟨L, .of_bare hwf hL hnames hbare⟩

/-- What holds after a run that returned a report. `L` is the output directory, and `outcomes` says what
    became of the input files. -/
structure Compiled (engine : Engine α σ) (job : Job α) (fs : FileSystem) (state : σ) (run : Run σ)
    (report : Report) (root : Path) (L : Location) (outcomes : List Outcome) : Prop where
  absolute : fs.absolute job.output = .ok root
  /-- The outcomes are those of rendering the files in order, from when the run was ready to. -/
  history : ∃ start final, final.files = run.files ∧
    prepare engine job root (job.found fs) (job.begun fs state) = (start, .ok report.searchPath) ∧
    History engine job root (job.found fs) start outcomes final
  /-- Every input file has one outcome, and the report lists these in order. -/
  length : outcomes.length = (job.found fs).length
  rendered : report.rendered = ((job.found fs).zip outcomes).filterMap (Outcome.rendered? root)
  failures : report.failures = ((job.found fs).zip outcomes).filterMap Outcome.failed?
  /-- The output path leads to a directory. -/
  leadsTo : run.files.LeadsTo root L
  /-- The files in it are those that the report lists as rendered. -/
  files : ∀ p, p ∈ report.rendered ↔ ∃ names content mode stamp, names ≠ [] ∧
    p = root.descend names ∧ run.files.node? (L ++ names) = some (.file content mode stamp)
  /-- Each holds the last text that was written there. -/
  content : ∀ names content mode stamp, names ≠ [] →
    run.files.node? (L ++ names) = some (.file content mode stamp) → mode = 0o644 ∧
      ∃ text, lastText? ((job.found fs).zip outcomes) names = some text ∧ content = text.toUTF8
  /-- Nothing else is there but directories on the way to input files. -/
  rest : ∀ names node, names ≠ [] → run.files.node? (L ++ names) = some node →
    (∃ content mode stamp, node = .file content mode stamp) ∨
    (node = .directory ∧ ∃ file ∈ job.found fs, names <+: file.segments ∧ names ≠ file.segments)

/-- The output directory after a run that returned a report. -/
theorem compile_output {fs : FileSystem} {state : σ} {run : Run σ} {report : Report}
    (hfs : fs.WellFormed) (hdots : ".." ∉ job.output.parts)
    (h : compile engine job fs state = (run, .ok report)) :
    ∃ root L outcomes, Compiled engine job fs state run report root L outcomes := by
  obtain ⟨root, start, final, outcomes, hroot, hprepare, hist, hfiles, hrendered, hfailures⟩ :=
    compile_ok h
  obtain ⟨hp, hdots'⟩ := absolute_eq_ok hfs hdots hroot
  obtain ⟨L, hempty⟩ := prepare_laid hp hdots' hfs hprepare
  have hlaid := hist.laid hp hdots' hempty
  rw [List.nil_append, ← hfiles] at hlaid
  refine ⟨root, L, outcomes, hroot, ⟨start, final, hfiles.symm, hprepare, hist⟩, hist.length,
    hrendered, hfailures, hlaid.isTree.leadsTo, fun p => ?_, ?_, ?_⟩
  · rw [hrendered, mem_rendered]
    constructor
    · rintro ⟨names, ⟨text, htext⟩, rfl⟩
      obtain ⟨stamp, hfile⟩ := hlaid.text names text htext
      refine ⟨names, _, _, stamp, ?_, rfl, hfile⟩
      rintro rfl
      rw [hlaid.named] at htext
      cases htext
    · rintro ⟨names, content, mode, stamp, hne, rfl, hfile⟩
      obtain ⟨text, stamp', htext, -⟩ | ⟨hdir, -⟩ := hlaid.node? hne hfile
      · exact ⟨names, ⟨text, htext⟩, rfl⟩
      · cases hdir
  · intro names content mode stamp hne hfile
    obtain ⟨text, stamp', htext, heq⟩ | ⟨hdir, -⟩ := hlaid.node? hne hfile
    · cases heq
      exact ⟨rfl, text, htext, rfl⟩
    · cases hdir
  · intro names node hne hnode
    obtain ⟨text, stamp, -, rfl⟩ | ⟨rfl, entry, hmem, hentry⟩ := hlaid.node? hne hnode
    · exact .inl ⟨_, _, _, rfl⟩
    · exact .inr ⟨rfl, entry.1, (List.of_mem_zip hmem).1, hentry⟩

/-! ## A run of three files -/

/-- A file system with one template. -/
def oneTemplate : FileSystem :=
  (FileSystem.empty []).put ["t"] (.file "x".toUTF8 defaultMode 0)

theorem oneTemplate_wellFormed : oneTemplate.WellFormed :=
  empty_wellFormed.put (d := []) rfl (by unfold IsEntryName; decide)
    (mt isDirectoryAt_eq_true.2 (by decide)) _

/-- A job that renders the template twice to one file, and in between to a path below that file. -/
def clashing : Job Datum where
  inputs := .files [⟨["a"], ⟨.single, ["t"]⟩, by decide⟩, ⟨["a", "b"], ⟨.single, ["t"]⟩, by decide⟩,
    ⟨["a"], ⟨.single, ["t"]⟩, by decide⟩]
  includeDirs := []
  base := none
  output := ⟨.single, ["out", "new"]⟩
  project := .text ""
  options := { continueOnError := true }

theorem compile_output_clashing : ∃ run report,
    compile recorder clashing oneTemplate [] = (run, .ok report) ∧
      ∃ root L outcomes, Compiled recorder clashing oneTemplate [] run report root L outcomes := by
  have hok : (compile recorder clashing oneTemplate []).2.isOk = true := by decide +kernel
  cases h : compile recorder clashing oneTemplate [] with
  | mk run result =>
    cases result with
    | error failure => simp [h, Except.isOk, Except.toBool] at hok
    | ok report =>
      exact ⟨run, report, rfl, compile_output oneTemplate_wellFormed (by decide) h⟩

end TemplateTree
