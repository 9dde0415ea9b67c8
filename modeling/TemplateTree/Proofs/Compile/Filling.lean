import TemplateTree.Proofs.Compile.History
import TemplateTree.Proofs.Output.Creating
import TemplateTree.Proofs.Template.Rendering

/-!
# Filling the holes of a file

A source file that is a text with holes comes out as the same text, with the package and the class of the
file in the holes. This holds from the bytes of the source to the bytes of the target.

* `InputFile.value`: what belongs into a hole.
* `decodeFile_source`: reading a source.
* `compile_holed`: a run with one such file.
-/

namespace TemplateTree

open Output Template

/-- What belongs into a hole of a file. -/
def InputFile.value (f : InputFile) (extension : Option String) : Hole → String
  | .package => f.packageName
  | .className => f.className extension

/-! ## Reading the source -/

theorem fromUTF8?_toUTF8 (s : String) : String.fromUTF8? s.toUTF8 = some s := by
  unfold String.fromUTF8?
  rw [String.toUTF8_eq_toByteArray, dif_pos s.isValidUTF8]
  rfl

namespace Template.Holed

/-- A source is read with its line breaks normalised. -/
theorem decodeFile_source (t : Holed) : Text.decodeFile t.source.toUTF8 = .ok t.normalized.source := by
  have hnormalized : Text.normalizeNewlines t.source = t.normalized.source := by
    rw [Text.normalizeNewlines, normalizeBreaks_source, String.ofList_toList]
  rw [Text.decodeFile, Text.decode, fromUTF8?_toUTF8]
  exact congrArg Except.ok hnormalized

/-- Normalised texts are filled in the same way. -/
theorem filled_normalized (value : Hole → String) (t : Holed) :
    t.normalized.filled value = t.filled value := by
  have htwice : ∀ text, Text.normalizeNewlines (Text.normalizeNewlines text)
      = Text.normalizeNewlines text := by
    intro text
    simp only [Text.normalizeNewlines, String.toList_ofList]
    rw [normalizeBreaks_of_not_mem (not_mem_normalizeBreaks _)]
  induction t with
  | last text => exact htwice text
  | hole text h rest ih => rw [normalized, filled, filled, htwice, ih]

end Template.Holed

/-! ## The context -/

/-- Named values as the entries of a context. -/
def keyed {α : Type} (entries : List (String × α)) : Entries α :=
  entries.map fun e => (.text e.1, e.2)

theorem insert_keyed {α : Type} (entries : List (String × α)) (name : String) (v : α) :
    (keyed entries).insert (.text name) v = keyed (setNamed name v entries) := by
  induction entries with
  | nil => rfl
  | cons e entries ih =>
    have hsame : (Scalar.text e.1).same (.text name) = (e.1 == name) := rfl
    simp only [keyed, List.map_cons, Entries.insert, setNamed, hsame] at ih ⊢
    split_ifs with h
    · rw [List.map_cons, beq_iff_eq.1 h]
    · rw [ih, List.map_cons]

theorem exists_keyed {α : Type} {entries : Entries α} (hkeys : ∀ e ∈ entries, ∃ name, e.1 = .text name)
    (hdistinct : (entries.map (·.1)).Nodup) :
    ∃ named : List (String × α), entries = keyed named ∧ (names named).Nodup := by
  induction entries with
  | nil => exact ⟨[], rfl, .nil⟩
  | cons e entries ih =>
    obtain ⟨k, v⟩ := e
    obtain ⟨name, rfl⟩ := hkeys _ List.mem_cons_self
    obtain ⟨hname, hdistinct⟩ := List.nodup_cons.1 hdistinct
    obtain ⟨named, rfl, hnamed⟩ := ih (fun e he => hkeys e (List.mem_cons_of_mem _ he)) hdistinct
    refine ⟨(name, v) :: named, rfl, List.nodup_cons.2 ⟨fun hmem => hname ?_, hnamed⟩⟩
    obtain ⟨e, he, rfl⟩ := List.mem_map.1 hmem
    exact List.mem_map.2 ⟨_, List.mem_map.2 ⟨e, he, rfl⟩, rfl⟩

/-- The context of a file has the derived values under their names, whatever the values of the run are. -/
theorem buildContext_keyed {base : Option (Entries Value)} (project : Value) (file : InputFile)
    (extension : Option String) (hkeys : ∀ e ∈ base.getD [], ∃ name, e.1 = .text name)
    (hdistinct : ((base.getD []).map (·.1)).Nodup) :
    ∃ entries : List (String × Value),
      buildContext Value.text base file project extension = keyed entries ∧ (names entries).Nodup ∧
      ∀ h : Hole, named? entries h.name = some (.text (file.value extension h)) := by
  obtain ⟨named, hnamed, hnodup⟩ := exists_keyed hkeys hdistinct
  refine ⟨setNamed "class" (.text (file.className extension)) (setNamed "package"
    (.text file.packageName) (setNamed "project" project named)), ?_, ?_, fun h => ?_⟩
  · rw [buildContext, hnamed, insert_keyed, insert_keyed, insert_keyed]
  · exact nodup_setNamed (nodup_setNamed (nodup_setNamed hnodup _ _) _ _) _ _
  · cases h <;> simp [named?_setNamed, Hole.name, InputFile.value]

theorem contextViolations_keyed {α : Type} (entries : List (String × α)) :
    contextViolations (keyed entries) = [] := by
  simp [contextViolations, keyed]

/-! ## One file -/

/-- An engine is ready after the first half of a run, and keeps the line break at the end of a text. -/
theorem prepare_engine {sink : Sink} {job : Job Value} {root : Path} {files : List InputFile}
    {run start : Run Session} {searchPath : String}
    (h : prepare (engine sink) job root files run = (start, .ok searchPath)) :
    start.engine.isConfigured = true ∧ start.engine.library.config.keepTrailingNewline = true := by
  unfold prepare at h
  split at h
  · cases h
  · dsimp only [Run.logged] at h
    split at h
    · cases h
    · cases h
      exact ⟨rfl, rfl⟩

/-- One file with holes in it. -/
theorem renderFile_holed {job : Job Value} {root : Path} {file : InputFile} {t : Holed}
    {run : Run Session} (hp : root.isAbsolute = true)
    (hkeys : ∀ e ∈ job.base.getD [], ∃ name, e.1 = .text name)
    (hdistinct : ((job.base.getD []).map (·.1)).Nodup) (ht : t.IsLiteral)
    (hconfigured : run.engine.isConfigured = true)
    (hconfig : run.engine.library.config.keepTrailingNewline = true)
    (hsource : run.files.read file.path = .ok t.source.toUTF8)
    (htarget : CanCreate run.files (root.descend file.segments)) :
    ∃ run' stamp, renderFile (engine .file) job root file run = (run', none) ∧
      run'.files.look true (root.descend file.segments)
        = .ok (.file (t.filled (file.value job.options.sourceExtension)).toUTF8 0o644 stamp) := by
  obtain ⟨entries, hentries, hnodup, hvalue⟩ :=
    buildContext_keyed job.project file job.options.sourceExtension hkeys hdistinct
  have hbody : ∀ fs, (render .file fs (requestFor (engine .file) job file t.source.toUTF8) run.engine).text
        = t.filled (file.value job.options.sourceExtension) ∧
      (render .file fs (requestFor (engine .file) job file t.source.toUTF8) run.engine).failure = none := by
    intro fs
    obtain ⟨state', hrender⟩ := render_holed .file fs file.relativeName ht.normalized hnodup hvalue
      hconfigured hconfig
    have hrequest : requestFor (engine .file) job file t.source.toUTF8
        = ⟨keyed entries, .ok t.normalized.source, file.relativeName⟩ := by
      rw [requestFor, t.decodeFile_source, ← hentries]
      rfl
    rw [hrequest]
    exact ⟨by rw [keyed, hrender, t.filled_normalized], by rw [keyed, hrender]⟩
  obtain ⟨B, state', stamp, hwrite, hlook⟩ := htarget.write (p := root.descend file.segments) hp
    FileSystem.defaultMode run.engine hbody
  have hviolations : contextViolations (buildContext (engine .file).ofText job.base file job.project
      job.options.sourceExtension) = [] := by
    have hofText : (engine .file).ofText = Value.text := rfl
    rw [hofText, hentries, contextViolations_keyed]
  have hunit : renderUnit (engine .file) (buildContext (engine .file).ofText job.base file job.project
      job.options.sourceExtension) file.path file.relativeName (root.descend file.segments) run.files
      run.engine = (B, state', none) := by
    simp only [renderUnit, hsource]
    exact congrArg (fun r => (r.1, r.2.1, r.2.2.map (namingSource file.path))) hwrite
  have hfile : ∃ log warnings,
      renderFile (engine .file) job root file run = (⟨B, state', log, warnings⟩, none) := by
    unfold renderFile
    simp only [hviolations, Run.logged, Run.warned, hunit]
    exact ⟨_, _, rfl⟩
  obtain ⟨log, warnings, hfile⟩ := hfile
  exact ⟨_, stamp, hfile, hlook⟩

/-- A run with one file that is a text with holes. The bytes of the source become those of the target,
    with line feeds for all line breaks, and with the package and class of the file in the holes. -/
theorem compile_holed {job : Job Value} {fs : FileSystem} {state : Session} {file : InputFile}
    {t : Holed} {root : Path} {start : Run Session} {searchPath : String}
    (hcollected : (job.inputs.collect fs).failure = none) (hfound : job.found fs = [file])
    (hkeys : ∀ e ∈ job.base.getD [], ∃ name, e.1 = .text name)
    (hdistinct : ((job.base.getD []).map (·.1)).Nodup) (ht : t.IsLiteral)
    (hroot : fs.absolute job.output = .ok root)
    (hready : prepare (engine .file) job root [file] (job.begun fs state) = (start, .ok searchPath))
    (hsource : start.files.read file.path = .ok t.source.toUTF8)
    (htarget : CanCreate start.files (root.descend file.segments)) :
    ∃ run report stamp, compile (engine .file) job fs state = (run, .ok report) ∧
      report.rendered = [root.descend file.segments] ∧ report.failures = [] ∧
      run.files.look true (root.descend file.segments)
        = .ok (.file (t.filled (file.value job.options.sourceExtension)).toUTF8 0o644 stamp) := by
  obtain ⟨hconfigured, hconfig⟩ := prepare_engine hready
  obtain ⟨run', stamp, hrender, hlook⟩ := renderFile_holed (FileSystem.isAbsolute_of_absolute hroot) hkeys
    hdistinct ht hconfigured hconfig hsource htarget
  have hall : renderAll (engine .file) job root [file] ⟨root, searchPath, [], []⟩ start
      = (run', .ok ⟨root, searchPath, [root.descend file.segments], []⟩) := by
    simp only [renderAll, hrender]
    rfl
  have hfiles : compileFiles (engine .file) job root [file] (job.begun fs state)
      = (run'.logged [.info ("Rendered " ++ toString 1 ++ " file(s), " ++ toString 0 ++ " failure(s)")],
        .ok ⟨root, searchPath, [root.descend file.segments], []⟩) := by
    simp only [compileFiles, hready, hall]
    rfl
  have hcompile : compile (engine .file) job fs state
      = compileFiles (engine .file) job root [file] (job.begun fs state) := by
    rw [← hfound]
    simp only [compile, hroot, hcollected]
    simp [Job.begun, Job.found, Run.logged]
  exact ⟨_, _, stamp, hcompile.trans hfiles, rfl, rfl, hlook⟩

/-! ## A class in a package -/

/-- The beginning of a source file, with line breaks of two kinds. -/
def classSource : Holed :=
  .hole "package " .package (.hole ";\r\n\r\nclass " .className (.last " \x7b \x7d\n"))

/-- A file system with this source. -/
def oneClass : FileSystem :=
  (FileSystem.empty []).put ["t"] (.file classSource.source.toUTF8 FileSystem.defaultMode 0)

/-- The source as an input file in a package. -/
def classFile : InputFile :=
  ⟨["com", "acme", "Hello.java"], ⟨.single, ["t"]⟩, by decide⟩

/-- A job that renders it, with a value that the derived package hides. -/
def oneClassJob : Job Value where
  inputs := .files [classFile]
  includeDirs := []
  base := some [(.text "package", .text "hidden"), (.text "year", .int 2024)]
  output := ⟨.single, ["out"]⟩
  project := .text "acme"
  options := {}

/-- The same run when the file is about to be rendered. -/
def oneClassReady : Run Session × Except Failure String :=
  prepare (engine .file) oneClassJob ⟨.single, ["out"]⟩ [classFile] (oneClassJob.begun oneClass .fresh)

theorem compile_holed_class : ∃ run report stamp,
    compile (engine .file) oneClassJob oneClass .fresh = (run, .ok report) ∧
      report.rendered = [⟨.single, ["out", "com", "acme", "Hello.java"]⟩] ∧ report.failures = [] ∧
      run.files.look true ⟨.single, ["out", "com", "acme", "Hello.java"]⟩
        = .ok (.file "package com.acme;\n\nclass Hello \x7b \x7d\n".toUTF8 0o644 stamp) := by
  have hready : oneClassReady.2.isOk = true := by decide +kernel
  have hsource : oneClassReady.1.files.read classFile.path = .ok classSource.source.toUTF8 := by
    decide +kernel
  have htarget : CanCreate oneClassReady.1.files (Path.descend ⟨.single, ["out"]⟩ classFile.segments) := by
    decide +kernel
  have hfilled : classSource.filled (classFile.value oneClassJob.options.sourceExtension)
      = "package com.acme;\n\nclass Hello \x7b \x7d\n" := by decide +kernel
  rw [← hfilled]
  cases h : oneClassReady with
  | mk start result =>
    rw [h] at hready hsource htarget
    cases result with
    | error failure => cases hready
    | ok searchPath =>
      exact compile_holed (t := classSource) rfl rfl (by simp [oneClassJob])
        (by simp [oneClassJob]) (by decide +kernel) rfl h hsource htarget

end TemplateTree
