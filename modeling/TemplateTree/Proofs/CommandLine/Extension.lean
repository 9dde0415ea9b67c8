import TemplateTree.Proofs.CommandLine.Repeating
import TemplateTree.Proofs.Compile.Targets
import TemplateTree.Proofs.Text.Pieces
import TemplateTree.Proofs.Values.Overlaying
import TemplateTree.Proofs.Values.Writing

/-!
# Where the source extension comes from

The source extension is a field of the options. A request can give it, and so can the environment. What a request
gives is brought into a normal form first: without blanks around it, and with a dot in front unless nothing is left.
What the environment gives is taken as it is.

* `InputFile.className_eq_className_iff`: when two source extensions make the same class of a file.
* `normalExtension_eq_self_iff`, `classNames_agree_iff`: when the normal form makes no difference.
* `compile_withExtension`: the source extension matters to a run by the classes of the input files only.
* `SetsExtension`, `ofEnvironment_setsExtension`: environments that differ in the source extension only.
* `job_flag`, `job_setting`: the jobs of the two routes.
* `ofArguments_flag`: the arguments of the two routes.
* `sourceExtension_agrees`: what the two routes have in common.
-/

namespace TemplateTree

/-! ## Classes -/

namespace InputFile

variable {f : InputFile} {e e' : String}

/-- Whether a source extension is taken off the name of a file. -/
def EndsIn (f : InputFile) (e : String) : Prop :=
  e ≠ "" ∧ ∃ name, f.lastName = name ++ e

theorem className_of_endsIn {name : String} (hne : e ≠ "") (h : f.lastName = name ++ e) :
    f.className (some e) = name :=
  className_eq_iff.2 (h ▸ .stripped name e hne)

theorem className_of_not_endsIn (h : ¬f.EndsIn e) : f.className (some e) = f.lastName := by
  refine className_eq_iff.2 (.whole ?_)
  rintro _ ⟨⟩ hne name hname
  exact h ⟨hne, name, hname⟩

theorem className_eq_lastName_iff : f.className (some e) = f.lastName ↔ ¬f.EndsIn e := by
  refine ⟨?_, className_of_not_endsIn⟩
  rintro h ⟨hne, name, hname⟩
  rw [className_of_endsIn hne hname, hname] at h
  exact hne (String.append_eq_left_iff.1 h.symm)

/-- Two source extensions make the same class of a file if they are the same, or neither of them is taken off. -/
theorem className_eq_className_iff :
    f.className (some e') = f.className (some e) ↔ e' = e ∨ ¬f.EndsIn e' ∧ ¬f.EndsIn e := by
  constructor
  · intro h
    by_cases he : f.EndsIn e
    · obtain ⟨hne, name, hname⟩ := he
      left
      rw [className_of_endsIn hne hname] at h
      -- The other one is taken off, too, and leaves the same.
      have he' : f.EndsIn e' := by
        by_contra hnot
        rw [className_of_not_endsIn hnot, hname] at h
        exact hne (String.append_eq_left_iff.1 h)
      obtain ⟨hne', name', hname'⟩ := he'
      rw [className_of_endsIn hne' hname'] at h
      rw [← h, hname'] at hname
      exact (String.append_right_inj _).1 hname
    · rw [className_of_not_endsIn he] at h
      exact .inr ⟨className_eq_lastName_iff.1 h, he⟩
  · rintro (rfl | ⟨he', he⟩)
    · rfl
    · rw [className_of_not_endsIn he', className_of_not_endsIn he]

/-- A name has no slashes. -/
theorem not_endsIn_of_slash (h : '/' ∈ e.toList ∨ '\\' ∈ e.toList) : ¬f.EndsIn e := by
  rintro ⟨hne, name, hname⟩
  unfold lastName at hname
  cases hlast : f.segments.getLast? with
  | none =>
    rw [hlast, Option.getD_none] at hname
    exact hne (String.append_eq_empty_iff.1 hname.symm).2
  | some last =>
    have hsegment := List.all_eq_true.1 f.segments_ok last (List.mem_of_mem_getLast? hlast)
    obtain ⟨-, -, -, hslash, hbackslash⟩ := isSegment_iff.1 hsegment
    rw [hlast, Option.getD_some] at hname
    rw [hname, String.toList_append] at hslash hbackslash
    exact h.elim (fun h => hslash (List.mem_append_right _ h)) fun h => hbackslash (List.mem_append_right _ h)

end InputFile

/-! ## The normal form -/

/-- The source extension that a request means by a text: without blanks around it, and with a dot in front. The empty
    one takes nothing off. -/
def normalExtension (e : String) : String :=
  (KeyValue.sourceExtension? e).getD ""

theorem normalExtension_cases (e : String) :
    (Text.trim e.toList = [] ∧ normalExtension e = "") ∨
      (normalExtension e).toList = Text.trim e.toList ∧ (∃ rest, Text.trim e.toList = '.' :: rest) ∨
      (normalExtension e).toList = '.' :: Text.trim e.toList ∧ ∀ rest, Text.trim e.toList ≠ '.' :: rest := by
  unfold normalExtension KeyValue.sourceExtension?
  split
  · rename_i htrim
    exact .inl ⟨htrim, rfl⟩
  · rename_i rest htrim
    exact .inr (.inl ⟨by simp [htrim], rest, htrim⟩)
  · rename_i hdot
    exact .inr (.inr ⟨by simp, fun rest h => hdot rest h⟩)

/-- Characters that are not blank stay. -/
theorem mem_normalExtension {e : String} {c : Char} (h : c ∈ e.toList) (hc : Text.isBlank c = false) :
    c ∈ (normalExtension e).toList := by
  have htrim := Text.mem_trim h hc
  obtain ⟨hempty, -⟩ | ⟨hsame, -⟩ | ⟨hdot, -⟩ := normalExtension_cases e
  · rw [hempty] at htrim
    cases htrim
  · rwa [hsame]
  · rw [hdot]
    exact List.mem_cons_of_mem _ htrim

/-- The normal form is the text itself if that is empty, or begins with a dot and does not end in a blank. -/
theorem normalExtension_eq_self_iff {e : String} :
    normalExtension e = e ↔
      e = "" ∨ (∃ rest, e.toList = '.' :: rest) ∧ ∀ c ∈ e.toList.getLast?, Text.isBlank c = false := by
  constructor
  · intro h
    obtain ⟨-, hempty⟩ | ⟨hsame, hdot⟩ | ⟨hdot, hbare⟩ := normalExtension_cases e
    · exact .inl (h.symm.trans hempty)
    · rw [h] at hsame
      rw [← hsame] at hdot
      exact .inr ⟨hdot, hsame ▸ Text.getLast?_trim⟩
    · rw [h] at hdot
      obtain ⟨rest, hrest⟩ := Text.exists_trim_cons (c := '.') (by decide) (Text.trim e.toList)
      rw [← hdot] at hrest
      exact absurd hrest (hbare rest)
  · rintro (rfl | ⟨⟨rest, hrest⟩, hlast⟩)
    · rfl
    · have htrim : Text.trim e.toList = e.toList := by
        refine Text.trim_eq_self ?_ hlast
        rw [hrest]
        rintro c ⟨⟩
        rfl
      rw [hrest] at htrim
      apply String.toList_injective
      obtain ⟨hnil, -⟩ | ⟨hsame, -⟩ | ⟨-, hbare⟩ := normalExtension_cases e
      · rw [hrest, htrim] at hnil
        cases hnil
      · rw [hsame, hrest, htrim]
      · rw [hrest] at hbare
        exact absurd htrim (hbare rest)

/-- The normal form makes the same classes of all files if it is the text itself, or if no file can have a name with
    the text at its end. -/
theorem classNames_agree_iff {e : String} :
    (∀ f : InputFile, f.className (some (normalExtension e)) = f.className (some e)) ↔
      normalExtension e = e ∨ '/' ∈ e.toList ∨ '\\' ∈ e.toList := by
  constructor
  · intro h
    by_contra hnot
    obtain ⟨hne, hslash, hbackslash⟩ : normalExtension e ≠ e ∧ '/' ∉ e.toList ∧ '\\' ∉ e.toList := by
      simpa only [not_or] using hnot
    have hempty : e ≠ "" := by
      rintro rfl
      exact hne rfl
    have hsegment : [("a" ++ e)].all isSegment = true := by
      have hhead (s : String) (h : "a" ++ e = s) : s.toList.head? = some 'a' := by simp [← h]
      rw [List.all_cons, List.all_nil, Bool.and_true, isSegment_iff]
      refine ⟨fun h => ?_, fun h => ?_, fun h => ?_, by simpa using hslash, by simpa using hbackslash⟩
      all_goals exact absurd (hhead _ h) (by decide)
    let f : InputFile := ⟨["a" ++ e], ⟨.single, []⟩, hsegment⟩
    have hends : f.EndsIn e := ⟨hempty, "a", rfl⟩
    exact (InputFile.className_eq_className_iff.1 (h f)).elim hne fun hneither => hneither.2 hends
  · rintro (hself | hslash) f
    · rw [hself]
    · have hnormal : '/' ∈ (normalExtension e).toList ∨ '\\' ∈ (normalExtension e).toList :=
        hslash.imp (fun h => mem_normalExtension h (by decide)) fun h => mem_normalExtension h (by decide)
      exact InputFile.className_eq_className_iff.2
        (.inr ⟨InputFile.not_endsIn_of_slash hnormal, InputFile.not_endsIn_of_slash hslash⟩)

/-! ## Runs that differ in the source extension only -/

/-- The same options with another source extension. -/
def CompileOptions.withExtension (options : CompileOptions) (extension : Option String) : CompileOptions :=
  { options with sourceExtension := extension }

/-- The same job with another source extension. -/
def Job.withExtension {α : Type} (job : Job α) (extension : Option String) : Job α :=
  { job with options := job.options.withExtension extension }

section

variable {α σ : Type} {engine : Engine α σ} {job : Job α} {root : Path} {x y : Option String}

theorem renderFile_withExtension {file : InputFile} (h : file.className x = file.className y) (run : Run σ) :
    renderFile engine (job.withExtension x) root file run = renderFile engine (job.withExtension y) root file run := by
  have hcontext : buildContext engine.ofText job.base file job.project x
      = buildContext engine.ofText job.base file job.project y := by
    unfold buildContext
    rw [h]
  simp only [renderFile, Job.withExtension, CompileOptions.withExtension, hcontext]

theorem renderAll_withExtension {files : List InputFile} (h : ∀ file ∈ files, file.className x = file.className y)
    (report : Report) (run : Run σ) :
    renderAll engine (job.withExtension x) root files report run
      = renderAll engine (job.withExtension y) root files report run := by
  induction files generalizing report run with
  | nil => rfl
  | cons file files ih =>
    obtain ⟨hfile, hfiles⟩ := List.forall_mem_cons.1 h
    simp only [renderAll, renderFile_withExtension hfile, ih hfiles]
    rfl

/-- A source extension matters to a run by the classes of the input files only. -/
theorem compile_withExtension {fs : FileSystem}
    (h : ∀ file ∈ (job.inputs.collect fs).files, file.className x = file.className y) (state : σ) :
    compile engine (job.withExtension x) fs state = compile engine (job.withExtension y) fs state := by
  have hfiles (root : Path) (run : Run σ) :
      compileFiles engine (job.withExtension x) root (job.inputs.collect fs).files run
        = compileFiles engine (job.withExtension y) root (job.inputs.collect fs).files run := by
    simp only [compileFiles, renderAll_withExtension h]
    rfl
  unfold compile
  simp only [Job.withExtension] at hfiles ⊢
  simp only [hfiles]

end

/-! ## The settings -/

/-- An environment that sets the source extension, and is otherwise like another one. -/
structure SetsExtension (env env' : Environment) (e : String) : Prop where
  own : (Settings.fields env').get? "source_extension" = some (.text e)
  others : ∀ name ≠ "source_extension", (Settings.fields env').get? name = (Settings.fields env).get? name

/-- One more variable is enough, whether or not the environment sets the source extension already. -/
theorem setsExtension_append (env : Environment) (e : String) :
    SetsExtension env (env ++ [("TREEPLATE_SOURCE_EXTENSION", e)]) e := by
  have hfields : Settings.fields (env ++ [("TREEPLATE_SOURCE_EXTENSION", e)])
      = Settings.fields [("TREEPLATE_SOURCE_EXTENSION", e)] ++ Settings.fields env := by
    simp only [Settings.fields, List.filterMap_append, List.reverse_append]
  have hlast : Settings.fields [("TREEPLATE_SOURCE_EXTENSION", e)] = [("source_extension", .text e)] := rfl
  rw [hlast, List.singleton_append] at hfields
  constructor
  · rw [hfields]
    rfl
  · intro name hname
    rw [hfields, Fields.get?, List.find?_cons_of_neg (by simpa using hname.symm)]
    rfl

theorem Checked.both_ok {α β : Type} (x : α) (b : Checked β) : both (.ok x) b = b.map fun y => (x, y) := by
  cases b <;> rfl

theorem Fields.optional_congr {fields fields' : Fields} {name : String} (h : fields'.get? name = fields.get? name)
    {α : Type} (default : α) (read : Datum → Except Defect α) :
    fields'.optional name default read = fields.optional name default read := by
  unfold optional
  rw [h]

/-- Fields that differ in the source extension only make options that differ in it only. -/
theorem ofFieldsOver_withExtension (base : CompileOptions) {fields fields' : Fields} {x y z : Option String}
    (hx : fields.optional "source_extension" base.sourceExtension Read.text? = .ok x)
    (hz : fields'.optional "source_extension" y Read.text? = .ok z)
    (hothers : ∀ name ≠ "source_extension", fields'.get? name = fields.get? name) :
    CompileOptions.ofFieldsOver (base.withExtension y) fields'
      = (CompileOptions.ofFieldsOver base fields).map (·.withExtension z) := by
  unfold CompileOptions.ofFieldsOver CompileOptions.withExtension
  dsimp only
  rw [hx, hz, Checked.both_ok, Checked.both_ok, Fields.optional_congr (hothers "cache_enabled" (by decide)),
    Fields.optional_congr (hothers "strict_undefined" (by decide)),
    Fields.optional_congr (hothers "include_path_mode" (by decide)),
    Fields.optional_congr (hothers "continue_on_error" (by decide))]
  generalize Checked.both (fields.optional "cache_enabled" base.cacheEnabled Read.bool) _ = rest
  cases rest <;> rfl

/-- The environment says texts only. -/
theorem get?_settings {env : Environment} {name : String} {d : Datum}
    (h : (Settings.fields env).get? name = some d) : ∃ s, d = .text s := by
  obtain ⟨field, hfind, rfl⟩ := Option.map_eq_some_iff.1 h
  have hmem := List.mem_reverse.1 (List.mem_of_find?_eq_some hfind)
  obtain ⟨⟨name, value⟩, -, hvalue⟩ := List.mem_filterMap.1 hmem
  dsimp only at hvalue
  split_ifs at hvalue
  rw [← Option.some.inj hvalue]
  exact ⟨value, rfl⟩

theorem ofEnvironment_setsExtension {env env' : Environment} {e : String} (h : SetsExtension env env' e) :
    Settings.ofEnvironment env' = (Settings.ofEnvironment env).map (·.withExtension (some e)) := by
  have hx : ∃ x, (Settings.fields env).optional "source_extension" (some ".java") Read.text? = .ok x := by
    unfold Fields.optional
    cases hget : (Settings.fields env).get? "source_extension" with
    | none => exact ⟨_, rfl⟩
    | some d =>
      obtain ⟨s, rfl⟩ := get?_settings hget
      exact ⟨_, rfl⟩
  obtain ⟨x, hx⟩ := hx
  have hz : (Settings.fields env').optional "source_extension" (some ".java") Read.text? = .ok (some e) := by
    unfold Fields.optional
    rw [h.own]
    rfl
  exact ofFieldsOver_withExtension {} hx hz h.others

/-! ## The jobs of both routes -/

namespace CommandLine

variable {env env' : Environment} {fs : FileSystem} {r : RenderRequest} {e : String}

/-- The same request with another source extension, or without one. -/
def RenderRequest.withExtension (r : RenderRequest) (extension : Option String) : RenderRequest :=
  { r with sourceExtension := extension }

theorem get?_overrides_sourceExtension (r : RenderRequest) :
    Fields.get? (r.overrides.filter fun f => !f.2.isNone) "source_extension"
      = r.sourceExtension.map fun e => .text (normalExtension e) := by
  unfold RenderRequest.overrides Fields.get?
  cases r.sourceExtension <;> cases r.includePathMode <;> cases r.continueOnError <;> cases r.noCache <;> rfl

theorem get?_overrides_withExtension (r : RenderRequest) (e : String) {name : String} (hname : name ≠ "source_extension") :
    Fields.get? ((r.withExtension (some e)).overrides.filter fun f => !f.2.isNone) name
      = Fields.get? ((r.withExtension none).overrides.filter fun f => !f.2.isNone) name := by
  have hflag : (r.withExtension (some e)).overrides
      = ("source_extension", .text (normalExtension e)) :: (r.withExtension none).overrides := rfl
  rw [hflag, List.filter_cons_of_pos rfl, Fields.get?, List.find?_cons_of_neg (by simpa using hname.symm)]
  rfl

theorem optional_withExtension_none (r : RenderRequest) (default : Option String) :
    Fields.optional ((r.withExtension none).overrides.filter fun f => !f.2.isNone) "source_extension" default Read.text?
      = .ok default := by
  unfold Fields.optional
  rw [get?_overrides_sourceExtension]
  rfl

/-- What a request says of the source extension comes over the settings. -/
theorem toOptions_flag (settings : CompileOptions) (r : RenderRequest) (e : String) :
    Settings.toOptions settings (r.withExtension (some e)).overrides
      = (Settings.toOptions settings (r.withExtension none).overrides).map
          (·.withExtension (some (normalExtension e))) := by
  have hnone : Fields.optional ((r.withExtension none).overrides.filter fun f => !f.2.isNone) "source_extension"
      settings.sourceExtension Read.text? = .ok settings.sourceExtension := optional_withExtension_none r _
  refine ofFieldsOver_withExtension settings hnone ?_ fun name hname => get?_overrides_withExtension r e hname
  unfold Fields.optional
  rw [get?_overrides_sourceExtension]
  rfl

/-- A request that says nothing of it leaves it as it is set. -/
theorem toOptions_setting (settings : CompileOptions) (r : RenderRequest) (extension : Option String) :
    Settings.toOptions (settings.withExtension extension) (r.withExtension none).overrides
      = (Settings.toOptions settings (r.withExtension none).overrides).map (·.withExtension extension) :=
  ofFieldsOver_withExtension settings (optional_withExtension_none r _) (optional_withExtension_none r _)
    fun _ _ => rfl

/-- The job of a request whose options are known. -/
def RenderRequest.jobWith (r : RenderRequest) (fs : FileSystem) (options : CompileOptions) :
    Except Failure (Job Object) := do
  let values ← mergeValues fs r.valuesFiles r.values
  let project ← r.project fs
  return {
    inputs := .set ⟨r.sources, r.patterns, r.excludes⟩
    includeDirs := r.includeDirs
    base := some values
    output := r.output
    project := .project project
    options }

theorem job_eq_jobWith (r : RenderRequest) (env : Environment) (fs : FileSystem) :
    r.job env fs = (do
      let settings ← (Settings.ofEnvironment env).mapError .invalid
      let options ← (Settings.toOptions settings r.overrides).mapError .invalid
      r.jobWith fs options) :=
  rfl

theorem jobWith_withExtension (r : RenderRequest) (fs : FileSystem) (options : CompileOptions)
    (x y : Option String) :
    (r.withExtension x).jobWith fs (options.withExtension y)
      = ((r.withExtension none).jobWith fs options).map (·.withExtension y) := by
  change (mergeValues fs r.valuesFiles r.values >>= fun values => r.project fs >>= fun project => _)
    = (mergeValues fs r.valuesFiles r.values >>= fun values => r.project fs >>= fun project => _).map _
  cases mergeValues (ν := Graph.Vertex) fs r.valuesFiles r.values with
  | error failure => rfl
  | ok values => cases r.project fs <;> rfl

/-- A request that gives the source extension has the job of one that does not, with the normal form of what it
    gives. -/
theorem job_flag (r : RenderRequest) (e : String) (env : Environment) (fs : FileSystem) :
    (r.withExtension (some e)).job env fs
      = ((r.withExtension none).job env fs).map (·.withExtension (some (normalExtension e))) := by
  rw [job_eq_jobWith, job_eq_jobWith]
  cases Settings.ofEnvironment env with
  | error violations => rfl
  | ok settings =>
    dsimp only [Except.mapError, bind, Except.bind]
    rw [toOptions_flag]
    cases Settings.toOptions settings (r.withExtension none).overrides with
    | error violations => rfl
    | ok options => exact jobWith_withExtension r fs options (some e) _

/-- Where the environment sets the source extension, a request that does not give it has the job of before with what
    is set. -/
theorem job_setting (r : RenderRequest) (h : SetsExtension env env' e) (fs : FileSystem) :
    (r.withExtension none).job env' fs = ((r.withExtension none).job env fs).map (·.withExtension (some e)) := by
  rw [job_eq_jobWith, job_eq_jobWith, ofEnvironment_setsExtension h]
  cases Settings.ofEnvironment env with
  | error violations => rfl
  | ok settings =>
    dsimp only [Except.mapError, Except.map, bind, Except.bind]
    rw [toOptions_setting]
    cases Settings.toOptions settings (r.withExtension none).overrides with
    | error violations => rfl
    | ok options => exact jobWith_withExtension r fs options none _

/-! ## The arguments of both routes -/

theorem request_flag (a : Arguments) (e : String) :
    RenderRequest.ofArguments (a.withSwitches [(.sourceExtension, e)])
      = (RenderRequest.ofArguments a).map fun r => r.withExtension (some (r.sourceExtension.getD e)) := by
  have hlast : (a.withSwitches [(.sourceExtension, e)]).last? .sourceExtension
      = some ((a.last? .sourceExtension).getD e) :=
    List.getLast?_cons
  unfold RenderRequest.ofArguments
  rw [hlast]
  change (modeOf a >>= fun mode => sourcesOf a >>= fun sources => outputOf a >>= fun output => _)
    = (modeOf a >>= fun mode => sourcesOf a >>= fun sources => outputOf a >>= fun output => _).map _
  cases modeOf a with
  | error mistake => rfl
  | ok mode =>
    cases sourcesOf a with
    | error mistake => rfl
    | ok sources => cases outputOf a <;> rfl

/-- The source extension can be given in front of all other arguments. -/
theorem ofArguments_flag {rest : List String}
    (h : Command.ofArguments (Command.renderName :: rest) = .ok (.render (r.withExtension none))) :
    Command.ofArguments (Command.renderName :: Switch.sourceExtension.long :: e :: rest)
      = .ok (.render (r.withExtension (some e))) := by
  have hnamed (rest : List String) : Command.ofArguments (Command.renderName :: rest) = (do
      let a ← Arguments.read Switch.ofRender true rest
      if a.has .help then return .help .render
      return .render (← RenderRequest.ofArguments a)) := rfl
  have hread : Arguments.read Switch.ofRender true (Switch.sourceExtension.long :: e :: rest)
      = (Arguments.read Switch.ofRender true rest).map (Arguments.withSwitches [(.sourceExtension, e)]) := rfl
  rw [hnamed] at h
  rw [hnamed, hread]
  obtain ⟨a, ha, h⟩ := bind_eq_ok.1 h
  rw [ha]
  refine bind_eq_ok.2 ⟨a.withSwitches [(.sourceExtension, e)], rfl, ?_⟩
  have hhelp : (a.withSwitches [(.sourceExtension, e)]).has .help = a.has .help := rfl
  rw [hhelp, request_flag]
  cases hasked : a.has .help with
  | true =>
    rw [hasked] at h
    cases h
  | false =>
    rw [hasked] at h
    obtain ⟨request, hrequest, h⟩ := bind_eq_ok.1 h
    rw [hrequest]
    cases h
    rfl

/-! ## What the routes have in common -/

theorem invocation_congr {r r' : RenderRequest} (hverbose : r'.verbose = r.verbose)
    (hjob : r'.job env' fs = r.job env fs) : r'.invocation env' fs = r.invocation env fs := by
  unfold RenderRequest.invocation
  rw [hjob, hverbose]

theorem compileTemplates_withExtension {job : Job Object} {x y : Option String}
    (h : ∀ file ∈ (job.inputs.collect fs).files, file.className x = file.className y) :
    compileTemplates (job.withExtension x) fs = compileTemplates (job.withExtension y) fs := by
  have hgiven (z : Option String) :
      giveJob (job.withExtension z) .fresh = ((giveJob job .fresh).1.withExtension z, (giveJob job .fresh).2) := rfl
  have hinputs : (giveJob job .fresh).1.inputs = job.inputs := rfl
  unfold compileTemplates
  rw [hgiven, hgiven]
  rw [← hinputs] at h
  exact compile_withExtension h _

/-- Requests whose jobs differ in the source extension only leave the same files, and end in the same way, if the
    source extensions make the same classes of the input files. -/
theorem invocation_withExtension {r r' : RenderRequest} {job : Except Failure (Job Object)} {x y : Option String}
    (hjob : r.job env fs = job.map (·.withExtension x)) (hjob' : r'.job env' fs = job.map (·.withExtension y))
    (h : ∀ j, job = .ok j → ∀ file ∈ (j.inputs.collect fs).files, file.className x = file.className y) :
    (r.invocation env fs).files = (r'.invocation env' fs).files ∧
      (r.invocation env fs).ending = (r'.invocation env' fs).ending := by
  cases job with
  | error failure =>
    unfold RenderRequest.invocation
    rw [hjob, hjob']
    exact ⟨rfl, rfl⟩
  | ok j =>
    obtain ⟨hfiles, hending⟩ := render_invocation hjob
    obtain ⟨hfiles', hending'⟩ := render_invocation hjob'
    rw [hfiles, hending, hfiles', hending', compileTemplates_withExtension (h j rfl)]
    exact ⟨rfl, rfl⟩

/-- The flag and the setting differ in that the value of the flag is brought into its normal form first. So the flag
    does what the normal form does in the environment. With the value itself there, the run ends in the same way and
    leaves the same files if the normal form makes the same classes of the input files. It makes the same class of one
    file if it is the value itself, or the name of the file ends in neither; and of all files if it is the value
    itself, or no file can have a name with the value at its end. -/
theorem sourceExtension_agrees (args args' : List String) (fs : FileSystem)
    (hflag : Command.ofArguments args = .ok (.render (r.withExtension (some e))))
    (hsetting : Command.ofArguments args' = .ok (.render (r.withExtension none))) (henv : SetsExtension env env' e) :
    let flagged := invoke args env fs
    let set := invoke args' env' fs
    let normal := normalExtension e
    (∀ job, (r.withExtension (some e)).job env fs = .ok job →
      job.options.sourceExtension = some normal ∧
        (r.withExtension none).job env' fs = .ok (job.withExtension (some e))) ∧
    (∀ env'', SetsExtension env env'' normal → flagged = invoke args' env'' fs) ∧
    ((∀ file ∈ ((⟨r.sources, r.patterns, r.excludes⟩ : SourceSet).collect fs).files,
      file.className (some normal) = file.className (some e)) →
        flagged.files = set.files ∧ flagged.ending = set.ending) ∧
    (∀ file : InputFile, file.className (some normal) = file.className (some e) ↔
      normal = e ∨ ¬file.EndsIn normal ∧ ¬file.EndsIn e) ∧
    ((∀ file : InputFile, file.className (some normal) = file.className (some e)) ↔
      normal = e ∨ '/' ∈ e.toList ∨ '\\' ∈ e.toList) ∧
    (normal = e ↔ e = "" ∨ (∃ rest, e.toList = '.' :: rest) ∧ ∀ c ∈ e.toList.getLast?, Text.isBlank c = false) := by
  intro flagged set normal
  have hflagged : flagged = (r.withExtension (some e)).invocation env fs := by
    simp only [flagged, invoke, hflag, Command.perform]
  have hset (env'' : Environment) : invoke args' env'' fs = (r.withExtension none).invocation env'' fs := by
    simp only [invoke, hsetting, Command.perform]
  have hjob := job_flag r e env fs
  have hjob' := job_setting r henv fs
  refine ⟨fun job h => ?_, fun env'' henv'' => ?_, fun h => ?_, fun file => InputFile.className_eq_className_iff,
    classNames_agree_iff, normalExtension_eq_self_iff⟩
  · cases hplain : (r.withExtension none).job env fs with
    | error failure =>
      rw [hjob, hplain] at h
      cases h
    | ok plain =>
      rw [hjob, hplain] at h
      cases h
      exact ⟨rfl, by rw [hjob', hplain]; rfl⟩
  · rw [hflagged, hset]
    exact invocation_congr rfl (hjob.trans (job_setting r henv'' fs).symm)
  · rw [hflagged, show set = _ from hset env']
    refine invocation_withExtension hjob hjob' fun job hplain file hfile => h file ?_
    rwa [(job_eq_ok hplain).2.1] at hfile

/-- Without its dot the value means something else in the environment, but that does not matter to a file whose name
    ends in neither. -/
theorem sourceExtension_agrees_bare :
    let args := ["render", "src", "--output", "out"]
    let flagged := invoke ["render", "--source-extension", "java", "src", "--output", "out"] [] (oneSource [])
    flagged = invoke args [("TREEPLATE_SOURCE_EXTENSION", ".java")] (oneSource []) ∧
      flagged.files = (invoke args [("TREEPLATE_SOURCE_EXTENSION", "java")] (oneSource [])).files ∧
      ¬∀ f : InputFile, f.className (some ".java") = f.className (some "java") := by
  intro args flagged
  have hsetting : Command.ofArguments args = .ok (.render (besideRequest.withExtension none)) := by decide +kernel
  have hnormal : normalExtension "java" = ".java" := by decide +kernel
  obtain ⟨-, hsame, htree, -, hall, -⟩ := sourceExtension_agrees
    ["render", "--source-extension", "java", "src", "--output", "out"] args (oneSource []) (ofArguments_flag hsetting)
    hsetting (setsExtension_append [] "java")
  rw [hnormal] at hsame htree hall
  have hclasses : ∀ file ∈ ((⟨[⟨.relative, ["src"]⟩], [], []⟩ : SourceSet).collect (oneSource [])).files,
      file.className (some ".java") = file.className (some "java") := by decide +kernel
  exact ⟨hsame _ (setsExtension_append [] ".java"), (htree hclasses).1, fun h => absurd (hall.1 h) (by decide)⟩

end CommandLine

end TemplateTree
