import TemplateTree.CommandLine.Invocation
import TemplateTree.Proofs.Attempts
import TemplateTree.Proofs.Compile.Continuing

/-!
# Reading values

The values of a run come from files and from the command line. Most of what can be wrong with them is a mistake
in the use of the command line, and is said so. What is not is listed here.

* `ValuesFile.Defect`, `ValuesFile.read_failed`: why a values file cannot be read.
* `mergeValues_failed`: why the values of a run cannot be had.
* `mergeValues_named`: all values have names.
* `toOptions_isOk`: the options of a request are never refused.
-/

namespace TemplateTree

/-- A mistake in the use of the command line. -/
def IsUsage (failure : Failure) : Prop :=
  ∃ kind text, failure = .usage kind text

/-! ## Named entries -/

section

variable {α : Type} {entries new : Entries α}

theorem IsNamed.insertAll (h : IsNamed entries) (hnew : IsNamed new) : IsNamed (entries.insertAll new) := by
  unfold Entries.insertAll
  induction new generalizing entries with
  | nil => exact h
  | cons e new ih =>
    obtain ⟨⟨name, hname⟩, hnew⟩ := List.forall_mem_cons.1 hnew
    refine ih ?_ hnew
    change IsNamed (entries.insert e.1 e.2)
    rw [hname]
    exact h.insert name e.2

theorem IsNamed.erase (h : IsNamed entries) (key : Scalar) : IsNamed (entries.erase key) :=
  fun e he => h e (List.mem_of_mem_filter he)

end

/-! ## One file -/

namespace ValuesFile

variable {fs : FileSystem} {p : Path} {failure : Failure}

/-- Whether a path leads to a file that holds a text. -/
def HoldsText (fs : FileSystem) (p : Path) (text : String) : Prop :=
  ∃ bytes, fs.read p = .ok bytes ∧ Text.decodeFile bytes = .ok text

/-- What can be wrong with a values file that is not said to be a mistake: its path has a NUL character, its
    bytes are no text, an integer in it has too many digits to be read, a value in it cannot be made by the
    rules of its format, or one of its keys has too many digits to be written. -/
inductive Defect (fs : FileSystem) (p : Path) : Failure → Prop
  | overNul (h : FileSystem.hasNul p = true) : Defect fs p .overNul
  | undecodable {bytes : ByteArray} {fault : Text.Utf8Fault} (hread : fs.read p = .ok bytes)
      (h : Text.decodeFile bytes = .error fault) : Defect fs p (.undecodable fault)
  | number {text : String} {fault : Decimal.IntegerFault} (htext : HoldsText fs p text) (hjson : isJson p = true)
      (h : Json.read text = .error (.number fault)) : Defect fs p fault.failure
  | value {text : String} {fault : Yaml.Fault} (htext : HoldsText fs p text) (hyaml : isJson p = false)
      (h : Yaml.read (ν := Graph.Vertex) text = .error fault) (hfault : fault ≠ .malformed) :
      Defect fs p (yamlFailure p fault)
  | key {text : String} {entries : List (Scalar × Object)} {n : Int} {d : Object} (htext : HoldsText fs p text)
      (h : parse p text = .ok (.map entries)) (hkey : (.int n, d) ∈ entries) (hlong : Decimal.isTooLong n = true) :
      Defect fs p (.value Decimal.tooLongToWrite)

theorem parse_failed {text : String} (htext : HoldsText fs p text)
    (h : parse (ν := Graph.Vertex) p text = .error failure) : IsUsage failure ∨ Defect fs p failure := by
  unfold parse at h
  split_ifs at h with hjson
  · obtain ⟨fault, hfault, rfl⟩ := mapError_eq_error.1 h
    cases fault with
    | mistake m => exact .inl ⟨_, _, rfl⟩
    | number fault => exact .inr (.number htext hjson (map_eq_error.1 hfault))
  · obtain ⟨fault, hfault, rfl⟩ := mapError_eq_error.1 h
    by_cases hmalformed : fault = .malformed
    · exact .inl ⟨_, _, by rw [hmalformed]; rfl⟩
    · exact .inr (.value htext (by simpa using hjson) hfault hmalformed)

theorem keyText_failed {key : Scalar} (h : keyText key = .error failure) :
    ∃ n, key = .int n ∧ Decimal.isTooLong n = true ∧ failure = .value Decimal.tooLongToWrite := by
  cases key with
  | int n =>
    simp only [keyText] at h
    split_ifs at h with hlong
    cases h
    exact ⟨n, rfl, hlong, rfl⟩
  | none | bool | float | text | bytes | date | dateTime => cases h

/-- A file that cannot be read has been used by mistake, or has a defect. -/
theorem read_failed (h : read (ν := Graph.Vertex) fs p = .error failure) : IsUsage failure ∨ Defect fs p failure := by
  obtain hread | ⟨bytes, hread, h⟩ := bind_eq_error.1 h
  · obtain ⟨e, he, rfl⟩ := mapError_eq_error.1 hread
    cases e with
    | failed => exact .inl ⟨_, _, rfl⟩
    | nulByte => exact .inr (.overNul (FileSystem.hasNul_of_read he))
  have hread := mapError_eq_ok.1 hread
  obtain hdecode | ⟨text, hdecode, h⟩ := bind_eq_error.1 h
  · obtain ⟨fault, hfault, rfl⟩ := mapError_eq_error.1 hdecode
    exact .inr (.undecodable hread hfault)
  have htext : HoldsText fs p text := ⟨bytes, hread, mapError_eq_ok.1 hdecode⟩
  obtain hparse | ⟨d, hparse, h⟩ := bind_eq_error.1 h
  · exact parse_failed htext hparse
  · unfold ofTree at h
    split at h
    · cases h
    · obtain hkeys | ⟨named, -, h⟩ := bind_eq_error.1 h
      · obtain ⟨⟨key, d⟩, hmem, hkey⟩ := mapM_error hkeys
        obtain hkey | ⟨text, -, h⟩ := bind_eq_error.1 hkey
        · obtain ⟨n, rfl, hlong, rfl⟩ := keyText_failed hkey
          exact .inr (.key htext hparse hmem hlong)
        · cases h
      · cases h
    · cases h
      exact .inl ⟨_, _, rfl⟩

theorem read_named {ν : Type} [Vertices ν] {entries : Entries (Tree ν)} (h : read fs p = .ok entries) :
    IsNamed entries := by
  obtain ⟨bytes, -, h⟩ := bind_eq_ok.1 h
  obtain ⟨text, -, h⟩ := bind_eq_ok.1 h
  obtain ⟨d, -, h⟩ := bind_eq_ok.1 h
  unfold ofTree at h
  split at h
  · cases h
    exact nofun
  · obtain ⟨named, hnamed, h⟩ := bind_eq_ok.1 h
    cases h
    refine IsNamed.insertAll (fun _ h => nomatch h) fun e he => ?_
    obtain ⟨⟨key, d⟩, -, hkey⟩ := mem_mapM hnamed he
    obtain ⟨text, -, hkey⟩ := bind_eq_ok.1 hkey
    cases hkey
    exact ⟨text, rfl⟩
  · cases h

end ValuesFile

/-! ## All values -/

/-- An entry is refused for its number when that has too many digits. -/
theorem KeyValue.parse_number {entry : String} {fault : Decimal.IntegerFault}
    (h : parse entry = .error (.number fault)) : ∃ n, Decimal.digitLimit < n ∧ fault = .tooLong n := by
  have hcoerce : ∀ {raw : String}, coerce raw = .error fault →
      ∃ n, Decimal.digitLimit < n ∧ fault = .tooLong n := by
    intro raw hraw
    unfold coerce at hraw
    dsimp only at hraw
    split_ifs at hraw
    split at hraw
    · split_ifs at hraw with hlong
      cases hraw
      exact ⟨_, hlong, rfl⟩
    · split at hraw <;> cases hraw
  unfold parse at h
  dsimp only at h
  split_ifs at h
  · cases h
  · cases h
  · split at h
    · cases h
    · cases h
      exact hcoerce ‹_›

theorem applyEntry_named {ν : Type} {entries : Entries (Tree ν)} (h : IsNamed entries)
    (entry : String × Option Datum) : IsNamed (applyEntry entries entry) := by
  obtain ⟨key, _ | d⟩ := entry
  · exact h.erase _
  · exact h.insert _ _

section

variable {ν : Type} [Vertices ν] {fs : FileSystem} {files : List Path} {values : List String}

/-- Values that cannot be had are given by mistake, or a file has a defect, or an integer on the command line
    has too many digits. -/
theorem mergeValues_failed {failure : Failure}
    (h : mergeValues (ν := Graph.Vertex) fs files values = .error failure) :
    IsUsage failure ∨ (∃ p ∈ files, ValuesFile.Defect fs p failure) ∨
      ∃ entry ∈ values, ∃ n, Decimal.digitLimit < n ∧ KeyValue.parse entry = .error (.number (.tooLong n)) ∧
        failure = .value (Decimal.tooLongToRead n) := by
  obtain hfiles | ⟨entries, -, hvalues⟩ := bind_eq_error.1 h
  · obtain ⟨p, hp, entries, h⟩ := foldlM_error hfiles
    obtain hread | ⟨new, -, h⟩ := bind_eq_error.1 h
    · exact (ValuesFile.read_failed hread).imp id fun hdefect => .inl ⟨p, hp, hdefect⟩
    · cases h
  · obtain ⟨entry, hentry, entries, h⟩ := foldlM_error hvalues
    obtain hparse | ⟨new, -, h⟩ := bind_eq_error.1 h
    · obtain ⟨fault, hfault, rfl⟩ := mapError_eq_error.1 hparse
      cases fault with
      | noEquals => exact .inl ⟨_, _, rfl⟩
      | emptyKey => exact .inl ⟨_, _, rfl⟩
      | number fault =>
        obtain ⟨n, hlong, rfl⟩ := KeyValue.parse_number hfault
        exact .inr (.inr ⟨entry, hentry, n, hlong, hfault, rfl⟩)
    · cases h

/-- All values of a run have names. -/
theorem mergeValues_named {entries : Entries (Tree ν)} (h : mergeValues fs files values = .ok entries) :
    IsNamed entries := by
  obtain ⟨fromFiles, hfiles, hvalues⟩ := bind_eq_ok.1 h
  have hfromFiles : IsNamed fromFiles := by
    have hnil : IsNamed ([] : Entries (Tree ν)) := fun _ h => nomatch h
    refine foldlM_keeps (P := IsNamed) (fun entries p merged hentries hmerged => ?_) hnil hfiles
    obtain ⟨new, hnew, hmerged⟩ := bind_eq_ok.1 hmerged
    cases hmerged
    exact hentries.insertAll (ValuesFile.read_named hnew)
  refine foldlM_keeps (P := IsNamed) (fun entries text merged hentries hmerged => ?_) hfromFiles hvalues
  obtain ⟨entry, -, hmerged⟩ := bind_eq_ok.1 hmerged
  cases hmerged
  exact applyEntry_named hentries entry

end

/-! ## Options -/

namespace CommandLine

/-- What a request can say of an option. -/
structure IsOverride (name : String) (d : Datum) : Prop where
  sourceExtension : name = "source_extension" → ∃ s, d = .text s
  includePathMode : name = "include_path_mode" → ∃ mode : IncludePathMode, d = .text mode.word
  continueOnError : name = "continue_on_error" → d = .bool true
  cacheEnabled : name = "cache_enabled" → d = .bool false
  strictUndefined : name ≠ "strict_undefined"

theorem isOverride_of_mem {r : RenderRequest} {name : String} {d : Datum} (h : (name, d) ∈ r.overrides) :
    IsOverride name d := by
  simp only [RenderRequest.overrides, List.mem_append, Option.mem_toList, Option.map_eq_some_iff,
    Prod.mk.injEq] at h
  obtain ((⟨e, -, rfl, rfl⟩ | ⟨mode, -, rfl, rfl⟩) | h) | h := h
  · constructor <;> simp
  · constructor <;> simp
  · split_ifs at h
    · cases List.mem_singleton.1 h
      constructor <;> simp
    · cases h
  · split_ifs at h
    · cases List.mem_singleton.1 h
      constructor <;> simp
    · cases h

/-- An option is read if everything that a request can say of it can be. -/
theorem optional_isOk (r : RenderRequest) {α : Type} (name : String) (default : α)
    (read : Datum → Except Defect α) (h : ∀ d, IsOverride name d → (read d).isOk = true) :
    ∃ a, Fields.optional (r.overrides.filter fun f => !f.2.isNone) name default read = .ok a := by
  unfold Fields.optional Fields.get?
  cases hfind : (r.overrides.filter fun f => !f.2.isNone).find? fun f => f.1 == name with
  | none => exact ⟨default, rfl⟩
  | some f =>
    obtain ⟨name', d⟩ := f
    obtain rfl : name' = name := by simpa using List.find?_some hfind
    have hok := h d (isOverride_of_mem (List.mem_of_mem_filter (List.mem_of_find?_eq_some hfind)))
    cases hread : read d with
    | ok a => exact ⟨a, by simp [hread, Except.mapError]⟩
    | error e =>
      rw [hread] at hok
      cases hok

/-- What a request says of the options can always be read. -/
theorem toOptions_isOk (settings : CompileOptions) (r : RenderRequest) :
    ∃ options, Settings.toOptions settings r.overrides = .ok options := by
  obtain ⟨extension, hextension⟩ := optional_isOk r "source_extension" settings.sourceExtension Read.text?
    fun d h => by
      obtain ⟨s, rfl⟩ := h.sourceExtension rfl
      rfl
  obtain ⟨cache, hcache⟩ := optional_isOk r "cache_enabled" settings.cacheEnabled Read.bool fun d h => by
    rw [h.cacheEnabled rfl]
    rfl
  obtain ⟨strict, hstrict⟩ := optional_isOk r "strict_undefined" settings.strictUndefined Read.bool
    fun d h => absurd rfl h.strictUndefined
  obtain ⟨mode, hmode⟩ := optional_isOk r "include_path_mode" settings.includePathMode IncludePathMode.read
    fun d h => by
      obtain ⟨mode, rfl⟩ := h.includePathMode rfl
      cases mode <;> rfl
  obtain ⟨goOn, hgoOn⟩ := optional_isOk r "continue_on_error" settings.continueOnError Read.bool fun d h => by
    rw [h.continueOnError rfl]
    rfl
  refine ⟨⟨extension, cache, strict, mode, goOn⟩, ?_⟩
  unfold Settings.toOptions CompileOptions.ofFieldsOver
  rw [hextension, hcache, hstrict, hmode, hgoOn]
  rfl

end CommandLine

end TemplateTree
