import TemplateTree.Proofs.CommandLine.Values
import TemplateTree.Proofs.Values.Binding
import TemplateTree.Proofs.Values.Typing

/-!
# Merged values

The values of a run are those of its files, one file after the other, and on top of them the entries of the command
line. Of all that is said of a key only the last counts: an entry more than any file, a later item more than an
earlier one. An empty entry takes its key away, whereas a null in a file is a value like others.

* `KeyValue.Binds`, `KeyValue.parse_eq_ok`: what an entry says.
* `ValuesFile.Gives`, `ValuesFile.read_gives`: what a file says.
* `FailsFirst`: the failure of the first item that cannot be read.
* `Decides`: what files and entries say of a key together.
* `mergeValues_decides`: merging fails so, and else binds keys so.
-/

namespace TemplateTree

/-! ## Attempts in order -/

section

variable {ε α β γ : Type} {f : β → α → Except ε β} {xs : List α} {b c : β}

/-- What a fold answers is settled by the last of the items that are about it, and by the start if there is
    none. -/
theorem foldlM_last {about : α → Prop} (answer : β → γ) (settles : α → γ → Prop)
    (habout : ∀ b x c, f b x = .ok c → about x → settles x (answer c))
    (hother : ∀ b x c, f b x = .ok c → ¬ about x → answer c = answer b) (hc : xs.foldlM f b = .ok c) :
    (∃ x, IsLast about xs x ∧ settles x (answer c)) ∨ (∀ x ∈ xs, ¬ about x) ∧ answer c = answer b := by
  induction xs generalizing b with
  | nil =>
    cases hc
    exact .inr ⟨nofun, rfl⟩
  | cons x xs ih =>
    rw [List.foldlM_cons] at hc
    obtain ⟨d, hd, hc⟩ := bind_eq_ok.1 hc
    rcases ih hc with ⟨y, hy, hsettles⟩ | ⟨hnone, hsame⟩
    · exact .inl ⟨y, isLast_cons.2 (.inl hy), hsettles⟩
    · by_cases hx : about x
      · refine .inl ⟨x, isLast_cons.2 (.inr ⟨rfl, hx, hnone⟩), ?_⟩
        rw [hsame]
        exact habout b x d hd hx
      · refine .inr ⟨List.forall_mem_cons.2 ⟨hx, hnone⟩, ?_⟩
        rw [hsame, hother b x d hd hx]

theorem forall₂_of_mapM {g : α → Except ε γ} {ys : List γ} (hys : xs.mapM g = .ok ys) :
    List.Forall₂ (fun x y => g x = .ok y) xs ys := by
  induction xs generalizing ys with
  | nil =>
    cases hys
    exact .nil
  | cons x xs ih =>
    rw [List.mapM_cons] at hys
    obtain ⟨y, hy, hys⟩ := bind_eq_ok.1 hys
    obtain ⟨rest, hrest, hys⟩ := bind_eq_ok.1 hys
    cases hys
    exact .cons hy (ih hrest)

end

/-! ## Entries of the command line -/

namespace KeyValue

open Text

variable {entry key value : String}

/-- An entry has a key and a text for its value. The key ends at the first equals sign, and blanks around it do not
    count. -/
structure Binds (entry key value : String) : Prop where
  ne_empty : key ≠ ""
  cut : ∃ written, '=' ∉ written ∧ trim written = key.toList ∧ entry.toList = written ++ '=' :: value.toList

theorem Binds.unique {key' value' : String} (h : Binds entry key value) (h' : Binds entry key' value') :
    key = key' ∧ value = value' := by
  obtain ⟨-, written, hwritten, hkey, hentry⟩ := h
  obtain ⟨-, written', hwritten', hkey', hentry'⟩ := h'
  obtain ⟨htake, hdrop⟩ := span_cut value.toList hwritten
  obtain ⟨htake', hdrop'⟩ := span_cut value'.toList hwritten'
  rw [← hentry] at htake hdrop
  rw [← hentry'] at htake' hdrop'
  constructor
  · apply String.toList_injective
    rw [← hkey, ← hkey', htake.symm.trans htake']
  · apply String.toList_injective
    exact (List.cons.inj (hdrop.symm.trans hdrop')).2

/-- The value of an entry: none if its text is empty, and otherwise that of its text. -/
inductive ValueOf : String → Option Datum → Prop
  | nothing : ValueOf "" none
  | something {value : String} {d : Datum} (hne : value ≠ "") (h : coerce value = .ok d) : ValueOf value (some d)

theorem parse_of_binds (h : Binds entry key value) :
    parse entry =
      if value = "" then .ok (key, none)
      else match coerce value with
        | .ok d => .ok (key, some d)
        | .error e => .error (.number e) := by
  obtain ⟨hne, written, hwritten, hkey, hentry⟩ := h
  obtain ⟨htake, hdrop⟩ := span_cut value.toList hwritten
  have hcontains : entry.toList.contains '=' = true := by simp [hentry]
  have hkeyNe : key.toList.isEmpty = false := by
    rw [List.isEmpty_eq_false_iff]
    exact fun hnil => hne (String.toList_eq_nil_iff.1 hnil)
  unfold parse
  dsimp only
  rw [hcontains, hentry, htake, hdrop, hkey, hkeyNe]
  simp only [List.drop_succ_cons, List.drop_zero, String.ofList_toList, List.isEmpty_iff, String.toList_eq_nil_iff]
  rfl

theorem exists_binds {v : Option Datum} (h : parse entry = .ok (key, v)) : ∃ key value, Binds entry key value := by
  unfold parse at h
  dsimp only at h
  by_cases hequals : '=' ∈ entry.toList
  · obtain ⟨written, rest, hentry, hwritten⟩ := List.eq_append_cons_of_mem hequals
    refine ⟨String.ofList (trim written), String.ofList rest, ?_, written, hwritten, by simp, by simpa using hentry⟩
    intro hempty
    have hkey : trim written = [] := by simpa using congrArg String.toList hempty
    rw [hentry, (span_cut _ hwritten).1, hkey] at h
    simp at h
  · simp [hequals] at h

/-- An entry is read as what it says. -/
theorem parse_eq_ok {v : Option Datum} :
    parse entry = .ok (key, v) ↔ ∃ value, Binds entry key value ∧ ValueOf value v := by
  constructor
  · intro h
    obtain ⟨key', value, hbinds⟩ := exists_binds h
    rw [parse_of_binds hbinds] at h
    split_ifs at h with hempty
    · cases h
      exact ⟨value, hbinds, hempty ▸ .nothing⟩
    · cases hcoerce : coerce value with
      | error fault =>
        rw [hcoerce] at h
        cases h
      | ok d =>
        rw [hcoerce] at h
        cases h
        exact ⟨value, hbinds, .something hempty hcoerce⟩
  · rintro ⟨value, hbinds, hvalue⟩
    rw [parse_of_binds hbinds]
    cases hvalue with
    | nothing => rfl
    | something hne hd => rw [if_neg hne, hd]

theorem ValueOf.unique {v w : Option Datum} (hv : ValueOf value v) (hw : ValueOf value w) : v = w := by
  cases hv with
  | nothing =>
    cases hw with
    | nothing => rfl
    | something hne => exact absurd rfl hne
  | something hne hd =>
    cases hw with
    | nothing => exact absurd rfl hne
    | something _ hd' =>
      rw [hd] at hd'
      cases hd'
      rfl

end KeyValue

/-! ## Files -/

namespace ValuesFile

variable {ν : Type} {fs : FileSystem} {p : Path} {key : String} {v : Tree ν}

/-- A pair of a map and the same value under the text of its key. -/
def NamesPair (e e' : Scalar × Tree ν) : Prop :=
  ∃ name, keyText e.1 = .ok name ∧ e' = (.text name, e.2)

theorem namesPair_unique : Relator.RightUnique (NamesPair (ν := ν)) := by
  rintro e _ _ ⟨name, hname, rfl⟩ ⟨name', hname', rfl⟩
  rw [hname] at hname'
  cases hname'
  rfl

theorem namesPair_iff {e e' : Scalar × Tree ν} (h : NamesPair e e') :
    keyText e.1 = .ok key ↔ e'.1 = .text key := by
  obtain ⟨name, hname, rfl⟩ := h
  rw [hname, Except.ok.injEq, Scalar.text.injEq]

variable [Vertices ν]

/-- A file gives a key a value: of the pairs in its map whose key has that text, the last one has that value. -/
def Gives (fs : FileSystem) (p : Path) (key : String) (v : Tree ν) : Prop :=
  ∃ text pairs k, HoldsText fs p text ∧ parse p text = .ok (.map pairs) ∧
    IsLast (fun e => keyText e.1 = .ok key) pairs (k, v)

theorem HoldsText.unique {text text' : String} (h : HoldsText fs p text) (h' : HoldsText fs p text') :
    text = text' := by
  obtain ⟨bytes, hread, hdecode⟩ := h
  obtain ⟨bytes', hread', hdecode'⟩ := h'
  rw [hread] at hread'
  cases hread'
  rw [hdecode] at hdecode'
  cases hdecode'
  rfl

theorem Gives.unique {w : Tree ν} (hv : Gives fs p key v) (hw : Gives fs p key w) : v = w := by
  obtain ⟨text, pairs, k, htext, hparse, hlast⟩ := hv
  obtain ⟨text', pairs', k', htext', hparse', hlast'⟩ := hw
  rw [htext.unique htext', hparse'] at hparse
  cases hparse
  exact congrArg Prod.snd (hlast.unique hlast')

/-- A file that can be read is a map, and has under each key what it gives it. -/
theorem read_gives {doc : Entries (Tree ν)} (h : read fs p = .ok doc) :
    doc.IsMap ∧ ∀ key v, doc.get? (.text key) = some v ↔ Gives fs p key v := by
  obtain ⟨bytes, hbytes, h⟩ := bind_eq_ok.1 h
  obtain ⟨text, hdecode, h⟩ := bind_eq_ok.1 h
  obtain ⟨d, hparse, h⟩ := bind_eq_ok.1 h
  have htext : HoldsText fs p text := ⟨bytes, mapError_eq_ok.1 hbytes, mapError_eq_ok.1 hdecode⟩
  unfold ofTree at h
  split at h
  · cases h
    refine ⟨Entries.isMap_nil, fun key v => ⟨nofun, ?_⟩⟩
    rintro ⟨text', pairs, k, htext', hparse', -⟩
    rw [htext'.unique htext, hparse] at hparse'
    cases hparse'
  · rename_i pairs
    obtain ⟨named, hnamed, h⟩ := bind_eq_ok.1 h
    cases h
    have hpairs : List.Forall₂ NamesPair pairs named := by
      refine (forall₂_of_mapM hnamed).imp ?_
      intro e e' he
      obtain ⟨name, hname, he⟩ := bind_eq_ok.1 he
      cases he
      exact ⟨name, hname, rfl⟩
    have hnames : ∀ e ∈ named, ∃ name, e.1 = .text name := by
      intro e he
      obtain ⟨e', -, he'⟩ := mem_mapM hnamed he
      obtain ⟨name, -, he'⟩ := bind_eq_ok.1 he'
      cases he'
      exact ⟨name, rfl⟩
    refine ⟨Entries.isMap_nil.insertAll hnames, fun key v => ?_⟩
    rw [Entries.get?_ofPairs hnames, Entries.Answers,
      isLast_iff_of_forall₂ namesPair_unique (fun e e' => namesPair_iff) hpairs]
    constructor
    · rintro ⟨⟨k, w⟩, hlast, name, -, heq⟩
      cases heq
      exact ⟨text, pairs, k, htext, hparse, hlast⟩
    · rintro ⟨text', pairs', k, htext', hparse', hlast⟩
      rw [htext'.unique htext, hparse] at hparse'
      cases hparse'
      exact ⟨(k, v), hlast, key, hlast.holds, rfl⟩
  · cases h

end ValuesFile

/-! ## All values -/

section

variable {ν : Type} {fs : FileSystem} {files : List Path} {values : List String} {key : String}
  {entries merged : Entries (Tree ν)}

theorem addEntry_eq (entries : Entries (Tree ν)) (entry : String) :
    addEntry entries entry =
      (KeyValue.parse entry).mapError (·.failure) >>= fun binding => .ok (applyEntry entries binding) := rfl

theorem addEntry_eq_ok {entry : String} : addEntry entries entry = .ok merged ↔
    ∃ binding, KeyValue.parse entry = .ok binding ∧ merged = applyEntry entries binding := by
  rw [addEntry_eq, bind_eq_ok]
  constructor
  · rintro ⟨binding, hbinding, h⟩
    cases h
    exact ⟨binding, mapError_eq_ok.1 hbinding, rfl⟩
  · rintro ⟨binding, hbinding, rfl⟩
    exact ⟨binding, mapError_eq_ok.2 hbinding, rfl⟩

/-- What is under a key when a binding has been applied. -/
theorem get?_applyEntry (binding : String × Option Datum) :
    (applyEntry entries binding).get? (.text key) =
      if binding.1 = key then binding.2.map .ofDatum else entries.get? (.text key) := by
  obtain ⟨name, _ | v⟩ := binding
  · exact Entries.get?_erase
  · exact Entries.get?_insert

variable [Vertices ν]

variable (ν) in
/-- The failure of the first item that cannot be read, where all files come before all entries. Nothing is asked of
    the items after it. -/
inductive FailsFirst (fs : FileSystem) (files : List Path) (values : List String) : Failure → Prop
  | file {before after : List Path} {p : Path} {failure : Failure} (hfiles : files = before ++ p :: after)
      (hbefore : ∀ q ∈ before, ∃ doc : Entries (Tree ν), ValuesFile.read fs q = .ok doc)
      (hp : ValuesFile.read (ν := ν) fs p = .error failure) : FailsFirst fs files values failure
  | entry {before after : List String} {entry : String} {fault : KeyValue.Fault}
      (hfiles : ∀ p ∈ files, ∃ doc : Entries (Tree ν), ValuesFile.read fs p = .ok doc)
      (hvalues : values = before ++ entry :: after)
      (hbefore : ∀ other ∈ before, ∃ binding, KeyValue.parse other = .ok binding)
      (hentry : KeyValue.parse entry = .error fault) : FailsFirst fs files values fault.failure

/-- What files and entries say of a key together. The last entry with this key decides: it binds the key, or takes
    it away if its value is empty. Without such an entry the last file that has the key decides. -/
inductive Decides (fs : FileSystem) (files : List Path) (values : List String) (key : String) :
    Option (Tree ν) → Prop
  | entry {entry value : String} {v : Option Datum}
      (hlast : IsLast (fun e => ∃ value, KeyValue.Binds e key value) values entry)
      (hbinds : KeyValue.Binds entry key value) (hvalue : KeyValue.ValueOf value v) :
      Decides fs files values key (v.map .ofDatum)
  | file {p : Path} {v : Tree ν} (hnone : ∀ entry ∈ values, ¬ ∃ value, KeyValue.Binds entry key value)
      (hlast : IsLast (fun p => ∃ v : Tree ν, ValuesFile.Gives fs p key v) files p)
      (hgives : ValuesFile.Gives fs p key v) : Decides fs files values key (some v)
  | absent (hnone : ∀ entry ∈ values, ¬ ∃ value, KeyValue.Binds entry key value)
      (hfiles : ∀ p ∈ files, ¬ ∃ v : Tree ν, ValuesFile.Gives fs p key v) : Decides fs files values key none

theorem Decides.unique {v w : Option (Tree ν)} (hv : Decides fs files values key v)
    (hw : Decides fs files values key w) : v = w := by
  cases hv with
  | entry hlast hbinds hvalue =>
    cases hw with
    | entry hlast' hbinds' hvalue' =>
      obtain rfl := hlast.unique hlast'
      obtain ⟨-, rfl⟩ := hbinds.unique hbinds'
      rw [hvalue.unique hvalue']
    | file hnone | absent hnone => exact absurd hlast.holds (hnone _ hlast.mem)
  | file hnone hlast hgives =>
    cases hw with
    | entry hlast' => exact absurd hlast'.holds (hnone _ hlast'.mem)
    | file _ hlast' hgives' =>
      obtain rfl := hlast.unique hlast'
      rw [hgives.unique hgives']
    | absent _ hfiles => exact absurd hlast.holds (hfiles _ hlast.mem)
  | absent hnone hfiles =>
    cases hw with
    | entry hlast' => exact absurd hlast'.holds (hnone _ hlast'.mem)
    | file _ hlast' => exact absurd hlast'.holds (hfiles _ hlast'.mem)
    | absent => rfl

theorem addFile_eq (entries : Entries (Tree ν)) (p : Path) :
    addFile fs entries p = ValuesFile.read fs p >>= fun doc => .ok (entries.insertAll doc) := rfl

theorem addFile_eq_ok {p : Path} : addFile fs entries p = .ok merged ↔
    ∃ doc, ValuesFile.read fs p = .ok doc ∧ merged = entries.insertAll doc := by
  rw [addFile_eq, bind_eq_ok]
  constructor
  · rintro ⟨doc, hdoc, h⟩
    cases h
    exact ⟨doc, hdoc, rfl⟩
  · rintro ⟨doc, hdoc, rfl⟩
    exact ⟨doc, hdoc, rfl⟩

/-- The files alone: the last that has a key decides. -/
theorem files_decide (h : files.foldlM (addFile fs) entries = .ok merged) (key : String) :
    (∃ p, IsLast (fun p => ∃ v : Tree ν, ValuesFile.Gives fs p key v) files p ∧
        ∃ v, ValuesFile.Gives fs p key v ∧ merged.get? (.text key) = some v) ∨
      (∀ p ∈ files, ¬ ∃ v : Tree ν, ValuesFile.Gives fs p key v) ∧
        merged.get? (.text key) = entries.get? (.text key) := by
  refine foldlM_last (fun entries => entries.get? (.text key))
    (fun p found => ∃ v : Tree ν, ValuesFile.Gives fs p key v ∧ found = some v) ?_ ?_ h
  · rintro entries p merged hadd ⟨v, hv⟩
    obtain ⟨doc, hdoc, rfl⟩ := addFile_eq_ok.1 hadd
    obtain ⟨hmap, hgives⟩ := ValuesFile.read_gives hdoc
    refine ⟨v, hv, ?_⟩
    rw [hmap.get?_insertAll (ValuesFile.read_named hdoc), (hgives key v).2 hv, Option.some_or]
  · intro entries p merged hadd hp
    obtain ⟨doc, hdoc, rfl⟩ := addFile_eq_ok.1 hadd
    obtain ⟨hmap, hgives⟩ := ValuesFile.read_gives hdoc
    rw [hmap.get?_insertAll (ValuesFile.read_named hdoc)]
    cases hget : doc.get? (.text key) with
    | none => rw [Option.none_or]
    | some v => exact absurd ⟨v, (hgives key v).1 hget⟩ hp

omit [Vertices ν] in
/-- The entries alone: the last that has a key decides. -/
theorem values_decide (h : values.foldlM addEntry entries = .ok merged) (key : String) :
    (∃ entry, IsLast (fun e => ∃ value, KeyValue.Binds e key value) values entry ∧
        ∃ value, KeyValue.Binds entry key value ∧
          ∃ v, KeyValue.ValueOf value v ∧ merged.get? (.text key) = v.map .ofDatum) ∨
      (∀ entry ∈ values, ¬ ∃ value, KeyValue.Binds entry key value) ∧
        merged.get? (.text key) = entries.get? (.text key) := by
  refine foldlM_last (fun entries => entries.get? (.text key))
    (fun entry found => ∃ value, KeyValue.Binds entry key value ∧
      ∃ v, KeyValue.ValueOf value v ∧ found = v.map .ofDatum) ?_ ?_ h
  · rintro entries entry merged hadd ⟨value, hbinds⟩
    obtain ⟨⟨name, v⟩, hparse, rfl⟩ := addEntry_eq_ok.1 hadd
    obtain ⟨value', hbinds', hvalue⟩ := KeyValue.parse_eq_ok.1 hparse
    obtain ⟨rfl, rfl⟩ := hbinds.unique hbinds'
    refine ⟨value, hbinds, v, hvalue, ?_⟩
    rw [get?_applyEntry, if_pos rfl]
  · intro entries entry merged hadd hentry
    obtain ⟨⟨name, v⟩, hparse, rfl⟩ := addEntry_eq_ok.1 hadd
    obtain ⟨value, hbinds, -⟩ := KeyValue.parse_eq_ok.1 hparse
    have hne : name ≠ key := by
      rintro rfl
      exact hentry ⟨value, hbinds⟩
    rw [get?_applyEntry, if_neg hne]

/-- The merged values are a map, and have under each key what files and entries say of it. -/
theorem mergeValues_eq_ok (h : mergeValues fs files values = .ok merged) :
    merged.IsMap ∧ ∀ key, Decides fs files values key (merged.get? (.text key)) := by
  obtain ⟨fromFiles, hfiles, hvalues⟩ := bind_eq_ok.1 h
  constructor
  · have hfromFiles : fromFiles.IsMap := by
      refine foldlM_keeps (P := Entries.IsMap) (fun entries p merged hentries hadd => ?_) Entries.isMap_nil hfiles
      obtain ⟨doc, hdoc, rfl⟩ := addFile_eq_ok.1 hadd
      exact hentries.insertAll (ValuesFile.read_named hdoc)
    refine foldlM_keeps (P := Entries.IsMap) (fun entries entry merged hentries hadd => ?_) hfromFiles hvalues
    obtain ⟨⟨name, _ | v⟩, -, rfl⟩ := addEntry_eq_ok.1 hadd
    · exact hentries.erase _
    · exact hentries.insert _ _
  · intro key
    rcases values_decide hvalues key with ⟨entry, hlast, value, hbinds, v, hvalue, hv⟩ | ⟨hnone, hsame⟩
    · rw [hv]
      exact .entry hlast hbinds hvalue
    · rw [hsame]
      rcases files_decide hfiles key with ⟨p, hlast, v, hgives, hget⟩ | ⟨habsent, hget⟩
      · rw [hget]
        exact .file hnone hlast hgives
      · rw [hget]
        exact .absent hnone habsent

theorem mergeValues_eq_error {failure : Failure} :
    mergeValues (ν := ν) fs files values = .error failure ↔ FailsFirst ν fs files values failure := by
  rw [mergeValues, bind_eq_error, foldlM_eq_error addFile_eq]
  constructor
  · rintro (⟨before, p, after, hfiles, hbefore, hp⟩ | ⟨entries, hentries, hvalues⟩)
    · exact .file hfiles hbefore hp
    · obtain ⟨before, entry, after, hcut, hbefore, hentry⟩ :=
        (foldlM_eq_error addEntry_eq).1 hvalues
      obtain ⟨fault, hfault, rfl⟩ := mapError_eq_error.1 hentry
      have hfiles := (exists_foldlM_eq_ok addFile_eq).1 ⟨entries, hentries⟩
      refine .entry hfiles hcut (fun other hother => ?_) hfault
      simpa only [mapError_eq_ok] using hbefore other hother
  · rintro (⟨hfiles, hbefore, hp⟩ | ⟨hfiles, hvalues, hbefore, hentry⟩)
    · exact .inl ⟨_, _, _, hfiles, hbefore, hp⟩
    · obtain ⟨entries, hentries⟩ := (exists_foldlM_eq_ok addFile_eq).2 hfiles
      refine .inr ⟨entries, hentries, ?_⟩
      rw [foldlM_eq_error addEntry_eq]
      refine ⟨_, _, _, hvalues, fun other hother => ?_, mapError_eq_error.2 ⟨_, hentry, rfl⟩⟩
      simpa only [mapError_eq_ok] using hbefore other hother

theorem exists_mergeValues_eq_ok (hfiles : ∀ p ∈ files, ∃ doc : Entries (Tree ν), ValuesFile.read fs p = .ok doc)
    (hvalues : ∀ entry ∈ values, ∃ binding, KeyValue.parse entry = .ok binding) :
    ∃ merged : Entries (Tree ν), mergeValues fs files values = .ok merged := by
  obtain ⟨entries, hentries⟩ := (exists_foldlM_eq_ok addFile_eq (b := ([] : Entries (Tree ν)))).2 hfiles
  have hparsed : ∀ entry ∈ values, ∃ binding, (KeyValue.parse entry).mapError (·.failure) = .ok binding := by
    simpa only [mapError_eq_ok] using hvalues
  obtain ⟨merged, hmerged⟩ := (exists_foldlM_eq_ok addEntry_eq (b := entries)).2 hparsed
  exact ⟨merged, bind_eq_ok.2 ⟨entries, hentries, hmerged⟩⟩

end

/-- Merging fails over the first item that cannot be read, whatever comes after it. If all items can be read, the
merged values are a map from names, and the value under each key is what files and entries say of it together. -/
theorem mergeValues_decides {ν : Type} [Vertices ν] (fs : FileSystem) (files : List Path) (values : List String) :
    (∀ failure, mergeValues (ν := ν) fs files values = .error failure ↔ FailsFirst ν fs files values failure) ∧
    ((∀ p ∈ files, ∃ doc : Entries (Tree ν), ValuesFile.read fs p = .ok doc) →
      (∀ entry ∈ values, ∃ binding, KeyValue.parse entry = .ok binding) →
      ∃ merged : Entries (Tree ν), mergeValues fs files values = .ok merged ∧ IsNamed merged ∧ merged.IsMap ∧
        ∀ key v, merged.get? (.text key) = v ↔ Decides fs files values key v) := by
  refine ⟨fun failure => mergeValues_eq_error, fun hfiles hvalues => ?_⟩
  obtain ⟨merged, hmerged⟩ := exists_mergeValues_eq_ok hfiles hvalues
  obtain ⟨hmap, hdecides⟩ := mergeValues_eq_ok hmerged
  refine ⟨merged, hmerged, mergeValues_named hmerged, hmap, fun key v => ⟨?_, ?_⟩⟩
  · rintro rfl
    exact hdecides key
  · intro hv
    exact (hdecides key).unique hv

/-- A map in JSON, with a null, and a map in YAML, with a key that is a number. -/
def twoMaps : FileSystem :=
  ((FileSystem.empty []).put ["v.json"]
    (.file "\x7b\"a\": null, \"b\": 1, \"c\": \"x\"\x7d".toUTF8 FileSystem.defaultMode 0)).put
    ["w.yaml"] (.file "b: two\n3: true\n".toUTF8 FileSystem.defaultMode 0)

/-- The null stays, `b` has been overwritten twice, `c` and `3` are taken away, and `d` has come back. -/
theorem mergeValues_decides_twoMaps :
    let files : List Path := [⟨.relative, ["v.json"]⟩, ⟨.relative, ["w.yaml"]⟩]
    let values := ["c=", " b = x=y", "d=1", "d =", "d=TRUE", "3="]
    (mergeValues (ν := Graph.Vertex) twoMaps files values matches .ok [(.text "a", .scalar .none),
      (.text "b", .scalar (.text " x=y")), (.text "d", .scalar (.bool true))]) = true ∧
    ∃ merged : Entries Object, mergeValues twoMaps files values = .ok merged ∧
      ∀ key v, merged.get? (.text key) = v ↔ Decides twoMaps files values key v := by
  intro files values
  have hfiles : ∀ p ∈ files, (ValuesFile.read (ν := Graph.Vertex) twoMaps p).isOk = true := by decide +kernel
  have hvalues : ∀ entry ∈ values, (KeyValue.parse entry).isOk = true := by decide +kernel
  obtain ⟨merged, hmerged, -, -, hdecides⟩ := (mergeValues_decides twoMaps files values).2
    (fun p hp => isOk_iff.1 (hfiles p hp)) (fun entry hentry => isOk_iff.1 (hvalues entry hentry))
  refine ⟨?_, merged, hmerged, hdecides⟩
  decide +kernel

end TemplateTree
