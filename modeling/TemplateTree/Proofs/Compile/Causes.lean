import TemplateTree.Proofs.Compile.Continuing
import TemplateTree.Proofs.Output.Atomicity

/-!
# Why one file fails

A file is rendered in stages: its source is opened, the directories above its target are made, then a temporary
file, the source is decoded and evaluated, and the temporary file takes the place of the target. The first stage
that fails says why the file fails, and nothing but directories above the target is left behind. As with all
writes there is one exception, a target that is a link which its own path leads through.

* `makeDirs_leads`, `LeadsTo.locate_entry`: the target of a write.
* `IsTemp.settle_cases`: how a write ends, with the error.
* `fault?`, `render_failure`: what an evaluation fails with.
* `UnitEnds`: how a file ends, stage by stage.
* `renderUnit_ends`: every file ends so.
-/

namespace TemplateTree

open FileSystem Output Template

/-! ## The target of a write -/

namespace FileSystem

variable {A B fs : FileSystem} {p : Path} {d : Location} {s : Spot}

theorem makeDir_leads (hA : A.WellFormed) (hp : p.isAbsolute = true) (h : A.makeDir p = .ok B) :
    ∃ x, B.LeadsTo p x := by
  have hgrown := makeDir_grown hA h
  obtain ⟨s, name, -, hs, hname, -, rfl⟩ := makeDir_ok h
  obtain ⟨rfl, hdots, ⟨hparts, hsize, -⟩, hparent⟩ := spot_of_locate hA hs hname
  have hat : s.location = s.directory ++ [p.name] := by simp [Spot.location, hname]
  have hnew := (hparent.widens hgrown.widens).child_directory (p := p.parent) hp hdots hsize
    (by rw [← hat, node?_put _ (by simp [hat]), if_pos rfl])
  rw [Path.parent_child hparts] at hnew
  exact ⟨_, hnew⟩

theorem orPresent_leads (hp : p.isAbsolute = true) {e : SystemError} (h : A.orPresent p e = .ok B) :
    ∃ x, A.LeadsTo p x :=
  ((isDir_eq_true hp).1 (orPresent_eq_ok h)).2

/-- After the directories under a path have been made, the path leads to a directory. -/
theorem makeDirsWithin_leads (hA : A.WellFormed) (hp : p.isAbsolute = true) (depth : Nat)
    (h : A.makeDirsWithin depth p = (B, none)) : ∃ x, B.LeadsTo p x := by
  induction depth generalizing p B with
  | zero =>
    rw [makeDirsWithin] at h
    split at h
    · cases h
      exact makeDir_leads hA hp ‹_›
    · cases h
  | succ depth ih =>
    rw [makeDirsWithin] at h
    split at h
    · cases h
      exact makeDir_leads hA hp ‹_›
    · split at h
      · cases h
      · split at h
        · cases h
        · rename_i mid hrec
          have hmid : mid.WellFormed := by
            have := (makeDirsWithin_grown hA depth p.parent).wellFormed
            rwa [hrec] at this
          split at h
          · cases h
            exact makeDir_leads hmid hp ‹_›
          · split at h
            · cases h
              exact orPresent_leads hp ‹_›
            · cases h
    · cases h
    · split at h
      · cases h
        exact orPresent_leads hp ‹_›
      · cases h

theorem makeDirs_leads (hA : A.WellFormed) (hp : p.isAbsolute = true) (h : A.makeDirs p = (B, none)) :
    ∃ x, B.LeadsTo p x :=
  makeDirsWithin_leads hA hp _ h

/-- In a directory, a path leads to its last name, or to a directory. -/
theorem LeadsTo.locate_entry (hp : p.isAbsolute = true) (hfs : fs.WellFormed) (h : fs.LeadsTo p.parent d)
    (hsize : p.name.utf8ByteSize ≤ nameLimit) :
    ∃ s, fs.locate false p = .ok s ∧ (fs.node? s.location = some .directory ∨ s = ⟨d, some p.name⟩) := by
  by_cases hparts : p.parts = []
  · refine ⟨⟨[], none⟩, by rw [locate_of_isAbsolute hp, hparts]; rfl, .inl ?_⟩
    simp [Spot.location]
  · by_cases hdots : p.name = ".."
    · obtain ⟨hdir, s, hs, rfl⟩ := h
      rw [locate_of_isAbsolute (p := p.parent) hp] at hs
      obtain ⟨left, hleft⟩ := walk_append [".."] (by simp) hdir _ _ _ hs
      have hsplit : p.parts = p.parent.parts ++ [".."] := by
        rw [← hdots]
        exact (congrArg Path.parts (Path.parent_child hparts)).symm
      refine ⟨⟨s.location.dropLast, none⟩, ?_, .inl ?_⟩
      · rw [locate_of_isAbsolute hp, hsplit, hleft]
        cases left <;> simp [walk, walkNames]
      · simpa [Spot.location] using hfs.dropLast_directory hdir
    · have hs : fs.locate false (p.parent.child p.name) = .ok ⟨d, some p.name⟩ :=
        (h.child (p := p.parent) hp hdots).2 ⟨hsize, rfl⟩
      rw [Path.parent_child hparts] at hs
      exact ⟨_, hs, .inr rfl⟩

end FileSystem

/-! ## The end of a write -/

namespace Output

variable {A B M S : FileSystem} {p temp : Path} {D : Location} {name text : String} {s : Spot}

/-- A temporary file has a longer name than its target. -/
theorem size_of_makeTemp {directory : Path} (hp : directory.isAbsolute = true) (hM : M.WellFormed)
    (h : makeTemp M directory (tempStem p) = .ok (S, temp)) : p.name.utf8ByteSize ≤ nameLimit := by
  have habs : M.absolute directory = .ok directory := if_pos hp
  simp only [makeTemp, habs, bind_eq_ok, Except.ok.injEq, exists_eq_left'] at h
  obtain ⟨spot, hfind, -⟩ := h
  have hlocate := (find_eq_ok.1 hfind).2
  have hdir : (lexical directory).isAbsolute = true := hp
  obtain ⟨d, hd⟩ := leadsTo_of_child hM hdir hlocate
  have hshown : tempStem p ++ mask ≠ ".." := append_ne_dots _ (by decide)
  have hsize := ((hd.child (p := lexical directory) hdir hshown).1 hlocate).1
  simp only [tempStem, String.utf8ByteSize_append] at hsize
  omega

/-- The error of a move over a directory. -/
def directoryError (temp p : Path) (errno : Errno) : SystemError :=
  maskTemp temp (tempStem p) (bothPaths temp p errno)

/-- How a write ends when its body has finished, with the error. -/
inductive Finished (M : FileSystem) (temp p : Path) (mode : Nat) (text : String) (B : FileSystem) :
    Option Failure → Prop
  | written {s : Spot} {stamp : Nat} (target : M.locate false p = .ok s)
      (plain : M.node? s.location ≠ some .directory) (found : B.locate true p = .ok s)
      (node : ∀ y, B.node? y = if y = s.location then some (.file text.toUTF8 mode stamp) else M.node? y) :
      Finished M temp p mode text B none
  | directory {s : Spot} {errno : Errno} (target : M.locate false p = .ok s)
      (directory : M.node? s.location = some .directory) (cause : errno = .isDirectory ∨ errno = .busy)
      (node : ∀ y, B.node? y = M.node? y) :
      Finished M temp p mode text B (some (.system (directoryError temp p errno)))
  | cutOff {s : Spot} {t : String} {stamp : Nat} {errno : Errno} (target : M.locate false p = .ok s)
      (link : M.node? s.location = some (.link t)) (lost : B.locate true p = .error errno)
      (node : ∀ y, B.node? y = if y = s.location then some (.file text.toUTF8 0o600 stamp) else M.node? y) :
      Finished M temp p mode text B (some (.system (.about errno p.text)))

namespace IsTemp

variable (h : IsTemp M S p temp D name)

include h

/-- The temporary file with its text is one more file. -/
theorem widens_filled (text : String) : Widens M (filled S D name text) :=
  .to_file (h.node?_filled_eq text) (by rw [h.eq]; rfl) (by rw [h.eq]; rfl) (by simp [h.free]) (by simp [h.free])

/-- The temporary file takes the place of its target unless that is a directory. -/
theorem commit_cases (hM : M.WellFormed) (hp : p.isAbsolute = true) (hnul : hasNul p = false)
    (hd : M.LeadsTo p.parent d) (hsize : p.name.utf8ByteSize ≤ nameLimit) (text : String) :
    ∃ s, M.locate false p = .ok s ∧
      ((s.name.isNone = false ∧ M.node? s.location ≠ some .directory ∧
          commit S temp p text = .ok (placed S D name text s.location)) ∨
        (M.node? s.location = some .directory ∧ ∃ errno, (errno = .isDirectory ∨ errno = .busy) ∧
          commit S temp p text = .error (bothPaths temp p errno))) := by
  obtain ⟨s, hs, hentry⟩ := hd.locate_entry hp hM hsize
  have hs' := locate_widens (h.widens_filled text) (by simp) hs
  have hat := (h.node?_filled_eq text (D ++ [name])).trans (if_pos rfl)
  have hreplace := replace_of_locate h.noNul hnul (h.staged.locate_filled text) hs' hat
  rw [← h.staged.commit_eq h.noNul] at hreplace
  refine ⟨s, hs, ?_⟩
  cases hname : s.name with
  | none =>
    have hdir : M.node? s.location = some .directory := by
      refine hentry.resolve_right ?_
      rintro rfl
      cases hname
    refine .inr ⟨hdir, .busy, .inr rfl, ?_⟩
    simpa [hname] using hreplace
  | some n =>
    have hne := h.location_ne hM hs (by simp [hname])
    have hsame : (filled S D name text).node? s.location = M.node? s.location := by
      rw [h.node?_filled_eq, if_neg hne]
    rw [hname, Option.isNone_some, if_neg (by simp)] at hreplace
    by_cases hdir : M.node? s.location = some .directory
    · have hdir' : (filled S D name text).isDirectoryAt s.location = true :=
        isDirectoryAt_eq_true.2 (hsame.trans hdir)
      rw [if_pos hdir'] at hreplace
      exact .inr ⟨hdir, .isDirectory, .inl rfl, hreplace⟩
    · have hdir' : ¬(filled S D name text).isDirectoryAt s.location = true := by
        rw [isDirectoryAt_eq_true, hsame]
        exact hdir
      rw [if_neg hdir'] at hreplace
      exact .inl ⟨by simp, hdir, hreplace⟩

/-- How a write ends when its body has finished. -/
theorem settle_cases (hM : M.WellFormed) (hp : p.isAbsolute = true) (hnul : hasNul p = false)
    (hd : M.LeadsTo p.parent d) (hsize : p.name.utf8ByteSize ≤ nameLimit) (mode : Nat) (text : String) :
    Finished M temp p mode text (settle S temp p mode text none).1 (settle S temp p mode text none).2 := by
  obtain ⟨s, hs, ⟨hname, hplain, hcommit⟩ | ⟨hdir, errno, herrno, hcommit⟩⟩ :=
    h.commit_cases hM hp hnul hd hsize text
  · have hx := Fits.ne_nil hname
    have hnode := h.node?_placed_eq hx text
    obtain ⟨-, htrue⟩ | ⟨⟨e, herror⟩, t, ht⟩ := h.locate_placed hs hname hplain text
    · have hended := (h.settle_ended hM mode text none).1
      have hat := (hnode s.location).trans (if_pos rfl)
      have hnone : (settle S temp p mode text none).2 = none := by
        simp only [settle, hcommit, setMode, find_eq_ok.2 ⟨hnul, htrue⟩, bind, Except.bind, hat]
        rfl
      rw [hnone] at hended ⊢
      cases hended with
      | written _ target plain _ found node => exact .written target plain found node
    · have hmode : (placed S D name text s.location).setMode p mode = .error (.about e p.text) := by
        simp only [setMode, find, hnul, herror, Except.mapError, bind, Except.bind, Bool.false_eq_true, if_false]
      simp only [settle, hcommit, hmode]
      rw [h.discardTemp_placed hx (h.location_ne hM hs hname) text]
      exact .cutOff hs ht herror hnode
  · simp only [settle, hcommit]
    exact .directory hs hdir herrno h.node?_discardTemp

end IsTemp

end Output

/-! ## Evaluations -/

namespace Template

variable {sink : Sink} {files : FileSystem} {context : Entries Value} {source name : String} {s : Session}

/-- The fault that an evaluation ends with, and the places in templates where that was, the innermost one first. A
source that cannot be parsed is a fault, and so is output that is no text. -/
def fault? (sink : Sink) (files : FileSystem) (context : Entries Value) (source name : String) (s : Session) :
    Option (Fault × List Frame) :=
  match programOf s.library.config source with
  | .error f => some (f, [])
  | .ok program =>
    let (result, m, _) := (renderProgram name program context s.machine.begun).play { s.library with files }
    match firstNoText 0 m.output with
    | some (_, v) => some (.type (sink.refusal v), [])
    | none =>
      match result with
      | .error f => some (f, m.frames)
      | .ok _ => none

/-- An engine fails over such a fault, and over nothing else. -/
theorem render_failure (hs : s.isConfigured = true) :
    (render sink files ⟨context, .ok source, name⟩ s).failure
      = (fault? sink files context source name s).map fun (f, frames) => failureOf name frames f := by
  unfold render fault?
  rw [if_neg (by simp [hs])]
  dsimp only
  cases programOf s.library.config source with
  | error f => rfl
  | ok program =>
    dsimp only
    rcases (renderProgram name program context _).play _ with ⟨result, m, library⟩
    cases result with
    | ok _ | error _ =>
      simp only [finish]
      cases firstNoText 0 m.output <;> rfl

end Template

theorem decodeFile_eq_error {bytes : ByteArray} :
    (∃ fault, Text.decodeFile bytes = .error fault) ↔ ¬bytes.IsValidUTF8 := by
  unfold Text.decodeFile Text.decode String.fromUTF8?
  split_ifs with hvalid
  · simp [hvalid, Except.map]
  · simp [hvalid, Except.map]

/-! ## One file -/

/-- A file has got as far as its evaluation: its source has been read, the directories above its target have been
made, and there is a temporary file. -/
structure Begun (A : FileSystem) (source target : Path) (bytes : ByteArray) (M S : FileSystem) (temp : Path) :
    Prop where
  read : A.read source = .ok bytes
  dirs : A.makeDirs target.parent = (M, none)
  temp : makeTemp M target.parent (tempStem target) = .ok (S, temp)

/-- How a file ends, stage by stage, with the file system that is left and the failure. -/
inductive UnitEnds (sink : Sink) (context : Entries Value) (source : Path) (name : String) (target : Path)
    (A : FileSystem) (s : Session) : FileSystem → Option Failure → Prop
  | unread {e : SystemError} (read : A.read source = .error e) :
      UnitEnds sink context source name target A s A (some (.system e))
  | noParent {bytes : ByteArray} {M : FileSystem} {e : SystemError} (read : A.read source = .ok bytes)
      (dirs : A.makeDirs target.parent = (M, some e)) :
      UnitEnds sink context source name target A s M (some (.io "create directory" target.parent e.message))
  | noTemp {bytes : ByteArray} {M : FileSystem} {e : SystemError} (read : A.read source = .ok bytes)
      (dirs : A.makeDirs target.parent = (M, none))
      (temp : makeTemp M target.parent (tempStem target) = .error e) :
      UnitEnds sink context source name target A s M (some (.system e))
  | undecodable {bytes : ByteArray} {M S B : FileSystem} {temp : Path} {fault : Text.Utf8Fault}
      (begun : Begun A source target bytes M S temp) (invalid : ¬bytes.IsValidUTF8)
      (decode : Text.decodeFile bytes = .error fault) (node : ∀ y, B.node? y = M.node? y) :
      UnitEnds sink context source name target A s B (some (.io "decode" source fault.message))
  | raised {bytes : ByteArray} {M S B : FileSystem} {temp : Path} {text words : String} {errno : Errno}
      {path path' : Option String} {frames : List Frame} (begun : Begun A source target bytes M S temp)
      (decode : Text.decodeFile bytes = .ok text)
      (fault : fault? sink S context text name s = some (.system errno words path path', frames))
      (node : ∀ y, B.node? y = M.node? y) :
      UnitEnds sink context source name target A s B (some (.system (.failed errno words path path')))
  | faulty {bytes : ByteArray} {M S B : FileSystem} {temp : Path} {text detail : String} {line : Option Int}
      {f : Fault} {frames : List Frame} (begun : Begun A source target bytes M S temp)
      (decode : Text.decodeFile bytes = .ok text) (fault : fault? sink S context text name s = some (f, frames))
      (own : ∀ errno words path path', f ≠ .system errno words path path')
      (told : failureOf name frames f = .template name detail line) (node : ∀ y, B.node? y = M.node? y) :
      UnitEnds sink context source name target A s B (some (.template name detail line))
  | finished {bytes : ByteArray} {M S B : FileSystem} {temp : Path} {text : String} {outcome : Option Failure}
      (begun : Begun A source target bytes M S temp) (decode : Text.decodeFile bytes = .ok text)
      (fault : fault? sink S context text name s = none)
      (finished : Finished M temp target defaultMode (render sink S ⟨context, .ok text, name⟩ s).text B outcome) :
      UnitEnds sink context source name target A s B outcome

section

variable {sink : Sink} {context : Entries Value} {source target : Path} {name : String} {A : FileSystem}
  {s : Session}

theorem raw_eq_system {e : SystemError} (he : e ≠ .nulByte) : Failure.raw e = .system e := by
  cases e with
  | failed => rfl
  | nulByte => exact absurd rfl he

/-- Once a file has got as far as its evaluation, what is left is to end the write. -/
theorem Begun.renderUnit_eq {bytes : ByteArray} {M S : FileSystem} {temp : Path}
    (h : Begun A source target bytes M S temp) :
    let written := render sink S ⟨context, Text.decodeFile bytes, name⟩ s
    let settled := settle S temp target defaultMode written.text written.failure
    renderUnit (engine sink) context source name target A s
      = (settled.1, written.state, settled.2.map (namingSource source)) := by
  have hstage : stage A target = (S, .ok temp) := by
    simp only [stage, ensureParent, h.dirs, Option.map_none, h.temp]
  simp only [renderUnit, h.read, writeAtomically, hstage]
  rfl

variable (hA : A.WellFormed) (hp : target.isAbsolute = true) (htarget : hasNul target = false)
  (hs : s.isConfigured = true)

include hA hp htarget hs

/-- How a file ends that has got as far as its evaluation. -/
theorem Begun.unitEnds {bytes : ByteArray} {M S : FileSystem} {temp : Path}
    (h : Begun A source target bytes M S temp) :
    let unit := renderUnit (engine sink) context source name target A s
    UnitEnds sink context source name target A s unit.1 unit.2.2 := by
  have hp' : target.parent.isAbsolute = true := hp
  have hgrown := makeDirs_grown hA target.parent
  rw [h.dirs] at hgrown
  obtain ⟨D, tempName, hstaged, heq, hfree, k, hk, rfl⟩ := makeTemp_staged h.temp hp'
  have htemp : IsTemp M S target temp D _ :=
    ⟨hstaged, heq, hfree, (makeTemp_hasNul M (tempStem target) hp').2 S temp h.temp, temp_ne_name hk⟩
  dsimp only
  rw [h.renderUnit_eq]
  dsimp only
  cases hdecode : Text.decodeFile bytes with
  | error fault =>
    have hrender : render sink S ⟨context, .error fault, name⟩ s = ⟨s, "", some (.undecodable fault)⟩ := by
      simp only [render, hs, Bool.not_true, Bool.false_eq_true, if_false]
    rw [hrender]
    exact .undecodable h (decodeFile_eq_error.1 ⟨fault, hdecode⟩) hdecode htemp.node?_discardTemp
  | ok text =>
    have hfailure : (render sink S ⟨context, .ok text, name⟩ s).failure
        = (fault? sink S context text name s).map fun (f, frames) => failureOf name frames f := render_failure hs
    cases hfault : fault? sink S context text name s with
    | none =>
      rw [hfault] at hfailure
      rw [hfailure]
      obtain ⟨d, hd⟩ := makeDirs_leads hA hp' h.dirs
      have hfinished := htemp.settle_cases hgrown.wellFormed hp htarget hd
        (size_of_makeTemp hp' hgrown.wellFormed h.temp) defaultMode
        (render sink S ⟨context, .ok text, name⟩ s).text
      refine .finished h hdecode hfault ?_
      rw [Option.map_none]
      cases hoff : (settle S temp target defaultMode (render sink S ⟨context, .ok text, name⟩ s).text none).2 with
      | none =>
        rw [hoff] at hfinished
        exact hfinished
      | some failure =>
        rw [hoff] at hfinished
        cases hfinished with
        | directory target directory cause node => exact .directory target directory cause node
        | cutOff target link lost node => exact .cutOff target link lost node
    | some fault =>
      obtain ⟨f, frames⟩ := fault
      rw [hfault, Option.map_some] at hfailure
      rw [hfailure]
      cases f with
      | system errno words path path' => exact .raised h hdecode hfault htemp.node?_discardTemp
      | inText | raised => exact .faulty h hdecode hfault (by simp) rfl htemp.node?_discardTemp

/-- Every file ends so. -/
theorem unitEnds_renderUnit (hsource : hasNul source = false) :
    let unit := renderUnit (engine sink) context source name target A s
    UnitEnds sink context source name target A s unit.1 unit.2.2 := by
  have hparent : hasNul target.parent = false := by
    rw [Bool.eq_false_iff] at htarget ⊢
    exact fun h => htarget (hasNul_of_parent h)
  cases hread : A.read source with
  | error e =>
    have he : e ≠ .nulByte := by
      rintro rfl
      rw [hasNul_of_read hread] at hsource
      cases hsource
    simp only [renderUnit, hread, raw_eq_system he]
    exact .unread hread
  | ok bytes =>
    rcases hdirs : A.makeDirs target.parent with ⟨M, _ | e⟩
    · cases hmake : makeTemp M target.parent (tempStem target) with
      | error e =>
        have he : e ≠ .nulByte := by
          rintro rfl
          obtain h | h := (makeTemp_hasNul M (tempStem target) (show target.parent.isAbsolute = true from hp)).1 hmake
          · rw [hparent] at h
            cases h
          · rw [hasNul_of_stem h] at htarget
            cases htarget
        simp only [renderUnit, hread, writeAtomically, stage, ensureParent, hdirs, Option.map_none, hmake,
          Option.map_some, raw_eq_system he, namingSource]
        exact .noTemp hread hdirs hmake
      | ok made => exact Begun.unitEnds hA hp htarget hs ⟨hread, hdirs, hmake⟩
    · have hio : Failure.ofSystem "create directory" target.parent e
          = .io "create directory" target.parent e.message := by
        cases e with
        | failed => rfl
        | nulByte =>
          rw [hasNul_of_makeDirs hdirs] at hparent
          cases hparent
      simp only [renderUnit, hread, writeAtomically, stage, ensureParent, hdirs, Option.map_some, hio, namingSource]
      exact .noParent hread hdirs

end

/-- Whether `B` is `A` with some of the missing directories on a path. -/
def GainsDirectories (p : Path) (A B : FileSystem) : Prop :=
  ∀ y, B.node? y = A.node? y ∨
    (A.node? y = none ∧ B.node? y = some .directory ∧ ∃ k, (A.makeDirs p).1.Names (p.upTo k) y)

section

variable {sink : Sink} {context : Entries Value} {source target : Path} {name : String} {A B : FileSystem}
  {s : Session} {outcome : Option Failure}

theorem gainsDirectories_of_made {p : Path} {M : FileSystem} (hA : A.WellFormed) (hM : (A.makeDirs p).1 = M)
    (hnode : ∀ y, B.node? y = M.node? y) : GainsDirectories p A B := by
  subst hM
  intro y
  rw [hnode]
  exact (makeDirs_grown hA p).node y

namespace UnitEnds

/-- What a failing file leaves behind. -/
theorem left (hA : A.WellFormed) (h : UnitEnds sink context source name target A s B outcome)
    (hfailed : outcome ≠ none) :
    GainsDirectories target.parent A B ∨ ∃ bytes M S temp spot t, Begun A source target bytes M S temp ∧
      M.locate false target = .ok spot ∧ M.node? spot.location = some (.link t) ∧
      ∃ e, B.locate true target = .error e := by
  cases h with
  | unread => exact .inl fun y => .inl rfl
  | noParent _ dirs => exact .inl (gainsDirectories_of_made hA (by rw [dirs]) fun _ => rfl)
  | noTemp _ dirs => exact .inl (gainsDirectories_of_made hA (by rw [dirs]) fun _ => rfl)
  | undecodable begun _ _ node => exact .inl (gainsDirectories_of_made hA (by rw [begun.dirs]) node)
  | raised begun _ _ node => exact .inl (gainsDirectories_of_made hA (by rw [begun.dirs]) node)
  | faulty begun _ _ _ _ node => exact .inl (gainsDirectories_of_made hA (by rw [begun.dirs]) node)
  | finished begun _ _ finished =>
    cases finished with
    | written => exact absurd rfl hfailed
    | directory _ _ _ node => exact .inl (gainsDirectories_of_made hA (by rw [begun.dirs]) node)
    | cutOff at_ link lost _ => exact .inr ⟨_, _, _, _, _, _, begun, at_, link, _, lost⟩

/-- A source is said to be undecodable if and only if it is, and the file has got as far as that. -/
theorem undecodable_iff (h : UnitEnds sink context source name target A s B outcome) :
    (∃ p reason, outcome = some (.io "decode" p reason)) ↔
      ∃ bytes M S temp, Begun A source target bytes M S temp ∧ ¬bytes.IsValidUTF8 := by
  have hread : ∀ {bytes bytes' : ByteArray}, A.read source = .ok bytes → A.read source = .ok bytes' →
      bytes = bytes' := fun h h' => by rw [h] at h'; exact Except.ok.inj h'
  have hvalid : ∀ {bytes bytes' : ByteArray} {text : String}, A.read source = .ok bytes →
      A.read source = .ok bytes' → Text.decodeFile bytes = .ok text → ¬bytes'.IsValidUTF8 → False := by
    intro bytes bytes' text h h' hdecode hinvalid
    obtain ⟨fault, hfault⟩ := decodeFile_eq_error.2 (hread h h' ▸ hinvalid)
    rw [hdecode] at hfault
    cases hfault
  constructor
  · rintro ⟨p, reason, hdecode⟩
    cases h with
    | unread | noTemp | raised | faulty => cases hdecode
    | noParent => simp at hdecode
    | undecodable begun invalid => exact ⟨_, _, _, _, begun, invalid⟩
    | finished _ _ _ finished => cases finished <;> cases hdecode
  · rintro ⟨bytes, M, S, temp, begun, invalid⟩
    cases h with
    | unread read => cases read.symm.trans begun.read
    | noParent _ dirs => cases dirs.symm.trans begun.dirs
    | noTemp _ dirs temp =>
      obtain rfl := congrArg Prod.fst (dirs.symm.trans begun.dirs)
      cases temp.symm.trans begun.temp
    | undecodable => exact ⟨_, _, rfl⟩
    | raised begun' decode => exact (hvalid begun'.read begun.read decode invalid).elim
    | faulty begun' decode => exact (hvalid begun'.read begun.read decode invalid).elim
    | finished begun' decode => exact (hvalid begun'.read begun.read decode invalid).elim

end UnitEnds

end

/-! ### A source that is no text, and one that is no template -/

/-- An empty output directory beside some sources. -/
def beside : FileSystem :=
  mixed.put ["out"] .directory

theorem beside_isTree : IsTree ⟨.single, ["out"]⟩ ["out"] beside := by
  have hfs : beside.WellFormed := wellFormed_of_nodes (by decide +kernel) (by decide +kernel) (by decide +kernel)
  have hdirs : ∀ y, y <+: ["out"] → beside.node? y = some .directory := by
    intro y hy
    obtain rfl | rfl := List.prefix_cons_iff.1 hy |>.imp id fun ⟨t, ht, hnil⟩ => by
      rw [List.prefix_nil.1 hnil] at ht
      exact ht
    · simp
    · exact isDirectoryAt_eq_true.1 (by decide)
  refine .of_bare hfs (leadsTo_of_directories rfl (by decide) (by decide) hdirs)
    (names_of_directories rfl (by decide) (by decide) (by decide) fun y hy _ => hdirs y hy) fun rest hrest => ?_
  by_contra hsome
  obtain ⟨node, hnode⟩ := Option.ne_none_iff_exists'.1 hsome
  have hmem := mem_nodes_of_node? (by simp) hnode
  simp [beside, mixed, FileSystem.put, FileSystem.empty, hrest] at hmem

/-- The engine when it is ready. -/
def readySession : Session :=
  ((engine .file).configure { searchPath := "" } .fresh).1

end TemplateTree
