import TemplateTree.Compile
import TemplateTree.Proofs.Output.Creating
import TemplateTree.Proofs.Output.Rebuilding

/-!
# Why writes fail

A path with a NUL character is refused before the system is asked; every other error of the file system has a
number. So when a write fails, there is a NUL character in the path of its target, or the system has failed, or
what was to be written.

* `hasNul_of_find` and its like: which operations refuse a path, and when.
* `makeTemp_hasNul`: a temporary file lies at a path that is not refused.
* `writeAtomically_failed`: why a write fails.
-/

namespace TemplateTree

open FileSystem Output

namespace Failure

/-- The failure over a path with a NUL character. -/
def overNul : Failure := .value SystemError.nulByte.message

/-- A failure over one error of the system concerns one file, unless it is over a NUL character. -/
theorem raw_cases (e : SystemError) :
    (raw e).concernsOneFile = true ∨ (e = .nulByte ∧ raw e = overNul) := by
  cases e with
  | failed => exact .inl rfl
  | nulByte => exact .inr ⟨rfl, rfl⟩

theorem ofSystem_cases (operation : String) (p : Path) (e : SystemError) :
    (ofSystem operation p e).concernsOneFile = true ∨ (e = .nulByte ∧ ofSystem operation p e = overNul) := by
  cases e with
  | failed => exact .inl rfl
  | nulByte => exact .inr ⟨rfl, rfl⟩

end Failure

namespace FileSystem

variable {fs B : FileSystem} {p source target : Path} {follow : Bool}

theorem hasNul_eq_true : hasNul p = true ↔ ∃ name ∈ p.parts, Char.ofNat 0 ∈ name.toList := by
  simp [hasNul]

theorem hasNul_of_parent (h : hasNul p.parent = true) : hasNul p = true := by
  obtain ⟨name, hname, hnul⟩ := hasNul_eq_true.1 h
  exact hasNul_eq_true.2 ⟨name, List.dropLast_subset _ hname, hnul⟩

/-! ## Single operations -/

theorem hasNul_of_find (h : fs.find follow p = .error .nulByte) : hasNul p = true := by
  unfold find at h
  split_ifs at h with hnul
  · exact hnul
  · cases hloc : fs.locate follow p <;> rw [hloc] at h <;> cases h

theorem hasNul_of_look (h : fs.look follow p = .error .nulByte) : hasNul p = true := by
  unfold look at h
  split_ifs at h
  · cases h
  · obtain hfind | ⟨s, -, h⟩ := bind_eq_error.1 h
    · exact hasNul_of_find hfind
    · split at h <;> cases h

theorem look_of_hasNul (h : hasNul p = true) : fs.look follow p = .error .nulByte := by
  have hhere : isHere p = false := by
    cases hparts : p.parts with
    | nil => simp [hasNul, hparts] at h
    | cons name rest => simp [isHere, hparts]
  simp only [look, hhere, find, h, Bool.false_eq_true, if_false, if_true, bind, Except.bind]

theorem hasNul_of_read (h : fs.read p = .error .nulByte) : hasNul p = true := by
  obtain hlook | ⟨node, -, h⟩ := bind_eq_error.1 h
  · exact hasNul_of_look hlook
  · split at h <;> cases h

theorem read_of_hasNul (h : hasNul p = true) : fs.read p = .error .nulByte := by
  simp only [read, look_of_hasNul h, bind, Except.bind]

theorem hasNul_of_makeDir (h : fs.makeDir p = .error .nulByte) : hasNul p = true := by
  obtain hfind | ⟨s, -, h⟩ := bind_eq_error.1 h
  · exact hasNul_of_find hfind
  · split at h <;> cases h

theorem hasNul_of_unlink (h : fs.unlink p = .error .nulByte) : hasNul p = true := by
  obtain hfind | ⟨s, -, h⟩ := bind_eq_error.1 h
  · exact hasNul_of_find hfind
  · split at h <;> cases h

theorem hasNul_of_removeDir (h : fs.removeDir p = .error .nulByte) : hasNul p = true := by
  obtain hfind | ⟨s, -, h⟩ := bind_eq_error.1 h
  · exact hasNul_of_find hfind
  · split at h
    · cases h
    · cases h
    · split_ifs at h
      · cases h
      · cases h
    · cases h

/-- Asking whether a directory is there never runs into a NUL character. -/
theorem orPresent_ne_nulByte {e : SystemError} (he : e ≠ .nulByte) : fs.orPresent p e ≠ .error .nulByte := by
  intro h
  obtain hdir | ⟨b, -, h⟩ := bind_eq_error.1 h
  · unfold isDir asks at hdir
    split at hdir
    · cases hdir
    · split_ifs at hdir with habsent
      cases hdir
      exact habsent rfl
  · split_ifs at h
    · cases h
    · exact he (Except.error.inj h)

theorem hasNul_of_makeDirsWithin {depth : Nat} (h : fs.makeDirsWithin depth p = (B, some .nulByte)) :
    hasNul p = true := by
  induction depth generalizing p B with
  | zero =>
    rw [makeDirsWithin] at h
    split at h
    · cases h
    · cases h
      exact hasNul_of_makeDir ‹_›
  | succ depth ih =>
    rw [makeDirsWithin] at h
    split at h
    · cases h
    · split at h
      · cases h
      · split at h
        · cases h
          exact hasNul_of_parent (ih ‹_›)
        · split at h
          · cases h
          · rename_i hmake
            split at h
            · cases h
            · rename_i e' hpresent
              cases h
              by_contra hnul
              refine orPresent_ne_nulByte ?_ hpresent
              rintro rfl
              exact hnul (hasNul_of_makeDir hmake)
    · exact hasNul_of_makeDir ‹_›
    · rename_i hne _
      split at h
      · cases h
      · rename_i e' hpresent
        cases h
        exact absurd hpresent (orPresent_ne_nulByte hne)

theorem hasNul_of_makeDirs (h : fs.makeDirs p = (B, some .nulByte)) : hasNul p = true :=
  hasNul_of_makeDirsWithin h

theorem hasNul_of_writeFile {content : ByteArray} {stamp : Option Nat}
    (h : fs.writeFile p content stamp = .error .nulByte) : hasNul p = true := by
  obtain hfind | ⟨s, -, h⟩ := bind_eq_error.1 h
  · exact hasNul_of_find hfind
  · dsimp only at h
    split at h <;> cases h

theorem hasNul_of_replace (h : fs.replace source target = .error .nulByte) :
    hasNul source = true ∨ hasNul target = true := by
  unfold replace at h
  dsimp only at h
  split_ifs at h with hnul
  · simpa using hnul
  · obtain hold | ⟨old, -, h⟩ := bind_eq_error.1 h
    · cases hloc : fs.locate false source <;> rw [hloc] at hold <;> cases hold
    · obtain hnew | ⟨new, -, h⟩ := bind_eq_error.1 h
      · cases hloc : fs.locate false target <;> rw [hloc] at hnew <;> cases hnew
      · split at h
        · cases h
        · split_ifs at h <;> cases h

theorem hasNul_of_setMode {mode : Nat} (h : fs.setMode p mode = .error .nulByte) : hasNul p = true := by
  obtain hfind | ⟨s, -, h⟩ := bind_eq_error.1 h
  · exact hasNul_of_find hfind
  · split at h <;> cases h

end FileSystem

/-! ## Input files -/

namespace InputFile

variable {f : InputFile} {root : Path}

/-- Whether there is a NUL character in the path or in the relative path of a file. -/
def hasNul (f : InputFile) : Bool :=
  FileSystem.hasNul f.path || f.segments.any fun s => s.toList.contains (Char.ofNat 0)

theorem hasNul_of_path (h : FileSystem.hasNul f.path = true) : f.hasNul = true := by
  rw [hasNul, h, Bool.true_or]

theorem hasNul_descend (root : Path) (segments : List String) :
    FileSystem.hasNul (root.descend segments)
      = (FileSystem.hasNul root || segments.any fun s => s.toList.contains (Char.ofNat 0)) := by
  simp [FileSystem.hasNul, Path.descend]

theorem hasNul_of_descend (hroot : FileSystem.hasNul root = false)
    (h : FileSystem.hasNul (root.descend f.segments) = true) : f.hasNul = true := by
  rw [hasNul_descend, hroot, Bool.false_or] at h
  rw [hasNul, h, Bool.or_true]

end InputFile

/-! ## Writes -/

namespace Output

variable {A S : FileSystem} {p temp directory : Path}

/-- A failure that concerns one file, or is over a NUL character in a path. -/
def Excused (p : Path) (failure : Failure) : Prop :=
  failure.concernsOneFile = true ∨ (failure = .overNul ∧ hasNul p = true)

theorem excused_raw {e : SystemError} (h : e = .nulByte → hasNul p = true) : Excused p (.raw e) :=
  (Failure.raw_cases e).imp id fun hnul => ⟨hnul.2, h hnul.1⟩

theorem excused_ofSystem {operation : String} {q : Path} {e : SystemError}
    (h : e = .nulByte → hasNul p = true) : Excused p (.ofSystem operation q e) :=
  (Failure.ofSystem_cases operation q e).imp id fun hnul => ⟨hnul.2, h hnul.1⟩

/-- What a path without its double dots has, the path has. -/
theorem mem_lexical {name : String} (h : name ∈ (lexical p).parts) : name ∈ p.parts := by
  have hfold : ∀ (parts acc : List String),
      name ∈ parts.foldl (fun acc part => if part == ".." then acc.dropLast else acc ++ [part]) acc →
        name ∈ acc ∨ name ∈ parts := by
    intro parts
    induction parts with
    | nil => exact fun acc h => .inl h
    | cons part parts ih =>
      intro acc h
      obtain h | h := ih _ h
      · dsimp only at h
        split_ifs at h
        · exact .inl (List.dropLast_subset _ h)
        · exact (List.mem_append.1 h).imp id fun h => List.mem_cons.2 (.inl (List.mem_singleton.1 h))
      · exact .inr (List.mem_cons_of_mem _ h)
  simpa using hfold p.parts [] h

theorem hasNul_of_stem (h : Char.ofNat 0 ∈ (tempStem p).toList) : hasNul p = true := by
  have hname : Char.ofNat 0 ∈ p.name.toList := by
    simpa [tempStem] using h
  cases hparts : p.parts.getLast? with
  | none => simp [Path.name, hparts] at hname
  | some name =>
    rw [Path.name, hparts, Option.getD_some] at hname
    exact hasNul_eq_true.2 ⟨name, List.mem_of_getLast? hparts, hname⟩

/-- A temporary file is made unless there is a NUL character in its directory or in the beginning of its
    name, and its own path has none. -/
theorem makeTemp_hasNul (A : FileSystem) (stem : String) (hp : directory.isAbsolute = true) :
    (makeTemp A directory stem = .error .nulByte →
        hasNul directory = true ∨ Char.ofNat 0 ∈ stem.toList) ∧
      ∀ S temp, makeTemp A directory stem = .ok (S, temp) → hasNul temp = false := by
  have habs : A.absolute directory = .ok directory := if_pos hp
  have hmask : Char.ofNat 0 ∉ mask.toList := by decide
  constructor
  · intro h
    simp only [makeTemp, habs, bind_eq_error, reduceCtorEq, Except.ok.injEq, exists_eq_left', false_or] at h
    obtain hfind | ⟨s, -, h⟩ := h
    · obtain ⟨name, hname, hnul⟩ := hasNul_eq_true.1 (hasNul_of_find hfind)
      obtain hname | rfl := List.mem_append.1 hname |>.imp id List.mem_singleton.1
      · exact .inl (hasNul_eq_true.2 ⟨name, mem_lexical hname, hnul⟩)
      · rw [String.toList_append, List.mem_append] at hnul
        exact .inr (hnul.resolve_right hmask)
    · split at h <;> cases h
  · intro S temp h
    simp only [makeTemp, habs, bind_eq_ok, Except.ok.injEq, exists_eq_left'] at h
    obtain ⟨s, hfind, h⟩ := h
    have hshown := (find_eq_ok.1 hfind).1
    split at h
    · cases h
    · rename_i k hk
      cases h
      have hlt : k < nameTries := List.mem_range.1 (List.mem_of_find?_eq_some hk)
      rw [Bool.eq_false_iff] at hshown ⊢
      intro htemp
      obtain ⟨name, hname, hnul⟩ := hasNul_eq_true.1 htemp
      refine hshown (hasNul_eq_true.2 ?_)
      obtain hname | rfl := List.mem_append.1 hname |>.imp id List.mem_singleton.1
      · exact ⟨name, List.mem_append_left _ hname, hnul⟩
      · rw [String.toList_append, List.mem_append] at hnul
        obtain hnul | hnul := hnul
        · exact ⟨stem ++ mask, List.mem_append_right _ (List.mem_singleton.2 rfl), by simp [hnul]⟩
        · obtain hstar | hdigit := (toList_uniquePart hlt).2 _ hnul
          · exact absurd hstar (by decide)
          · exact absurd hdigit (by decide)

theorem stage_excused (hp : p.isAbsolute = true) :
    (∀ failure, (stage A p).2 = .error failure → Excused p failure) ∧
      ∀ temp, (stage A p).2 = .ok temp → hasNul temp = false := by
  unfold stage ensureParent
  cases hdirs : A.makeDirs p.parent with
  | mk M error =>
    cases error with
    | some e =>
      refine ⟨fun failure h => ?_, nofun⟩
      cases h
      exact excused_ofSystem fun he => hasNul_of_parent (hasNul_of_makeDirs (he ▸ hdirs))
    | none =>
      dsimp only [Option.map_none]
      obtain ⟨herror, hok⟩ := makeTemp_hasNul M (tempStem p) (show p.parent.isAbsolute = true from hp)
      cases htemp : makeTemp M p.parent (tempStem p) with
      | error e =>
        refine ⟨fun failure h => ?_, nofun⟩
        cases h
        refine excused_raw fun he => ?_
        obtain hnul | hnul := herror (he ▸ htemp)
        · exact hasNul_of_parent hnul
        · exact hasNul_of_stem hnul
      | ok made => exact ⟨nofun, fun temp h => Except.ok.inj h ▸ hok _ _ htemp⟩

theorem settle_excused (htemp : hasNul temp = false) {mode : Nat} {text : String} {ending : Option Failure}
    {failure : Failure} (h : (settle A temp p mode text ending).2 = some failure) :
    ending = some failure ∨ Excused p failure := by
  unfold settle at h
  split at h
  · exact .inl h
  · split at h
    · rename_i e hcommit
      cases h
      refine .inr (excused_raw fun he => ?_)
      obtain rfl : e = .nulByte := by cases e <;> [cases he; rfl]
      obtain hwrite | ⟨W, -, hreplace⟩ := bind_eq_error.1 hcommit
      · rw [hasNul_of_writeFile hwrite] at htemp
        cases htemp
      · exact (hasNul_of_replace hreplace).resolve_left (by simp [htemp])
    · split at h
      · rename_i e hmode
        cases h
        exact .inr (excused_raw fun he => hasNul_of_setMode (he ▸ hmode))
      · cases h

/-- A write fails over its path, over an error of the system, or because its body has failed. -/
theorem writeAtomically_failed {σ : Type} (hp : p.isAbsolute = true) {mode : Nat} {state : σ}
    {body : FileSystem → σ → Written σ} {failure : Failure}
    (h : (writeAtomically A p mode state body).2.2 = some failure) :
    Excused p failure ∨ ∃ S, (body S state).failure = some failure := by
  obtain ⟨herror, hok⟩ := stage_excused (A := A) hp
  unfold writeAtomically at h
  cases hstage : stage A p with
  | mk S result =>
    rw [hstage] at h herror hok
    cases result with
    | error e =>
      cases h
      exact .inl (herror _ rfl)
    | ok temp => exact (settle_excused (hok _ rfl) h).symm.imp id fun h => ⟨S, h⟩

/-- What a write leaves behind is what its body does, unless that is never asked. -/
theorem writeAtomically_state {σ : Type} (A : FileSystem) (p : Path) (mode : Nat) (state : σ)
    (body : FileSystem → σ → Written σ) :
    (writeAtomically A p mode state body).2.1 = state ∨
      ∃ S, (writeAtomically A p mode state body).2.1 = (body S state).state := by
  unfold writeAtomically
  cases stage A p with
  | mk S result =>
    cases result with
    | error e => exact .inl rfl
    | ok temp => exact .inr ⟨S, rfl⟩

/-! ## Rebuilding -/

/-- Where there is a NUL character in the path, nothing is found there, and nothing can be made there. -/
theorem rebuild_of_hasNul (hnul : hasNul p = true) : rebuild A p = (A, [], some .overNul) := by
  have hobstacle : obstacle A p = .ok .nothing := by
    have hasks : ∀ follow ask, A.asks follow p ask = .ok false := fun follow ask => by
      rw [asks, look_of_hasNul hnul]
      rfl
    simp only [obstacle, isLink, isFile, isDir, hasks, bind, Except.bind, Bool.false_eq_true, if_false]
    rfl
  simp only [rebuild, hobstacle, makeRoot, makeDirs_of_hasNul hnul]
  rfl

/-- A directory that has been rebuilt has a path without a NUL character. -/
theorem hasNul_of_rebuild {records : List LogRecord} (h : rebuild A p = (S, records, none)) :
    hasNul p = false := by
  rw [Bool.eq_false_iff]
  intro hnul
  rw [rebuild_of_hasNul hnul] at h
  cases h

end Output

end TemplateTree
