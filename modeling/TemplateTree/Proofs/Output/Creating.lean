import TemplateTree.Proofs.Output.Writing

/-!
# Files that can be created

If an empty file can be written to a path then any text can be, and the path leads to that text afterwards.
This holds for every path, also for one with double dots or links in it.

* `CanCreate`: an empty file can be written.
* `Staged`: where a temporary file lies.
* `CanCreate.write`: any text can be written, and is found.
-/

namespace TemplateTree.Output

open FileSystem

variable {A M S : FileSystem} {p temp : Path} {D : Location} {name text : String}

/-- An empty file can be written to a path. -/
def CanCreate (fs : FileSystem) (p : Path) : Prop :=
  (writeAtomically fs p defaultMode () fun _ _ => ⟨(), "", none⟩).2.2 = none

instance (fs : FileSystem) (p : Path) : Decidable (CanCreate fs p) :=
  inferInstanceAs (Decidable (_ = none))

/-! ## The temporary file -/

/-- A temporary file that a path leads to. -/
structure Staged (S : FileSystem) (temp : Path) (D : Location) (name : String) : Prop where
  isAbsolute : temp.isAbsolute = true
  locate : S.locate false temp = .ok ⟨D, some name⟩
  node : ∃ stamp, S.node? (D ++ [name]) = some (.file ByteArray.empty 0o600 stamp)

theorem utf8ByteSize_temp {k : Nat} (hk : k < nameTries) (stem : String) :
    (stem ++ uniquePart k).utf8ByteSize = (stem ++ mask).utf8ByteSize := by
  rw [String.utf8ByteSize_append, String.utf8ByteSize_append, utf8ByteSize_uniquePart hk]
  rfl

theorem append_ne_dots (stem : String) {s : String} (h : s.toList.length = 8) : stem ++ s ≠ ".." := by
  intro heq
  have := congrArg (fun s => s.toList.length) heq
  have hdots : "..".toList.length = 2 := by decide
  simp only [String.toList_append, List.length_append] at this
  omega

/-- The temporary file of a write lies where nothing was, under one of the names for it. -/
theorem makeTemp_staged {directory : Path} {stem : String}
    (h : makeTemp M directory stem = .ok (S, temp)) (hp : directory.isAbsolute = true) :
    ∃ D name, Staged S temp D name ∧ S = withTemp M D name ∧ M.node? (D ++ [name]) = none ∧
      ∃ k < nameTries, name = stem ++ uniquePart k := by
  have habs : M.absolute directory = .ok directory := if_pos hp
  simp only [makeTemp, habs, bind_eq_ok, Except.ok.injEq, exists_eq_left'] at h
  obtain ⟨spot, hfind, h⟩ := h
  obtain ⟨-, hspot⟩ := find_eq_ok.1 hfind
  have hdir : (lexical directory).isAbsolute = true := hp
  split at h
  · cases h
  · rename_i k hk
    cases h
    have hlt : k < nameTries := List.mem_range.1 (List.mem_of_find?_eq_some hk)
    have hfree : M.node? (spot.directory ++ [stem ++ uniquePart k]) = none := by
      simpa using List.find?_some hk
    rw [locate_of_isAbsolute (p := (lexical directory).child (stem ++ mask)) hdir, Path.child] at hspot
    obtain ⟨-, hrename⟩ := walk_rename (append_ne_dots stem (s := mask) (by decide))
      (append_ne_dots stem (toList_uniquePart hlt).1) (utf8ByteSize_temp hlt stem).le _ _ _ _ hspot
    refine ⟨spot.directory, stem ++ uniquePart k, ⟨hp, ?_, _,
      (node?_withTemp M spot.directory (stem ++ uniquePart k) _).trans (if_pos rfl)⟩, rfl, hfree, k, hlt, rfl⟩
    rw [locate_of_isAbsolute (p := (lexical directory).child (stem ++ uniquePart k)) hdir, Path.child]
    exact walk_mono (extends_withTemp hfree) (by simp) _ _ _ hrename

theorem stage_eq_ok (hp : p.isAbsolute = true) (h : stage A p = (S, .ok temp)) :
    ∃ M D name, A.makeDirs p.parent = (M, none) ∧ Staged S temp D name ∧ S = withTemp M D name ∧
      M.node? (D ++ [name]) = none := by
  unfold stage ensureParent at h
  cases hdirs : A.makeDirs p.parent with
  | mk M error =>
    rw [hdirs] at h
    cases error with
    | some e => cases h
    | none =>
      dsimp only [Option.map_none] at h
      split at h
      · cases h
      · rename_i htemp
        cases h
        obtain ⟨D, name, hstaged, hS, hfree, -⟩ := makeTemp_staged htemp hp
        exact ⟨M, D, name, rfl, hstaged, hS, hfree⟩

/-! ## Taking the place of the target -/

/-- The file system when the text is in the temporary file. -/
def filled (S : FileSystem) (D : Location) (name text : String) : FileSystem :=
  S.tick.put (D ++ [name]) (.file text.toUTF8 0o600 (S.clock + 1))

theorem node?_filled (S : FileSystem) (D : Location) (name text : String) (x : Location) :
    (filled S D name text).node? x
      = if x = D ++ [name] then some (.file text.toUTF8 0o600 (S.clock + 1)) else S.node? x := by
  rw [filled, node?_put _ (by simp), node?_tick]

/-- The file system when the temporary file has taken the place of the entry at a location. -/
def placed (S : FileSystem) (D : Location) (name text : String) (x : Location) : FileSystem :=
  ((filled S D name text).erase (D ++ [name])).put x (.file text.toUTF8 0o600 (S.clock + 1))

theorem node?_placed (S : FileSystem) (D : Location) (name text : String) {x : Location} (hx : x ≠ [])
    (y : Location) :
    (placed S D name text x).node? y = if y = x then some (.file text.toUTF8 0o600 (S.clock + 1))
      else if y = D ++ [name] then none else S.node? y := by
  rw [placed, node?_put _ hx, node?_erase _ (by simp), node?_filled]
  split_ifs <;> rfl

/-- The text makes no difference to the directories and links. -/
theorem filled_extends (S : FileSystem) (D : Location) (name text text' : String) :
    Extends (filled S D name text) (filled S D name text') := by
  constructor
  all_goals
    intro x
    simp only [node?_filled]
    split_ifs <;> simp

theorem placed_extends (S : FileSystem) (D : Location) (name text text' : String) {x : Location}
    (hx : x ≠ []) : Extends (placed S D name text x) (placed S D name text' x) := by
  constructor
  all_goals
    intro y
    simp only [node?_placed _ _ _ _ hx]
    split_ifs <;> simp

theorem placed_extends_filled (S : FileSystem) (D : Location) (name text : String) {x : Location}
    (hx : x ≠ []) : Extends (placed S D name text x) (filled S D name text) := by
  constructor
  all_goals
    intro y
    simp only [node?_placed _ _ _ _ hx, node?_filled]
    split_ifs <;> simp

/-- The target of a write: an entry that the temporary file can take the place of, so that it is found
    there. -/
structure Fits (S : FileSystem) (temp p : Path) (D : Location) (name : String) (s : Spot) : Prop where
  noNul : hasNul temp = false
  target : hasNul p = false
  named : s.name.isNone = false
  locate : ∀ text, (filled S D name text).locate false p = .ok s
  plain : ∀ text, (filled S D name text).isDirectoryAt s.location = false
  found : ∀ text, (placed S D name text s.location).locate true p = .ok s

theorem Fits.ne_nil {s : Spot} (hs : s.name.isNone = false) : s.location ≠ [] := by
  cases hname : s.name with
  | none => simp [hname] at hs
  | some n => simp [Spot.location, hname]

namespace Staged

variable (h : Staged S temp D name)

include h

theorem writeFile_eq (hnul : hasNul temp = false) (text : String) :
    S.writeFile temp text.toUTF8 none = .ok (filled S D name text) := by
  obtain ⟨stamp, hnode⟩ := h.node
  have hlocate := h.locate
  rw [locate_of_isAbsolute h.isAbsolute] at hlocate
  have hfollow := walk_followed (s := ⟨D, some name⟩) (by simp [Spot.location, hnode]) _ _ _ hlocate
  rw [← locate_of_isAbsolute h.isAbsolute] at hfollow
  simp only [writeFile, find_eq_ok.2 ⟨hnul, hfollow⟩, bind, Except.bind, Spot.location,
    Option.toList_some, node?_tick, hnode]
  rfl

theorem commit_eq (hnul : hasNul temp = false) (text : String) :
    commit S temp p text = (filled S D name text).replace temp p := by
  rw [commit, h.writeFile_eq hnul]
  rfl

theorem locate_filled (text : String) : (filled S D name text).locate false temp = .ok ⟨D, some name⟩ := by
  obtain ⟨stamp, hnode⟩ := h.node
  refine locate_mono h.isAbsolute ?_ (by simp) h.locate
  constructor
  all_goals
    intro x
    rw [node?_filled]
    split_ifs with hx
    · subst hx
      simp [hnode]
    · simp

/-- A temporary file replaces what is at a target that it fits. -/
theorem replace_eq {s : Spot} (hnul : hasNul temp = false) (htarget : hasNul p = false)
    (hnamed : s.name.isNone = false) (hs : (filled S D name text).locate false p = .ok s)
    (hplain : (filled S D name text).isDirectoryAt s.location = false) :
    (filled S D name text).replace temp p = .ok (placed S D name text s.location) := by
  have hnode := node?_filled S D name text (D ++ [name])
  rw [if_pos rfl] at hnode
  rw [replace_of_locate hnul htarget (h.locate_filled text) hs hnode, hnamed, hplain]
  rfl

/-- A temporary file that has replaced its target lies at the place of that. -/
theorem commit_eq_ok {R : FileSystem} (hcommit : commit S temp p text = .ok R) :
    hasNul temp = false ∧ hasNul p = false ∧ ∃ s : Spot,
      (filled S D name text).locate false p = .ok s ∧ s.name.isNone = false ∧
      (filled S D name text).isDirectoryAt s.location = false ∧ R = placed S D name text s.location := by
  have hnul : hasNul temp = false := by
    obtain ⟨W, hwrite, -⟩ := bind_eq_ok.1 hcommit
    obtain ⟨w, hfind, -⟩ := bind_eq_ok.1 hwrite
    exact (find_eq_ok.1 hfind).1
  rw [h.commit_eq hnul] at hcommit
  have htarget : hasNul p = false := by
    cases htarget : hasNul p with
    | false => rfl
    | true =>
      simp only [replace, htarget, Bool.or_true, if_true] at hcommit
      cases hcommit
  obtain ⟨s, hs⟩ : ∃ s, (filled S D name text).locate false p = .ok s := by
    cases hs : (filled S D name text).locate false p with
    | ok s => exact ⟨s, rfl⟩
    | error e =>
      simp only [replace, hnul, htarget, h.locate_filled text, hs, Except.mapError, bind, Except.bind,
        Bool.or_self, Bool.false_eq_true, if_false] at hcommit
      cases hcommit
  have hnode := node?_filled S D name text (D ++ [name])
  rw [if_pos rfl] at hnode
  have hreplace := replace_of_locate hnul htarget (h.locate_filled text) hs hnode
  rw [hcommit] at hreplace
  split_ifs at hreplace with hnamed hplain
  rw [Bool.not_eq_true] at hnamed hplain
  exact ⟨hnul, htarget, s, hs, hnamed, hplain, Except.ok.inj hreplace⟩

/-- Where a write succeeds, the temporary file fits. -/
theorem fits (hp : p.isAbsolute = true) {mode : Nat}
    (hok : (settle S temp p mode text none).2 = none) : ∃ s, Fits S temp p D name s := by
  obtain ⟨R, hcommit, B, hmode⟩ : ∃ R, commit S temp p text = .ok R ∧ ∃ B, R.setMode p mode = .ok B := by
    unfold settle at hok
    dsimp only at hok
    split at hok
    · cases hok
    · rename_i R hcommit
      split at hok
      · cases hok
      · rename_i B hmode
        exact ⟨R, hcommit, B, hmode⟩
  obtain ⟨hnul, htarget, s, hs, hnamed, hplain, rfl⟩ := h.commit_eq_ok hcommit
  have hne := Fits.ne_nil hnamed
  rw [Bool.eq_false_iff] at hplain
  refine ⟨s, hnul, htarget, hnamed, fun text' => ?_, fun text' => ?_, fun text' => ?_⟩
  · exact locate_mono hp (filled_extends S D name text text') (by simp) hs
  · rw [Bool.eq_false_iff]
    intro hdir
    exact hplain (isDirectoryAt_eq_true.2
      ((filled_extends S D name text' text).directory _ (isDirectoryAt_eq_true.1 hdir)))
  · -- After the replacement the path can be followed to its end, and that can only be the same place.
    obtain ⟨z, hfind, -⟩ := bind_eq_ok.1 hmode
    have hz := (find_eq_ok.1 hfind).2
    have hat := node?_placed S D name text hne s.location
    rw [if_pos rfl] at hat
    have hzs : z = s := by
      rw [locate_of_isAbsolute hp] at hz
      obtain ⟨z', hz', hend⟩ := walk_unfollowed _ _ _ hz
      rw [← locate_of_isAbsolute hp] at hz'
      have hsame := locate_mono hp (placed_extends_filled S D name text hne) (by simp) hz'
      rw [hs] at hsame
      obtain rfl : s = z' := Except.ok.inj hsame
      obtain hend | ⟨t, ht⟩ := hend
      · exact hend.symm
      · rw [hat] at ht
        cases ht
    have hat' := node?_placed S D name text' hne s.location
    rw [if_pos rfl] at hat'
    rw [hzs] at hz
    exact locate_mono hp (placed_extends S D name text text' hne) (by simp [hat']) hz

/-- Where the temporary file fits, every text can be written. -/
theorem settle_eq (hp : p.isAbsolute = true) {s : Spot} (hfits : Fits S temp p D name s) (mode : Nat)
    (text : String) :
    ∃ B stamp, settle S temp p mode text none = (B, none) ∧
      B.look true p = .ok (.file text.toUTF8 mode stamp) := by
  have hne := Fits.ne_nil hfits.named
  have hat := node?_placed S D name text hne s.location
  rw [if_pos rfl] at hat
  have hcommit : commit S temp p text = .ok (placed S D name text s.location) := by
    rw [h.commit_eq hfits.noNul]
    exact h.replace_eq hfits.noNul hfits.target hfits.named (hfits.locate text) (hfits.plain text)
  have hmode : (placed S D name text s.location).setMode p mode
      = .ok ((placed S D name text s.location).put s.location (.file text.toUTF8 mode (S.clock + 1))) := by
    simp only [setMode, find_eq_ok.2 ⟨hfits.target, hfits.found text⟩, bind, Except.bind, hat]
    rfl
  have hsettle : settle S temp p mode text none = ((placed S D name text s.location).put s.location
      (.file text.toUTF8 mode (S.clock + 1)), none) := by
    simp only [settle, hcommit, hmode]
  refine ⟨_, S.clock + 1, hsettle, ?_⟩
  have hput : ∀ y, ((placed S D name text s.location).put s.location
      (.file text.toUTF8 mode (S.clock + 1))).node? y
        = if y = s.location then some (.file text.toUTF8 mode (S.clock + 1))
          else (placed S D name text s.location).node? y := node?_put _ hne _
  have hend := hput s.location
  rw [if_pos rfl] at hend
  refine (look_eq_ok hp).2 ⟨hfits.target, s, ?_, hend⟩
  refine locate_mono hp ?_ (fun _ t ht => by rw [hend] at ht; cases ht) (hfits.found text)
  constructor
  all_goals
    intro y
    rw [hput]
    split_ifs with hy
    · simp [hy, hat]
    · simp

end Staged

/-- Where an empty file can be written, any text can be, and the path leads to it. -/
theorem CanCreate.write {σ : Type} (hp : p.isAbsolute = true) (h : CanCreate A p) (mode : Nat) (state : σ)
    {body : FileSystem → σ → Written σ}
    (hbody : ∀ fs, (body fs state).text = text ∧ (body fs state).failure = none) :
    ∃ B state' stamp, writeAtomically A p mode state body = (B, state', none) ∧
      B.look true p = .ok (.file text.toUTF8 mode stamp) := by
  unfold CanCreate writeAtomically at h
  unfold writeAtomically
  cases hstage : stage A p with
  | mk S result =>
    rw [hstage] at h
    cases result with
    | error failure => cases h
    | ok temp =>
      obtain ⟨-, D, name, -, hstaged, -⟩ := stage_eq_ok hp hstage
      obtain ⟨s, hfits⟩ := hstaged.fits hp h
      obtain ⟨htext, hfailure⟩ := hbody S
      obtain ⟨B, stamp, hsettle, hlook⟩ := hstaged.settle_eq hp hfits mode text
      exact ⟨B, (body S state).state, stamp, by simp only [htext, hfailure, hsettle], hlook⟩

end TemplateTree.Output
