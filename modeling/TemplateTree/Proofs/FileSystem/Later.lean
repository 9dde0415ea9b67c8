import TemplateTree.Proofs.FileSystem.Walking

/-!
# Later file systems

What a run leaves of the file systems that it goes through. Directories stay; a link stays or gives way to
a file; a file that is not what it was has a stamp that no file had before. So the stamp of the file under
a path tells whether its content is still the same.

* `Becomes`: what a node can become.
* `Follows`, `Later`: one file system comes after another.
* `Dated`: no file has a stamp that is still to come.
* `Agrees`, `Follows.agrees`: files with the same path and stamp have the same content.
* `Lasting`: this holds for all that is still to come.
-/

namespace TemplateTree

/-- What a node can become between two times: a directory is new, or a file is new, or the mode of a file.
    Where `loose` holds, a file can be lost, and a directory be made in its place. -/
inductive Becomes (loose : Prop) (before after : Nat) : Option Node → Option Node → Prop
  | same (node : Option Node) : Becomes loose before after node node
  | made : Becomes loose before after none (some .directory)
  | written {old : Option Node} {content : ByteArray} {mode stamp : Nat} (hold : old ≠ some .directory)
      (hbefore : before < stamp) (hafter : stamp ≤ after) :
      Becomes loose before after old (some (.file content mode stamp))
  | changed {content : ByteArray} {mode mode' stamp : Nat} :
      Becomes loose before after (some (.file content mode stamp)) (some (.file content mode' stamp))
  | lost {content : ByteArray} {mode stamp : Nat} (hloose : loose) :
      Becomes loose before after (some (.file content mode stamp)) none
  | replaced {content : ByteArray} {mode stamp : Nat} (hloose : loose) :
      Becomes loose before after (some (.file content mode stamp)) (some .directory)

namespace Becomes

variable {loose : Prop} {t t' t'' : Nat} {a b c : Option Node}

theorem mono (h : Becomes loose t t' a b) {u u' : Nat} (hu : u ≤ t) (hu' : t' ≤ u') :
    Becomes loose u u' a b := by
  cases h with
  | same => exact .same _
  | made => exact .made
  | written hold hbefore hafter => exact .written hold (by omega) (by omega)
  | changed => exact .changed
  | lost hloose => exact .lost hloose
  | replaced hloose => exact .replaced hloose

theorem trans (h : Becomes loose t t' a b) (h' : Becomes loose t' t'' b c) (ht : t ≤ t')
    (ht' : t' ≤ t'') (hloose : loose → ∀ target, a ≠ some (.link target)) : Becomes loose t t'' a c := by
  cases h with
  | same => exact h'.mono ht (Nat.le_refl _)
  | made =>
    cases h' with
    | same => exact .made
    | written hold => exact absurd rfl hold
  | written hold hbefore hafter =>
    cases h' with
    | same => exact .written hold hbefore (by omega)
    | written _ hbefore' hafter' => exact .written hold (by omega) hafter'
    | changed => exact .written hold hbefore (by omega)
    | lost hl =>
      cases a with
      | none => exact .same _
      | some node =>
        cases node with
        | file => exact .lost hl
        | link target => exact absurd rfl (hloose hl target)
        | directory => exact absurd rfl hold
    | replaced hl =>
      cases a with
      | none => exact .made
      | some node =>
        cases node with
        | file => exact .replaced hl
        | link target => exact absurd rfl (hloose hl target)
        | directory => exact absurd rfl hold
  | changed =>
    cases h' with
    | same => exact .changed
    | written _ hbefore' hafter' => exact .written (by simp) (by omega) hafter'
    | changed => exact .changed
    | lost hl => exact .lost hl
    | replaced hl => exact .replaced hl
  | lost hl =>
    cases h' with
    | same => exact .lost hl
    | made => exact .replaced hl
    | written _ hbefore' hafter' => exact .written (by simp) (by omega) hafter'
  | replaced hl =>
    cases h' with
    | same => exact .replaced hl
    | written hold => exact absurd rfl hold

theorem imp (h : Becomes loose t t' a b) {loose' : Prop} (himp : loose → a ≠ none → loose') :
    Becomes loose' t t' a b := by
  cases h with
  | same => exact .same _
  | made => exact .made
  | written hold hbefore hafter => exact .written hold hbefore hafter
  | changed => exact .changed
  | lost hl => exact .lost (himp hl nofun)
  | replaced hl => exact .replaced (himp hl nofun)

theorem directory (h : Becomes loose t t' (some .directory) b) : b = some .directory := by
  cases h with
  | same => rfl
  | written hold => exact absurd rfl hold

theorem noLink {target : String} (h : Becomes loose t t' a (some (.link target))) :
    a = some (.link target) := by
  cases h
  rfl

theorem eq_none (h : Becomes loose t t' a none) (hloose : ¬loose) : a = none := by
  cases h with
  | same => rfl
  | lost hl => exact absurd hl hloose

theorem link {target : String} (h : Becomes loose t t' (some (.link target)) b) :
    b = some (.link target) ∨ ∃ content mode stamp, b = some (.file content mode stamp) := by
  cases h with
  | same => exact .inl rfl
  | written => exact .inr ⟨_, _, _, rfl⟩

theorem file {content : ByteArray} {mode stamp : Nat}
    (h : Becomes loose t t' a (some (.file content mode stamp))) :
    (t < stamp ∧ stamp ≤ t') ∨ ∃ mode, a = some (.file content mode stamp) := by
  cases h with
  | same => exact .inr ⟨_, rfl⟩
  | written _ hbefore hafter => exact .inl ⟨hbefore, hafter⟩
  | changed => exact .inr ⟨_, rfl⟩

end Becomes

namespace FileSystem

variable {fs A B C : FileSystem} {gone : List Location} {x : Location}

/-- `B` comes after `A`. Only files at the locations `gone` may have been lost. -/
structure Follows (gone : List Location) (A B : FileSystem) : Prop where
  clock : A.clock ≤ B.clock
  workDir : B.workDir = A.workDir
  workDirLost : B.workDirLost = A.workDirLost
  node : ∀ x, Becomes (x ∈ gone) A.clock B.clock (A.node? x) (B.node? x)

/-- `B` comes after `A`, and no file has been lost. -/
abbrev Later (A B : FileSystem) : Prop := Follows [] A B

namespace Follows

theorem refl (gone : List Location) (A : FileSystem) : Follows gone A A :=
  ⟨Nat.le_refl _, rfl, rfl, fun _ => .same _⟩

theorem trans (h : Follows gone A B) (h' : Follows gone B C)
    (hgone : ∀ x ∈ gone, ∀ target, A.node? x ≠ some (.link target)) : Follows gone A C :=
  ⟨Nat.le_trans h.clock h'.clock, h'.workDir.trans h.workDir, h'.workDirLost.trans h.workDirLost,
    fun x => (h.node x).trans (h'.node x) h.clock h'.clock (hgone x)⟩

theorem imp (h : Follows gone A B) {gone' : List Location}
    (himp : ∀ x ∈ gone, A.node? x ≠ none → x ∈ gone') : Follows gone' A B :=
  ⟨h.clock, h.workDir, h.workDirLost, fun x => (h.node x).imp (himp x)⟩

/-- Nothing has been lost where nothing was. -/
theorem later (h : Follows gone A B) (hgone : ∀ x ∈ gone, A.node? x = none) : Later A B :=
  h.imp fun x hx hne => absurd (hgone x hx) hne

end Follows

theorem Later.refl (A : FileSystem) : Later A A :=
  Follows.refl [] A

theorem Later.trans (h : Later A B) (h' : Later B C) : Later A C :=
  Follows.trans h h' (by simp)

theorem Follows.trans_later (h : Follows gone A B) (h' : Later B C)
    (hgone : ∀ x ∈ gone, ∀ target, A.node? x ≠ some (.link target)) : Follows gone A C :=
  h.trans (h'.imp (by simp)) hgone

/-! ## Single changes -/

theorem later_put_directory (hne : x ≠ []) (hnone : A.node? x = none) :
    Later A (A.put x .directory) := by
  refine ⟨Nat.le_refl _, rfl, rfl, fun y => ?_⟩
  rw [node?_put A hne]
  split_ifs with hy
  · rw [hy, hnone]
    exact .made
  · exact .same _

theorem later_put_mode {content : ByteArray} {mode stamp : Nat}
    (hx : A.node? x = some (.file content mode stamp)) (mode' : Nat) :
    Later A (A.put x (.file content mode' stamp)) := by
  have hne : x ≠ [] := by
    rintro rfl
    simp at hx
  refine ⟨Nat.le_refl _, rfl, rfl, fun y => ?_⟩
  rw [node?_put A hne]
  split_ifs with hy
  · rw [hy, hx]
    exact .changed
  · exact .same _

theorem follows_erase {content : ByteArray} {mode stamp : Nat}
    (hx : A.node? x = some (.file content mode stamp)) : Follows [x] A (A.erase x) := by
  have hne : x ≠ [] := by
    rintro rfl
    simp at hx
  refine ⟨Nat.le_refl _, rfl, rfl, fun y => ?_⟩
  rw [node?_erase A hne]
  split_ifs with hy
  · rw [hy, hx]
    exact .lost (by simp)
  · exact .same _

/-! ## Stamps -/

/-- The stamps of all files have been given out already. -/
def Dated (fs : FileSystem) : Prop :=
  ∀ x content mode stamp, fs.node? x = some (.file content mode stamp) → stamp ≤ fs.clock

theorem dated_of_nodes (h : ∀ e ∈ fs.nodes, ∀ content mode stamp,
    e.2 = .file content mode stamp → stamp ≤ fs.clock) : fs.Dated := by
  intro x content mode stamp hx
  have hne : x ≠ [] := by
    rintro rfl
    simp at hx
  exact h _ (mem_nodes_of_node? hne hx) content mode stamp rfl

theorem Dated.follows (hA : A.Dated) (h : Follows gone A B) : B.Dated := by
  intro x content mode stamp hx
  have hnode := h.node x
  rw [hx] at hnode
  obtain ⟨-, hle⟩ | ⟨mode, hx⟩ := hnode.file
  · exact hle
  · exact Nat.le_trans (hA x content mode stamp hx) h.clock

/-! ## Finding the same file again -/

/-- Files that are found under the same path with the same stamp have the same content. -/
def Agrees (A B : FileSystem) : Prop :=
  ∀ p content content' mode mode' stamp, A.look true p = .ok (.file content mode stamp) →
    B.look true p = .ok (.file content' mode' stamp) → content = content'

theorem Agrees.refl (A : FileSystem) : Agrees A A := by
  intro p content content' mode mode' stamp h h'
  rw [h] at h'
  cases h'
  rfl

/-- What was found in one file system can be told from what is found in any that comes after another. -/
def Lasting (past now : FileSystem) : Prop :=
  ∀ S, Later now S → Agrees past S

theorem Lasting.later {past : FileSystem} (h : Lasting past A) (h' : Later A B) : Lasting past B :=
  fun S hS => h S (h'.trans hS)

variable {s s' : Spot}

theorem Follows.walkNames {onA onB : LinkStep} (h : Follows gone A B)
    (hon : ∀ here t rest, onA here t rest = .ok s → onB here t rest = .ok s' →
      s' = s ∨ ∃ target, A.node? s'.location = some (.link target)) :
    ∀ names here, A.walkNames true onA here names = .ok s → B.walkNames true onB here names = .ok s' →
      s' = s ∨ ∃ target, A.node? s'.location = some (.link target) := by
  intro names
  induction names with
  | nil =>
    intro here hA hB
    cases hA
    cases hB
    exact .inl rfl
  | cons name rest ih =>
    intro here hA hB
    by_cases hname : name = ".."
    · rw [hname, walkNames_up] at hA hB
      exact ih _ hA hB
    · have hnode := h.node (here ++ [name])
      rw [walkNames_cons_eq_ok hname] at hA hB
      obtain ⟨-, ⟨hrest, rfl, hlast⟩ | ⟨hrest, hdir, hA⟩ | ⟨t, hlink, -, hA⟩⟩ := hA
      · obtain ⟨-, ⟨-, rfl, -⟩ | ⟨hrest', -⟩ | ⟨t, hlink, -⟩⟩ := hB
        · exact .inl rfl
        · exact absurd hrest hrest'
        · rw [hlink] at hnode
          exact absurd hnode.noLink (hlast rfl t)
      · rw [hdir] at hnode
        obtain ⟨-, ⟨hrest', -⟩ | ⟨-, -, hB⟩ | ⟨t, hlink, -⟩⟩ := hB
        · exact absurd hrest' hrest
        · exact ih _ hA hB
        · rw [hnode.directory] at hlink
          cases hlink
      · rw [hlink] at hnode
        obtain ⟨-, ⟨-, rfl, -⟩ | ⟨-, hdir, -⟩ | ⟨t', hlink', -, hB⟩⟩ := hB
        · exact .inr ⟨t, hlink⟩
        · obtain hsame | ⟨_, _, _, hfile⟩ := hnode.link
          · rw [hdir] at hsame
            cases hsame
          · rw [hdir] at hfile
            cases hfile
        · rw [hlink'] at hnode
          cases hnode.noLink
          exact hon _ _ _ hA hB

/-- A path that can be followed in both leads to the same place, or to one where a link has been. -/
theorem Follows.walk (h : Follows gone A B) :
    ∀ budget here names, A.walk true budget here names = .ok s → B.walk true budget here names = .ok s' →
      s' = s ∨ ∃ target, A.node? s'.location = some (.link target) := by
  intro budget
  induction budget with
  | zero => exact fun here names => h.walkNames (fun _ _ _ hA => by cases hA) names here
  | succ budget ih =>
    exact fun here names => h.walkNames (fun _ _ _ hA hB => ih _ _ hA hB) names here

theorem Follows.locate (h : Follows gone A B) {p : Path} (hA : A.locate true p = .ok s)
    (hB : B.locate true p = .ok s') :
    s' = s ∨ ∃ target, A.node? s'.location = some (.link target) := by
  unfold FileSystem.locate at hA hB
  rw [h.workDir, h.workDirLost] at hB
  split_ifs at hA hB
  · exact h.walk _ _ _ hA hB
  · cases hA
    cases hB
    exact .inl rfl
  · exact h.walk _ _ _ hA hB

theorem locate_of_look_file {follow : Bool} {p : Path} {content : ByteArray} {mode stamp : Nat}
    (h : fs.look follow p = .ok (.file content mode stamp)) :
    ∃ s, fs.locate follow p = .ok s ∧ fs.node? s.location = some (.file content mode stamp) := by
  unfold look at h
  split_ifs at h
  · cases h
  · obtain ⟨s, hfind, h⟩ := bind_eq_ok.1 h
    refine ⟨s, (find_eq_ok.1 hfind).2, ?_⟩
    split at h
    · cases h
      assumption
    · cases h

/-- The stamp of a file tells whether it is the same, if no stamp was still to come. -/
theorem Follows.agrees (h : Follows gone A B) (hA : A.Dated) : Agrees A B := by
  intro p content content' mode mode' stamp hlook hlook'
  obtain ⟨s, hs, hfile⟩ := locate_of_look_file hlook
  obtain ⟨s', hs', hfile'⟩ := locate_of_look_file hlook'
  have hle := hA _ _ _ _ hfile
  have hnode := h.node s'.location
  rw [hfile'] at hnode
  obtain ⟨hlt, -⟩ | ⟨_, hsame⟩ := hnode.file
  · omega
  · obtain rfl | ⟨target, hlink⟩ := h.locate hs hs'
    · rw [hfile] at hsame
      cases hsame
      rfl
    · rw [hsame] at hlink
      cases hlink

theorem Follows.lasting (h : Follows gone A B) (hA : A.Dated)
    (hgone : ∀ x ∈ gone, ∀ target, A.node? x ≠ some (.link target)) : Lasting A B :=
  fun _ hS => (h.trans_later hS hgone).agrees hA

end FileSystem

end TemplateTree
