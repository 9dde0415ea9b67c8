import TemplateTree.Proofs.FileSystem.Nodes

/-!
# File systems with the same entries

Two file systems with the same entries, whose files may have been written at different times, cannot be told
apart by any operation but the one that reads a stamp. What an operation makes of both has the same entries
again.

* `SameEnd`: two computations that end in the same way.
* `SameEntries`: two file systems with the same entries.
* `SameEntries.locate_eq`, `SameEntries.look`, `SameEntries.read_eq`: looking at both.
* `SameEntries.makeDirs`, `SameEntries.writeFile`, `SameEntries.replace`: changing both.
-/

namespace TemplateTree

/-! ## Computations that end in the same way -/

/-- Two computations end in the same way: with results that belong together, or with the same error. -/
inductive SameEnd {ε α β : Type} (R : α → β → Prop) : Except ε α → Except ε β → Prop
  | ok {a : α} {b : β} (h : R a b) : SameEnd R (.ok a) (.ok b)
  | error (e : ε) : SameEnd R (.error e) (.error e)

namespace SameEnd

variable {ε α β α' β' : Type} {R : α → β → Prop} {S : α' → β' → Prop}
variable {x : Except ε α} {y : Except ε β}

theorem bind {f : α → Except ε α'} {g : β → Except ε β'} (h : SameEnd R x y)
    (hfg : ∀ a b, R a b → SameEnd S (f a) (g b)) : SameEnd S (x >>= f) (y >>= g) := by
  cases h with
  | ok h => exact hfg _ _ h
  | error e => exact .error e

/-- The same first step may be followed by steps that end in the same way. -/
theorem bind_left {f : α → Except ε α'} {g : α → Except ε β'} (x : Except ε α)
    (h : ∀ a, SameEnd S (f a) (g a)) : SameEnd S (x >>= f) (x >>= g) := by
  cases x with
  | ok a => exact h a
  | error e => exact .error e

theorem eq {x y : Except ε α} (h : SameEnd Eq x y) : x = y := by
  cases h with
  | ok h => rw [h]
  | error e => rfl

/-- Both ends, as equations. -/
theorem ends (h : SameEnd R x y) :
    (∃ a b, x = .ok a ∧ y = .ok b ∧ R a b) ∨ ∃ e, x = .error e ∧ y = .error e := by
  cases h with
  | ok h => exact .inl ⟨_, _, rfl, rfl, h⟩
  | error e => exact .inr ⟨e, rfl, rfl⟩

end SameEnd

namespace FileSystem

/-! ## The same entries -/

/-- Two nodes that differ in their stamps at most. -/
inductive SameNode : Node → Node → Prop
  | file (content : ByteArray) (mode stamp stamp' : Nat) :
      SameNode (.file content mode stamp) (.file content mode stamp')
  | link (target : String) : SameNode (.link target) (.link target)
  | directory : SameNode .directory .directory

theorem SameNode.refl (node : Node) : SameNode node node := by
  cases node with
  | file content mode stamp => exact .file content mode stamp stamp
  | link target => exact .link target
  | directory => exact .directory

/-- Two file systems with the same entries, whenever their files were written. -/
structure SameEntries (A B : FileSystem) : Prop where
  node : ∀ x, Option.Rel SameNode (A.node? x) (B.node? x)
  workDir : A.workDir = B.workDir
  workDirLost : A.workDirLost = B.workDirLost

variable {A B : FileSystem} {follow : Bool} {p : Path}

/-- File systems with the same nodes have the same entries. -/
theorem sameEntries_of_nodes (hnode : ∀ x, B.node? x = A.node? x) (hwork : B.workDir = A.workDir)
    (hlost : B.workDirLost = A.workDirLost) : SameEntries A B := by
  refine ⟨fun x => ?_, hwork.symm, hlost.symm⟩
  rw [hnode]
  cases A.node? x with
  | none => exact .none
  | some node => exact .some (.refl node)

theorem SameEntries.refl (A : FileSystem) : SameEntries A A :=
  sameEntries_of_nodes (fun _ => rfl) rfl rfl

/-! ## Looking -/

namespace SameEntries

variable (h : SameEntries A B)

include h

/-- What is at a location in both. -/
theorem nodes (x : Location) :
    (A.node? x = none ∧ B.node? x = none) ∨
      ∃ a b, A.node? x = some a ∧ B.node? x = some b ∧ SameNode a b := by
  have hnode := h.node x
  generalize A.node? x = a at hnode ⊢
  generalize B.node? x = b at hnode ⊢
  cases hnode with
  | none => exact .inl ⟨rfl, rfl⟩
  | some hnode => exact .inr ⟨_, _, rfl, rfl, hnode⟩

theorem isNone_eq (x : Location) : (A.node? x).isNone = (B.node? x).isNone := by
  obtain ⟨hA, hB⟩ | ⟨a, b, hA, hB, -⟩ := h.nodes x <;> simp only [hA, hB, Option.isNone_some]

theorem isDirectoryAt_eq (x : Location) : A.isDirectoryAt x = B.isDirectoryAt x := by
  unfold isDirectoryAt
  obtain ⟨hA, hB⟩ | ⟨a, b, hA, hB, hnode⟩ := h.nodes x <;> rw [hA, hB]
  cases hnode <;> rfl

theorem walkNames_eq (on : LinkStep) (here : Location) (names : List String) :
    A.walkNames follow on here names = B.walkNames follow on here names := by
  induction names generalizing here with
  | nil => rfl
  | cons name rest ih =>
    rw [walkNames, walkNames, ih, ih]
    obtain ⟨hA, hB⟩ | ⟨a, b, hA, hB, hnode⟩ := h.nodes (here ++ [name]) <;> rw [hA, hB]
    cases hnode <;> rfl

theorem walk_eq (budget : Nat) (here : Location) (names : List String) :
    A.walk follow budget here names = B.walk follow budget here names := by
  induction budget generalizing here names with
  | zero => exact h.walkNames_eq _ here names
  | succ budget ih =>
    rw [walk, walk, h.walkNames_eq]
    simp only [ih]

/-- A path leads to the same place in both. -/
theorem locate_eq (follow : Bool) (p : Path) : A.locate follow p = B.locate follow p := by
  unfold locate
  simp only [h.walk_eq, h.workDir, h.workDirLost]

theorem find_eq (follow : Bool) (p : Path) : A.find follow p = B.find follow p := by
  unfold find
  rw [h.locate_eq]

theorem absolute_eq (p : Path) : A.absolute p = B.absolute p := by
  unfold FileSystem.absolute workPath
  rw [h.workDir, h.workDirLost]

theorem look (follow : Bool) (p : Path) : SameEnd SameNode (A.look follow p) (B.look follow p) := by
  unfold FileSystem.look
  split_ifs
  · exact .ok .directory
  · rw [h.find_eq]
    refine .bind_left (B.find follow p) fun spot => ?_
    obtain ⟨hA, hB⟩ | ⟨a, b, hA, hB, hnode⟩ := h.nodes spot.location <;> rw [hA, hB]
    · exact .error _
    · exact .ok hnode

/-- A question that is not about stamps has the same answer. -/
theorem asks_eq {ask : Node → Bool} (hask : ∀ a b, SameNode a b → ask a = ask b) (follow : Bool)
    (p : Path) : A.asks follow p ask = B.asks follow p ask := by
  unfold asks
  obtain ⟨a, b, hA, hB, hnode⟩ | ⟨e, hA, hB⟩ := (h.look follow p).ends <;> rw [hA, hB]
  exact congrArg Except.ok (hask a b hnode)

theorem isDir_eq (p : Path) : A.isDir p = B.isDir p := by
  refine h.asks_eq ?_ true p
  rintro _ _ ⟨⟩ <;> rfl

theorem content?_eq (p : Path) : A.content? p = B.content? p := by
  refine (SameEnd.bind (h.look true p) ?_).eq
  rintro _ _ ⟨⟩ <;> exact .ok rfl

theorem read_eq (p : Path) : A.read p = B.read p := by
  refine (SameEnd.bind (h.look true p) ?_).eq
  rintro _ _ ⟨⟩
  · exact .ok rfl
  · exact .error _
  · exact .error _

end SameEntries

/-! ## Changing -/

theorem node?_put_nil (fs : FileSystem) (node : Node) (x : Location) : (fs.put [] node).node? x = fs.node? x := by
  by_cases hx : x = []
  · rw [hx, node?_nil, node?_nil]
  · rw [node?_of_ne_nil hx, node?_of_ne_nil hx, put, List.find?_cons_of_neg (by simpa using Ne.symm hx),
      node?_filter_ne fs [] x hx]

theorem node?_erase_nil (fs : FileSystem) (x : Location) : (fs.erase []).node? x = fs.node? x := by
  by_cases hx : x = []
  · rw [hx, node?_nil, node?_nil]
  · rw [node?_of_ne_nil hx, node?_of_ne_nil hx, erase, node?_filter_ne fs [] x hx]

/-- Two attempts that may stop half-way, and do so with the same error. -/
def SameTry (a b : FileSystem × Option SystemError) : Prop :=
  SameEntries a.1 b.1 ∧ a.2 = b.2

namespace SameEntries

variable (h : SameEntries A B)

include h

theorem put {a b : Node} (hnode : SameNode a b) (x : Location) : SameEntries (A.put x a) (B.put x b) := by
  refine ⟨fun y => ?_, h.workDir, h.workDirLost⟩
  by_cases hx : x = []
  · rw [hx, node?_put_nil, node?_put_nil]
    exact h.node y
  · rw [node?_put A hx, node?_put B hx]
    split_ifs
    · exact .some hnode
    · exact h.node y

theorem erase (x : Location) : SameEntries (A.erase x) (B.erase x) := by
  refine ⟨fun y => ?_, h.workDir, h.workDirLost⟩
  by_cases hx : x = []
  · rw [hx, node?_erase_nil, node?_erase_nil]
    exact h.node y
  · rw [node?_erase A hx, node?_erase B hx]
    split_ifs
    · exact .none
    · exact h.node y

theorem tick : SameEntries A.tick B.tick :=
  ⟨h.node, h.workDir, h.workDirLost⟩

theorem makeDir (p : Path) : SameEnd SameEntries (A.makeDir p) (B.makeDir p) := by
  unfold FileSystem.makeDir
  rw [h.find_eq]
  refine .bind_left (B.find false p) fun spot => ?_
  cases spot.name with
  | none => exact .error _
  | some name =>
    obtain ⟨hA, hB⟩ | ⟨a, b, hA, hB, -⟩ := h.nodes spot.location <;> rw [hA, hB]
    · exact .ok (h.put .directory spot.location)
    · exact .error _

theorem orPresent (p : Path) (e : SystemError) :
    (A.orPresent p e).map (fun _ => ()) = (B.orPresent p e).map fun _ => () := by
  unfold FileSystem.orPresent
  rw [h.isDir_eq]
  cases B.isDir p with
  | ok b => cases b <;> rfl
  | error e => rfl

/-- An attempt to make a directory that has failed fails in both, unless one is there. -/
theorem tried (p : Path) (e : SystemError) :
    SameTry (match A.orPresent p e with | .ok _ => (A, none) | .error e => (A, some e))
      (match B.orPresent p e with | .ok _ => (B, none) | .error e => (B, some e)) := by
  have hpresent := h.orPresent p e
  cases hA : A.orPresent p e <;> cases hB : B.orPresent p e <;> rw [hA, hB] at hpresent <;> cases hpresent
  · exact ⟨h, rfl⟩
  · exact ⟨h, rfl⟩

/-- The same directories are made in both, also if it fails half-way. -/
theorem makeDirsWithin (depth : Nat) (p : Path) :
    SameTry (A.makeDirsWithin depth p) (B.makeDirsWithin depth p) := by
  induction depth generalizing p with
  | zero =>
    rw [FileSystem.makeDirsWithin, FileSystem.makeDirsWithin]
    obtain ⟨C, D, hC, hD, h'⟩ | ⟨e, hC, hD⟩ := (h.makeDir p).ends <;> rw [hC, hD]
    · exact ⟨h', rfl⟩
    · exact ⟨h, rfl⟩
  | succ depth ih =>
    rw [FileSystem.makeDirsWithin, FileSystem.makeDirsWithin]
    obtain ⟨C, D, hC, hD, h'⟩ | ⟨e, hC, hD⟩ := (h.makeDir p).ends <;> rw [hC, hD]
    · exact ⟨h', rfl⟩
    · have habove := ih p.parent
      have hpresent := h.orPresent p e
      generalize A.makeDirsWithin depth p.parent = a at habove ⊢
      generalize B.makeDirsWithin depth p.parent = b at habove ⊢
      obtain ⟨C, error⟩ := a
      obtain ⟨D, error'⟩ := b
      obtain ⟨hCD, rfl⟩ := habove
      rcases e with ⟨errno, words, path, target⟩ | _
      · by_cases hno : errno = .noEntry
        · subst hno
          dsimp only
          split_ifs
          · exact ⟨h, rfl⟩
          · cases error with
            | some e => exact ⟨hCD, rfl⟩
            | none =>
              dsimp only
              obtain ⟨E, F, hE, hF, h'⟩ | ⟨e, hE, hF⟩ := (hCD.makeDir p).ends <;> rw [hE, hF]
              · exact ⟨h', rfl⟩
              · exact hCD.tried p e
        · cases errno <;> first | exact absurd rfl hno | exact h.tried p _
      · exact ⟨h, rfl⟩

theorem makeDirs (p : Path) : SameTry (A.makeDirs p) (B.makeDirs p) :=
  h.makeDirsWithin _ p

theorem unlink (p : Path) : SameEnd SameEntries (A.unlink p) (B.unlink p) := by
  unfold FileSystem.unlink
  rw [h.find_eq]
  refine .bind_left (B.find false p) fun spot => ?_
  cases spot.name with
  | none => exact .error _
  | some name =>
    obtain ⟨hA, hB⟩ | ⟨a, b, hA, hB, hnode⟩ := h.nodes spot.location <;> rw [hA, hB]
    · exact .error _
    · cases hnode with
      | directory => exact .error _
      | file | link => exact .ok (h.erase spot.location)

theorem writeFile (p : Path) (content : ByteArray) :
    SameEnd SameEntries (A.writeFile p content none) (B.writeFile p content none) := by
  unfold FileSystem.writeFile
  rw [h.find_eq]
  refine .bind_left (B.find true p) fun spot => ?_
  have hfile : ∀ mode, SameNode (.file content mode A.tick.clock) (.file content mode B.tick.clock) :=
    fun mode => .file content mode _ _
  cases spot.name with
  | none => exact .error _
  | some name =>
    dsimp only [Option.getD_none]
    obtain ⟨hA, hB⟩ | ⟨a, b, hA, hB, hnode⟩ := h.tick.nodes spot.location <;> rw [hA, hB]
    · exact .ok (h.tick.put (hfile _) _)
    · cases hnode with
      | directory => exact .error _
      | file | link => exact .ok (h.tick.put (hfile _) _)

theorem replace (source target : Path) :
    SameEnd SameEntries (A.replace source target) (B.replace source target) := by
  unfold FileSystem.replace
  rw [h.locate_eq, h.locate_eq]
  dsimp only
  split_ifs
  · exact .error _
  · refine .bind_left _ fun old => .bind_left _ fun new => ?_
    rw [h.isDirectoryAt_eq]
    obtain ⟨hA, hB⟩ | ⟨a, b, hA, hB, hnode⟩ := h.nodes old.location <;> rw [hA, hB]
    · exact .error _
    · dsimp only
      split_ifs
      · exact .error _
      · exact .error _
      · exact .ok ((h.erase old.location).put hnode new.location)

theorem setMode (p : Path) (mode : Nat) : SameEnd SameEntries (A.setMode p mode) (B.setMode p mode) := by
  unfold FileSystem.setMode
  rw [h.find_eq]
  refine .bind_left (B.find true p) fun spot => ?_
  obtain ⟨hA, hB⟩ | ⟨a, b, hA, hB, hnode⟩ := h.nodes spot.location <;> rw [hA, hB]
  · exact .error _
  · cases hnode with
    | file content => exact .ok (h.put (.file content mode _ _) spot.location)
    | link | directory => exact .ok h

end SameEntries

end FileSystem

end TemplateTree
