import TemplateTree.Proofs.FileSystem.Twins
import TemplateTree.Proofs.Output.Stamps
import TemplateTree.Proofs.Output.Tree

/-!
# Writing into file systems whose clocks differ

A write goes the same way in two file systems with the same entries, provided that what is written is the
same in both. Below an output directory that holds no file from the beginning, it makes twins of twins.

* `stage_sameEntries`, `settle_sameEntries`: the parts of a write have the same entries.
* `SameWritten`: two writers that have done the same.
* `writeAtomically_twins`: a whole write below an output directory, with its body.
-/

namespace TemplateTree.Output

open FileSystem

variable {A B M N : FileSystem} {p temp root : Path} {D L : Location} {name text : String}
variable {segments : List String} {e : Epoch}

/-! ## The parts of a write -/

/-- The beginning of the temporary files does not depend on stamps. -/
theorem makeTemp_sameEntries (h : SameEntries A B) (directory : Path) (stem : String) :
    SameEnd (fun a b => SameEntries a.1 b.1 ∧ a.2 = b.2) (makeTemp A directory stem)
      (makeTemp B directory stem) := by
  unfold makeTemp
  rw [h.absolute_eq]
  refine .bind_left (B.absolute directory) fun directory => ?_
  dsimp only
  rw [h.find_eq]
  refine .bind_left (B.find false _) fun spot => ?_
  simp only [h.isNone_eq]
  split
  · exact .error _
  · exact .ok ⟨h.tick.put (.file _ _ _ _) _, rfl⟩

theorem stage_sameEntries (h : SameEntries A B) (p : Path) :
    SameEntries (stage A p).1 (stage B p).1 ∧ (stage A p).2 = (stage B p).2 := by
  have hdirs := h.makeDirs p.parent
  unfold stage ensureParent
  generalize A.makeDirs p.parent = a at hdirs ⊢
  generalize B.makeDirs p.parent = b at hdirs ⊢
  obtain ⟨M, error⟩ := a
  obtain ⟨N, error'⟩ := b
  obtain ⟨hMN, rfl⟩ : SameEntries M N ∧ error = error' := hdirs
  cases error with
  | some e => exact ⟨hMN, rfl⟩
  | none =>
    dsimp only [Option.map_none]
    obtain ⟨⟨S, temp⟩, ⟨T, temp'⟩, hS, hT, hST, rfl⟩ | ⟨e, hS, hT⟩ :=
      (makeTemp_sameEntries hMN p.parent (tempStem p)).ends <;> rw [hS, hT]
    · exact ⟨hST, rfl⟩
    · exact ⟨hMN, rfl⟩

theorem discardTemp_sameEntries (h : SameEntries A B) (temp : Path) :
    SameEntries (discardTemp A temp) (discardTemp B temp) := by
  unfold discardTemp
  obtain ⟨S, T, hS, hT, hST⟩ | ⟨e, hS, hT⟩ := (h.unlink temp).ends <;> rw [hS, hT]
  · exact hST
  · exact h

theorem commit_sameEntries (h : SameEntries A B) (temp p : Path) (text : String) :
    SameEnd SameEntries (commit A temp p text) (commit B temp p text) :=
  (h.writeFile temp text.toUTF8).bind fun _ _ hwritten => hwritten.replace temp p

/-- A write ends in the same way. -/
theorem settle_sameEntries (h : SameEntries A B) (temp p : Path) (mode : Nat) (text : String)
    (failure : Option Failure) :
    SameEntries (settle A temp p mode text failure).1 (settle B temp p mode text failure).1 ∧
      (settle A temp p mode text failure).2 = (settle B temp p mode text failure).2 := by
  have hdiscarded := discardTemp_sameEntries h temp
  unfold settle
  cases failure with
  | some failure => exact ⟨hdiscarded, rfl⟩
  | none =>
    dsimp only
    obtain ⟨S, T, hS, hT, hST⟩ | ⟨e, hS, hT⟩ := (commit_sameEntries h temp p text).ends <;> rw [hS, hT]
    · dsimp only
      obtain ⟨U, V, hU, hV, hUV⟩ | ⟨e, hU, hV⟩ := (hST.setMode p mode).ends <;> rw [hU, hV]
      · exact ⟨hUV, rfl⟩
      · exact ⟨discardTemp_sameEntries hST temp, rfl⟩
    · exact ⟨hdiscarded, rfl⟩

/-- What two writers have done is the same, but for what they leave behind. -/
structure SameWritten {σ τ : Type} (R : σ → τ → Prop) (w : Written σ) (w' : Written τ) : Prop where
  text : w.text = w'.text
  failure : w.failure = w'.failure
  state : R w.state w'.state

/-! ## The beginning of a write -/

theorem leadsTo_congr (h : SameEntries A B) {x y : Location} (hA : A.LeadsTo p x) (hB : B.LeadsTo p y) :
    x = y := by
  obtain ⟨-, s, hs, rfl⟩ := hA
  obtain ⟨-, s', hs', rfl⟩ := hB
  rw [h.locate_eq, hs'] at hs
  cases hs
  rfl

/-- Without the temporary file, the entries are still the same. -/
theorem sameEntries_of_withTemp (hM : M.node? (D ++ [name]) = none) (hN : N.node? (D ++ [name]) = none)
    (h : SameEntries (withTemp M D name) (withTemp N D name)) : SameEntries M N := by
  refine ⟨fun x => ?_, h.workDir, h.workDirLost⟩
  have hnode := h.node x
  rw [node?_withTemp, node?_withTemp] at hnode
  split_ifs at hnode with hx
  · rw [hx, hM, hN]
    exact .none
  · exact hnode

/-- The temporary file lies where no file was held. -/
theorem withTemp_twins (h : Twins e M N) (hfree : M.node? (D ++ [name]) = none)
    (hentries : SameEntries (withTemp M D name) (withTemp N D name)) :
    Twins e (withTemp M D name) (withTemp N D name) :=
  h.written hentries (fun hheld => h.there _ hheld hfree) (node?_withTemp M D name) (node?_withTemp N D name)
    (k := 1) rfl rfl

theorem steady_of_made (hmade : Made p A M) (hwork : M.workDir = A.workDir)
    (hlost : M.workDirLost = A.workDirLost) : Steady A M := by
  refine ⟨hmade.toExtends, fun x t hx => ?_, hwork, hlost⟩
  obtain heq | ⟨-, hdir, -⟩ := hmade.node x
  · rw [← heq, hx]
  · rw [hdir] at hx
    cases hx

/-- The temporary file is neither a directory nor a link, so that it does not matter where paths lead. -/
theorem steady_withTemp (hfree : M.node? (D ++ [name]) = none) :
    Steady M (withTemp M D name) ∧ Steady (withTemp M D name) M := by
  have hext := extends_withTemp hfree
  have hback : Extends (withTemp M D name) M := by
    constructor
    all_goals
      intro x
      rw [node?_withTemp]
      split_ifs <;> simp
  exact ⟨⟨hext, hback.link, rfl, rfl⟩, ⟨hback, hext.link, rfl, rfl⟩⟩

/-- Two writes that have begun: the directories are there, and a temporary file in each. -/
structure Begun (e : Epoch) (p : Path) (A B M N : FileSystem) (D : Location) (name : String) : Prop where
  made : Made p.parent A M
  made' : Made p.parent B N
  wellFormed : M.WellFormed
  wellFormed' : N.WellFormed
  free : IsFree M p D name
  free' : IsFree N p D name
  twins : Twins e M N
  staged : Twins e (withTemp M D name) (withTemp N D name)
  steady : Steady A (withTemp M D name)

/-- A write begins in both, or fails in both in the same way. -/
theorem stage_twins (hA : A.WellFormed) (hB : B.WellFormed) (hp : p.isAbsolute = true) (hdots : ".." ∉ p.parts)
    (h : Twins e A B) :
    (∃ M N failure, stage A p = (M, .error failure) ∧ stage B p = (N, .error failure) ∧ Twins e M N ∧
      Steady A M) ∨
    ∃ M N D name, stage A p = (withTemp M D name, .ok (p.parent.child name)) ∧
      stage B p = (withTemp N D name, .ok (p.parent.child name)) ∧ Begun e p A B M N D name := by
  obtain ⟨hentries, hresult⟩ := stage_sameEntries h.entries p
  have hlater := stage_later A p
  obtain ⟨M, hmade, hM, hstage⟩ := stage_cases hA hp hdots
  obtain ⟨N, hmade', hN, hstage'⟩ := stage_cases hB hp hdots
  obtain ⟨failure, hstage⟩ | ⟨D, name, hfree, hstage⟩ := hstage
  · obtain ⟨failure', hstage'⟩ | ⟨D', name', -, hstage'⟩ := hstage'
    · rw [hstage, hstage'] at hentries hresult
      cases hresult
      rw [hstage] at hlater
      exact .inl ⟨M, N, failure, hstage, hstage', h.made hmade hmade' hentries,
        steady_of_made hmade hlater.workDir hlater.workDirLost⟩
    · simp [hstage, hstage'] at hresult
  · obtain ⟨failure', hstage'⟩ | ⟨D', name', hfree', hstage'⟩ := hstage'
    · simp [hstage, hstage'] at hresult
    · rw [hstage, hstage'] at hentries hresult
      obtain rfl : name = name' := by simpa [Path.child] using hresult
      obtain rfl := leadsTo_congr hentries (hfree.leadsTo.mono (p := p.parent) hp hfree.toExtends)
        (hfree'.leadsTo.mono (p := p.parent) hp hfree'.toExtends)
      have htwins := h.made hmade hmade' (sameEntries_of_withTemp hfree.free hfree'.free hentries)
      rw [hstage] at hlater
      have hsteady : Steady A M := steady_of_made hmade hlater.workDir hlater.workDirLost
      exact .inr ⟨M, N, D, name, hstage, hstage', hmade, hmade', hM, hN, hfree, hfree', htwins,
        withTemp_twins htwins hfree.free hentries, hsteady.trans (steady_withTemp hfree.free).1⟩

/-! ## The end of a write -/

theorem settled_twins {mode : Nat} {outcome : Option Failure} (h : Twins e M N)
    (hA : Settled M p D mode text A outcome) (hB : Settled N p D mode text B outcome)
    (hheld : M.Names p (D ++ [p.name]) → ¬e.held (D ++ [p.name])) (hentries : SameEntries A B) :
    Twins e A B := by
  obtain ⟨hsome, hnodeA⟩ | ⟨hnone, hnames, -, hnodeA⟩ := hA.node
  · obtain ⟨-, hnodeB⟩ | ⟨hnone, -⟩ := hB.node
    · exact h.passed hentries hnodeA hnodeB hA.clock hB.clock
    · simp [hnone] at hsome
  · obtain ⟨hsome, -⟩ | ⟨-, -, -, hnodeB⟩ := hB.node
    · simp [hnone] at hsome
    · exact h.written hentries (hheld hnames) hnodeA hnodeB hA.clock hB.clock

/-- Where no link is replaced, paths lead where they led before the temporary file was made. -/
theorem settled_steady {mode : Nat} {outcome : Option Failure}
    (hlink : ∀ t, M.node? (D ++ [p.name]) ≠ some (.link t)) (h : Settled M p D mode text A outcome)
    (hwork : A.workDir = M.workDir) (hlost : A.workDirLost = M.workDirLost) : Steady M A := by
  obtain ⟨-, hsame⟩ | ⟨-, -, hdir, hwritten⟩ := h.node
  · exact ⟨⟨fun x hx => by rw [hsame, hx], fun x t hx => by rw [hsame, hx]⟩, fun x t hx => by rw [← hsame, hx],
      hwork, hlost⟩
  · refine ⟨⟨fun x hx => ?_, fun x t hx => ?_⟩, fun x t hx => ?_, hwork, hlost⟩
    · rw [hwritten, if_neg (by rintro rfl; exact hdir hx), hx]
    · rw [hwritten, if_neg (by rintro rfl; exact hlink t hx), hx]
    · rw [hwritten] at hx
      split_ifs at hx
      · cases hx
      · exact hx

/-- What a path below an output directory names is below it. -/
theorem IsTree.isPrefix_of_names (hp : root.isAbsolute = true) (h : IsTree root L A) (hsegs : ".." ∉ segments)
    {x : Location} (hx : A.Names (root.descend segments) x) : L <+: x := by
  by_cases hne : segments = []
  · rw [hne, Path.descend_nil] at hx
    exact hx.unique h.names ▸ List.prefix_rfl
  · rw [h.names_descend hp hsegs hne hx]
    exact List.prefix_append _ _

/-! ## Whole writes -/

/-- Bodies that write the same write the same files, if no file below the output directory was held. What
    relates the two writers has to last as long as paths lead where they lead. -/
theorem writeAtomically_twins {σ τ : Type} {R : FileSystem → σ → τ → Prop}
    (hR : ∀ {A B : FileSystem} {s t}, Steady A B → R A s t → R B s t) (hp : root.isAbsolute = true)
    (hdots : ".." ∉ root.parts) (hA : IsTree root L A) (hB : IsTree root L B) (h : Twins e A B)
    (hheld : ∀ x, e.held x → ¬L <+: x) (hsegs : ".." ∉ segments) (mode : Nat) {s : σ} {t : τ} (hst : R A s t)
    {body : FileSystem → σ → Written σ} {body' : FileSystem → τ → Written τ}
    (hbody : ∀ S T, Twins e S T → R S s t → SameWritten (R S) (body S s) (body' T t)) :
    let r := writeAtomically A (root.descend segments) mode s body
    let r' := writeAtomically B (root.descend segments) mode t body'
    Twins e r.1 r'.1 ∧ R r.1 r.2.1 r'.2.1 ∧ r.2.2 = r'.2.2 := by
  have hparts : ".." ∉ (root.descend segments).parts := by simp [Path.descend, hdots, hsegs]
  have hlater : Later A (writeAtomically A (root.descend segments) mode s body).1 :=
    writeAtomically_later (p := root.descend segments) hp mode s body
  unfold writeAtomically at hlater ⊢
  obtain ⟨M, N, failure, hstage, hstage', htwins, hsteady⟩ | ⟨M, N, D, name, hstage, hstage', hbegun⟩ :=
    stage_twins (p := root.descend segments) hA.wellFormed hB.wellFormed hp hparts h
  · simp only [hstage, hstage']
    exact ⟨htwins, hR hsteady hst, trivial⟩
  · simp only [hstage, hstage'] at hlater ⊢
    have hM := hA.of_made hp hbegun.made hbegun.wellFormed
    have hN := hB.of_made hp hbegun.made' hbegun.wellFormed'
    have hlink := hM.target_plain hp hsegs hbegun.free.leadsTo
    have hlink' := hN.target_plain hp hsegs hbegun.free'.leadsTo
    obtain ⟨htext, hfailure, hstate⟩ := hbody _ _ hbegun.staged (hR hbegun.steady hst)
    rw [← htext, ← hfailure]
    obtain ⟨hentries, houtcome⟩ := settle_sameEntries hbegun.staged.entries
      ((root.descend segments).parent.child name) (root.descend segments) mode (body (withTemp M D name) s).text
      (body (withTemp M D name) s).failure
    have hsettled := settle_settled (p := root.descend segments) hbegun.wellFormed hp hparts hbegun.free hlink mode
      (body (withTemp M D name) s).text (body (withTemp M D name) s).failure
    have hsettled' := settle_settled (p := root.descend segments) hbegun.wellFormed' hp hparts hbegun.free' hlink'
      mode (body (withTemp M D name) s).text (body (withTemp M D name) s).failure
    rw [← houtcome] at hsettled'
    refine ⟨settled_twins hbegun.twins hsettled hsettled' (fun hnames hx => ?_) hentries, hR ?_ hstate, houtcome⟩
    · exact hheld _ hx (hM.isPrefix_of_names hp hsegs hnames)
    · refine (steady_withTemp hbegun.free.free).2.trans (settled_steady hlink hsettled ?_ ?_)
      · exact hlater.workDir.trans hbegun.steady.workDir.symm
      · exact hlater.workDirLost.trans hbegun.steady.workDirLost.symm

end TemplateTree.Output
