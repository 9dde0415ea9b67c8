import TemplateTree.Proofs.Template.Library
import TemplateTree.Template.Engine

/-!
# Watching the cache

A library that is watched answers as it does otherwise, and it is noted whether an answer has shown that there
is a cache. The cache shows when a template is still taken from the file that it was first found in while
another file has come before that one on the search path; when evaluation looks at the keys of the cache, or at
the identity of what it holds; when what is kept of a module is changed in one place and is used in another; and
when a module is used again although it has been changed, or although not everything that was looked up for it
is still found.

* `Lookup`, `Basis`: what an evaluation rests on.
* `Watch`, `Watch.answer`: a library that is watched.
* `Watch.make_library`, `Watch.answer_library`: watching changes nothing.
* `Watch.isShown_answer`: what has been shown stays so.
-/

namespace TemplateTree.Template

/-! ## What an evaluation rests on -/

/-- What has been looked up: the first file for the name of a template, with its stamp, or what a file holds. -/
inductive Lookup
  | template (name : String) (found : Option (Path × Nat))
  | content (p : Path) (found : Except SystemError (Option ByteArray))

/-- Whether a library finds the same. -/
def Lookup.isCurrent (lib : Library) : Lookup → Bool
  | .template name found => lib.found? name == found
  | .content p found =>
    match lib.files.content? p, found with
    | .ok a, .ok b => a.map ByteArray.data == b.map ByteArray.data
    | .error e, .error f => decide (e = f)
    | _, _ => false

/-- What the outcome of an evaluation rests on: what has been looked up, how deep modules have been inside each
    other, and whether they would have been deeper if there had been room. -/
structure Basis where
  lookups : List Lookup
  height : Nat
  isCut : Bool

namespace Basis

/-- What an evaluation rests on when it begins. -/
def start : Basis :=
  ⟨[], 0, false⟩

/-- What an evaluation rests on together with a module that it uses. -/
def withModule (b module : Basis) : Basis :=
  ⟨module.lookups ++ b.lookups, max b.height (module.height + 1), b.isCut || module.isCut⟩

end Basis

/-! ## A library that is watched -/

/-- A library that is watched: what the evaluation rests on that asks, what the modules rest on that are kept, and
    whether the cache has shown. -/
structure Watch where
  library : Library
  basis : Basis
  bases : List (String × Basis)
  isShown : Bool

/-- Whether a template is kept although another file has come before its own. -/
def Library.isOvertaken (lib : Library) (name : String) : Bool :=
  (lib.onShelf? name).any fun kept => (lib.found? name).map (·.1) != some kept.origin

namespace Watch

variable (w : Watch)

/-- Notes what is looked up. -/
def looked (lookup : Lookup) : Watch :=
  { w with basis := { w.basis with lookups := lookup :: w.basis.lookups } }

/-- Notes whether the cache shows. -/
def shows (isShown : Bool) : Watch :=
  { w with isShown := w.isShown || isShown }

/-- Notes that a template is looked up. -/
def sought (name : String) : Watch :=
  (w.looked (.template name (w.library.found? name))).shows (w.library.isOvertaken name)

/-- The template under a name. -/
def template (id : TemplateId) (name shownName : String) : Except Fault Loaded × Watch :=
  let (answer, library) := w.library.template id name shownName
  (answer, { w.sought name with library })

/-- Uses a module again. -/
def again (name : String) (kept : KeptModule) (cells : Array Cell) : Made × Watch :=
  let module := (named? w.bases name).getD .start
  let isFaithful := kept.cells.isSome && w.library.isUnchanged kept && !module.isCut
    && module.lookups.all (·.isCurrent w.library)
  let (made, library) := w.library.again kept cells
  (made, { (w.sought name).shows (!isFaithful) with library, basis := (w.sought name).basis.withModule module })

/-- The answer to a question, if there is a way to evaluate modules. -/
def answerWith (make : Watch → TemplateId → String → Array Cell → Made × Watch) :
    (q : Question) → q.Answer × Watch
  | .content p => (w.library.files.content? p, w.looked (.content p (w.library.files.content? p)))
  | .template id name shownName => w.template id name shownName
  | .isKeyed => (w.library.config.cacheEnabled, w.shows true)
  | .isSame a b => (w.library.isSame a b, w.shows (w.library.isSame a b && a != b))
  | .changes id =>
    let (others, library) := w.library.change id
    (others, { w.shows (!others.isEmpty) with library })
  | .module id name cells =>
    match w.library.module? name with
    | some kept => w.again name kept cells
    | none => make w id name cells

/-- Before an evaluation in a machine of its own. -/
def begun (id : TemplateId) : Watch :=
  { w with library := w.library.begun id, basis := .start }

/-- After an evaluation in a machine of its own. -/
def ended (after : Watch) (name : String) (cells : Array Cell) (made : Made) : Watch where
  library := w.library.ended after.library name cells made
  basis := w.basis.withModule after.basis
  bases :=
    match made.result with
    | .ok _ => setNamed name after.basis after.bases
    | .error _ => after.bases
  isShown := after.isShown

end Watch

/-- What a template exports, with modules inside each other up to some depth. What has to be evaluated among the
    cells that there are shows the cache. -/
def Watch.make : Nat → Watch → TemplateId → String → Array Cell → Made × Watch
  | 0, w, id, name, cells =>
    let (made, library) := w.library.make 0 id name cells
    (made, { w with library, basis := { w.basis with isCut := true } })
  | depth + 1, w, id, name, cells =>
    match w.template id name name with
    | (.error f, w) => (⟨.error (f, []), cells⟩, { w with basis := w.basis.withModule .start })
    | (.ok l, read) =>
      let (result, m, after) :=
        (moduleAlone read.library.config.strictUndefined l).playWith (answerWith · (make depth)) (read.begun id)
      if after.library.reachesOut then
        let (made, library) := w.library.make (depth + 1) id name cells
        (made, { w with library, isShown := true })
      else ((Made.of result m).behind cells, read.ended after name cells (.of result m))

/-- The answer to a question. -/
def Watch.answer (w : Watch) (q : Question) : q.Answer × Watch :=
  w.answerWith (make depthLimit) q

/-! ## Watching changes nothing -/

namespace Watch

variable (w : Watch)

theorem answerWith_library {make : Watch → TemplateId → String → Array Cell → Made × Watch}
    {make' : Library → TemplateId → String → Array Cell → Made × Library}
    (hmake : ∀ w id name cells, (make w id name cells).1 = (make' w.library id name cells).1 ∧
      (make w id name cells).2.library = (make' w.library id name cells).2) (q : Question) :
    (w.answerWith make q).1 = (w.library.answerWith make' q).1 ∧
      (w.answerWith make q).2.library = (w.library.answerWith make' q).2 := by
  cases q with
  | module id name cells =>
    simp only [Watch.answerWith, Library.answerWith]
    cases w.library.module? name with
    | some kept => exact ⟨rfl, rfl⟩
    | none => exact hmake w id name cells
  | _ => exact ⟨rfl, rfl⟩

theorem make_library (depth : Nat) (id : TemplateId) (name : String) (cells : Array Cell) :
    (w.make depth id name cells).1 = (w.library.make depth id name cells).1 ∧
      (w.make depth id name cells).2.library = (w.library.make depth id name cells).2 := by
  induction depth generalizing w id name cells with
  | zero => exact ⟨rfl, rfl⟩
  | succ depth ih =>
    unfold Watch.make
    have htemplate : (w.template id name name).1 = (w.library.template id name name).1 ∧
      (w.template id name name).2.library = (w.library.template id name name).2 := ⟨rfl, rfl⟩
    generalize w.template id name name = answered at htemplate ⊢
    obtain ⟨answer, read⟩ := answered
    obtain ⟨hanswer, hread⟩ := htemplate
    dsimp only at hanswer hread
    cases answer with
    | error f =>
      unfold Library.make
      rw [← Prod.eta (w.library.template id name name), ← hanswer, ← hread]
      exact ⟨rfl, rfl⟩
    | ok l =>
      dsimp only
      split
      · exact ⟨rfl, rfl⟩
      · next hinside =>
        have halike : ∀ (w : Watch) lib q, w.library = lib →
            (w.answerWith (make depth) q).1 = (lib.answerWith (Library.make depth) q).1 ∧
              (w.answerWith (make depth) q).2.library = (lib.answerWith (Library.make depth) q).2 :=
          fun w lib q h => h ▸ w.answerWith_library ih q
        obtain ⟨hresult, hmachine, hafter⟩ := Script.playWith_alike (R := fun (w : Watch) lib => w.library = lib) halike
          (moduleAlone read.library.config.strictUndefined l)
          (show (read.begun id).library = read.library.begun id from rfl)
        unfold Library.make
        rw [← Prod.eta (w.library.template id name name), ← hanswer, ← hread]
        dsimp only
        rw [← hresult, ← hmachine, ← hafter, if_neg hinside]
        exact ⟨rfl, rfl⟩

theorem answer_library (q : Question) :
    (w.answer q).1 = (w.library.answer q).1 ∧ (w.answer q).2.library = (w.library.answer q).2 :=
  w.answerWith_library (make_library · depthLimit) q

/-! ## What has been shown -/

theorem isShown_answerWith {make : Watch → TemplateId → String → Array Cell → Made × Watch}
    (hmake : ∀ w id name cells, w.isShown = true → (make w id name cells).2.isShown = true) {w : Watch}
    (h : w.isShown = true) (q : Question) : (w.answerWith make q).2.isShown = true := by
  have hshows : ∀ (v : Watch) b, v.isShown = true → (v.shows b).isShown = true := fun v b hv => by
    simp [shows, hv]
  cases q with
  | content p => exact h
  | template id name shownName => exact hshows _ _ h
  | isKeyed => exact hshows _ _ h
  | isSame a b => exact hshows _ _ h
  | changes id => exact hshows _ _ h
  | module id name cells =>
    simp only [Watch.answerWith]
    cases w.library.module? name with
    | some kept => exact hshows _ _ (hshows _ _ h)
    | none => exact hmake w id name cells h

theorem isShown_make (depth : Nat) {w : Watch} (h : w.isShown = true) (id : TemplateId) (name : String)
    (cells : Array Cell) : (w.make depth id name cells).2.isShown = true := by
  induction depth generalizing w id name cells with
  | zero => exact h
  | succ depth ih =>
    unfold Watch.make
    have hread : (w.template id name name).2.isShown = true := by simp [template, sought, shows, looked, h]
    generalize w.template id name name = answered at hread ⊢
    obtain ⟨answer, read⟩ := answered
    cases answer with
    | error f => exact hread
    | ok l =>
      dsimp only
      split
      · rfl
      · have hanswer : ∀ (w : Watch) q, w.isShown = true → (w.answerWith (make depth) q).2.isShown = true :=
          fun w q h => isShown_answerWith (fun w id name cells h => ih h id name cells) h q
        exact (moduleAlone read.library.config.strictUndefined l).playWith_preserves
          (P := fun w : Watch => w.isShown = true) hanswer (w := read.begun id) hread

/-- What has not been shown in the end has not been shown before. -/
theorem isShown_playWith {α : Type} {depth : Nat} {x : Script α} {w : Watch}
    (h : (x.playWith (answerWith · (make depth)) w).2.2.isShown = false) : w.isShown = false := by
  refine Bool.eq_false_iff.2 fun hshown => Bool.false_ne_true (h.symm.trans ?_)
  exact x.playWith_preserves (P := fun w : Watch => w.isShown = true)
    (fun w q h => isShown_answerWith (fun w id name cells h => isShown_make depth h id name cells) h q) hshown

end Watch

end TemplateTree.Template
