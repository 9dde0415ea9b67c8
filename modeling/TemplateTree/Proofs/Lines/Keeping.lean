import TemplateTree.Proofs.Template.Machine
import TemplateTree.Template.Evaluator

/-!
# Lines of code in the machine

The code that a machine holds comes from texts, and so does every place at which evaluation stands. For any
choice of lines that the texts under a name have, a computation that is given code with such lines only leaves
only such lines behind, and says no other in a fault.

* `Lines`: such a choice.
* `Machine.Within`: a machine whose code and places have such lines.
* `Eval.Gives`: a computation that leaves them so, and what it gives.
* `Eval.Keeps`, `Eval.KeepsIn`: the same where nothing is said about the result.
-/

namespace TemplateTree.Template

variable {α β : Type}

/-- Which lines there are: those of texts by the name that they are evaluated under, and those of faults that
    know their line, by what else such a fault says. Every text has a first line. -/
structure Lines where
  inFile : String → Nat → Prop
  inFault : FaultKind → String → Nat → Prop
  first : ∀ file, inFile file 1

/-- The lines that every fault may have. -/
def Lines.inText (L : Lines) (line : Nat) : Prop :=
  ∀ kind message, L.inFault kind message line

variable {L : Lines}

/-! ## Faults and code -/

/-- A fault that knows its line is one of some faults. -/
def Fault.Within (ok : FaultKind → String → Nat → Prop) : Fault → Prop
  | .inText kind message line => ok kind message line
  | .raised .. | .system .. => True

/-- A fault that knows its line has one of some lines. -/
def Fault.On (ok : Nat → Prop) (f : Fault) : Prop :=
  f.Within fun _ _ => ok

section

variable (ok : Nat → Prop)

/-- The lines of a loop that its faults are reported with. -/
structure LoopHead.Within (head : LoopHead) : Prop where
  line : ok head.line
  test : ∀ test ∈ head.test, ok test.1

/-- All lines that faults in steps are reported with are among some lines. -/
inductive Code.Within : Code → Prop
  | enter loads : Within (.enter loads)
  | leave refs : Within (.leave refs)
  | emit text : Within (.emit text)
  | print {line} (hline : ok line) escaping e : Within (.print line escaping e)
  | unlessExtended {body} (hbody : ∀ c ∈ body, Within c) : Within (.unlessExtended body)
  | failIfExtended : Within .failIfExtended
  | extend {line} (hline : ok line) e : Within (.extend line e)
  | block {line} (hline : ok line) name locals isRequired : Within (.block line name locals isRequired)
  | ifElse {line} (hline : ok line) test {yes no} (hyes : ∀ c ∈ yes, Within c) (hno : ∀ c ∈ no, Within c) :
      Within (.ifElse line test yes no)
  | forLoop {head} (hhead : head.Within ok) {body} (hbody : ∀ c ∈ body, Within c) hasOtherwise {otherwise}
      (hotherwise : ∀ c ∈ otherwise, Within c) : Within (.forLoop head body hasOtherwise otherwise)
  | bind {line} (hline : ok line) target e : Within (.bind line target e)
  | requireNamespaces refs : Within (.requireNamespaces refs)
  | publish vars : Within (.publish vars)
  | conceal vars : Within (.conceal vars)
  | capture {line} (hline : ok line) target filter escaping {body} (hbody : ∀ c ∈ body, Within c) :
      Within (.capture line target filter escaping body)
  | filtered {line} (hline : ok line) filter escaping {body} (hbody : ∀ c ∈ body, Within c) :
      Within (.filtered line filter escaping body)
  | defineMacro target {signature} (hsignature : ok signature.line) {body} (hbody : ∀ c ∈ body, Within c) :
      Within (.defineMacro target signature body)
  | callMacro {line} (hline : ok line) call {signature} (hsignature : ok signature.line) {body}
      (hbody : ∀ c ∈ body, Within c) : Within (.callMacro line call signature body)
  | inclusion {line} (hline : ok line) e ignoreMissing locals depth :
      Within (.inclusion line e ignoreMissing locals depth)
  | importAs {line} (hline : ok line) e target locals : Within (.importAs line e target locals)
  | importNames {line} (hline : ok line) e names locals : Within (.importNames line e names locals)
  | escapeIf {line} (hline : ok line) e {body} (hbody : ∀ c ∈ body, Within c) :
      Within (.escapeIf line e body)

/-- The lines of a section and its steps are among some lines. -/
structure Section.Within (s : Section) : Prop where
  line : ok s.line
  body : ∀ c ∈ s.body, c.Within ok

/-- The lines of a program are among some lines. -/
structure Program.Within (p : Program) : Prop where
  root : p.root.Within ok
  endLine : ok p.endLine
  blocks : ∀ b ∈ p.blocks, b.2.Within ok

end

section

variable {ok : FaultKind → String → Nat → Prop}

@[grind ←] theorem Fault.within_raised (kind : FaultKind) (message : String) : (raised kind message).Within ok :=
  trivial

@[grind ←] theorem Fault.within_type (message : String) : (type message).Within ok := trivial

@[grind ←] theorem Fault.within_value (message : String) : (value message).Within ok := trivial

@[grind ←] theorem Fault.within_undefined (message : String) : (undefined message).Within ok := trivial

@[grind ←] theorem Fault.within_runtime (message : String) : (runtime message).Within ok := trivial

@[grind ←] theorem Fault.within_ofSystem (e : SystemError) : (ofSystem e).Within ok := by
  cases e <;> trivial

end

/-! ## Machines -/

section

variable (L : Lines)

/-- The lines of a macro are lines of its file. -/
structure Procedure.Within (p : Procedure) : Prop where
  signature : L.inFile p.site.file p.signature.line
  body : ∀ c ∈ p.body, c.Within (L.inFile p.site.file)

/-- The lines of a recursive loop are lines of its file. -/
structure Recursion.Within (r : Recursion) : Prop where
  head : r.head.Within (L.inFile r.site.file)
  body : ∀ c ∈ r.body, c.Within (L.inFile r.site.file)
  otherwise : ∀ c ∈ r.otherwise, c.Within (L.inFile r.site.file)

/-- The lines of a loop that calls itself are lines of its file. -/
def LoopState.Within (l : LoopState) : Prop :=
  ∀ r, l.recursion = some r → r.Within L

/-- The line of the test of a loop is a line of its file. -/
def Iter.Within : Iter → Prop
  | .tested _ site _ line _ => L.inFile site.file line
  | .done | .items _ | .live .. | .range .. | .deferred .. | .mapped .. | .selected .. | .distinct .. => True

/-- The lines of a loaded template are lines of its file. -/
def Loaded.Within (l : Loaded) : Prop :=
  l.program.Within (L.inFile l.file)

/-- The code in a cell has lines of its file. -/
def Cell.Within : Cell → Prop
  | .procedure p => p.Within L
  | .loop l => l.Within L
  | .iterator i => i.Within L
  | .template l => l.Within L
  | .list _ | .dict _ | .fields _ | .cycler .. | .joiner .. | .moduleOf _ | .block .. | .blocks _ | .scope _
  | .context _ => True

/-- All code that a machine holds, and all places at which it stands, have lines of their files. -/
structure Machine.Within (m : Machine) : Prop where
  cells : ∀ c ∈ m.cells, c.Within L
  frames : ∀ f ∈ m.frames, L.inFile f.file f.line

/-- The files in which evaluation stands, the innermost first. -/
def Machine.files (m : Machine) : List String :=
  m.frames.map (·.file)

end

/-! ## Computations -/

/-- All code that an evaluation has made, and a fault that it has come to, have lines of their files. -/
structure Made.Within (L : Lines) (made : Made) : Prop where
  cells : ∀ c ∈ made.cells, c.Within L
  fault : ∀ e, made.result = .error e → e.1.Within L.inFault ∧ ∀ f ∈ e.2, L.inFile f.file f.line

/-- The code in a question has lines of its file. -/
def Question.Within (L : Lines) : Question → Prop
  | .module _ _ cells => ∀ c ∈ cells, c.Within L
  | .content _ | .template .. | .isKeyed | .isSame .. | .changes _ => True

/-- What a question can be answered: a template with lines of its file, or a fault with one of the lines; or a module
    whose code has lines of its file. -/
def Question.Fits (L : Lines) : (q : Question) → q.Answer → Prop
  | .template .., .ok l => l.Within L
  | .template .., .error f => f.Within L.inFault
  | .module .., made => made.Within L
  | .content _, _ | .isKeyed, _ | .isSame .., _ | .changes _, _ => True

/-- Every end that a computation can come to with such answers is one of some ends. -/
def Script.Always (L : Lines) (ended : α → Machine → Prop) (failed : Fault → Machine → Prop) : Script α → Prop
  | .ok a m => ended a m
  | .error f m => failed f m
  | .ask q next => q.Within L ∧ ∀ answer, q.Fits L answer → (next answer).Always L ended failed

namespace Script.Always

variable {ended ended' : α → Machine → Prop} {failed failed' : Fault → Machine → Prop} {x : Script α}

theorem imp (h : x.Always L ended failed) (hended : ∀ a m, ended a m → ended' a m)
    (hfailed : ∀ f m, failed f m → failed' f m) : x.Always L ended' failed' := by
  induction x with
  | ok a m => exact hended a m h
  | error f m => exact hfailed f m h
  | ask q next ih => exact ⟨h.1, fun answer ha => ih answer (h.2 answer ha)⟩

theorem andThen {then' : β → Machine → Prop} {f : α → Machine → Script β} (h : x.Always L ended failed)
    (hf : ∀ a m, ended a m → (f a m).Always L then' failed) : (x.andThen f).Always L then' failed := by
  induction x with
  | ok a m => exact hf a m h
  | error f m => exact h
  | ask q next ih => exact ⟨h.1, fun answer ha => ih answer (h.2 answer ha)⟩

theorem caught {frames : List Frame} {buffers : List (List Value)} {ended' : Except Fault α → Machine → Prop}
    (h : x.Always L ended failed) (hended : ∀ a m, ended a m → ended' (.ok a) m)
    (hcaught : ∀ f m, failed f m → ended' (.error f) { m with frames, buffers }) :
    (x.caught frames buffers).Always L ended' failed' := by
  induction x with
  | ok a m => exact hended a m h
  | error f m => exact hcaught f m h
  | ask q next ih => exact ⟨h.1, fun answer ha => ih answer (h.2 answer ha)⟩

end Script.Always

namespace Eval

/-- A computation, in the given file if there is one, leaves the lines in a machine as they are to be, ends in the
    file that it began in, and gives only what it is said to give. -/
def Gives (L : Lines) (here : Option String) (x : Eval α) (given : α → Prop) : Prop :=
  ∀ m : Machine, m.Within L → (∀ file ∈ here, m.files.head? = some file) →
    (x m).Always L (fun a m' => given a ∧ m'.Within L ∧ m'.files = m.files)
      (fun f m' => f.Within L.inFault ∧ m'.Within L)

/-- A computation leaves the lines in a machine as they are to be, wherever it begins. -/
def Keeps (L : Lines) (x : Eval α) : Prop :=
  x.Gives L none fun _ => True

/-- A computation that begins in a file leaves the lines in a machine as they are to be. -/
def KeepsIn (L : Lines) (file : String) (x : Eval α) : Prop :=
  x.Gives L (some file) fun _ => True

variable {here : Option String} {x : Eval α} {f : α → Eval β} {given : α → Prop} {given' : β → Prop}
  {file : String}

namespace Gives

theorem bind (h : x.Gives L here given) (hf : ∀ a, given a → (f a).Gives L here given') :
    (x >>= f).Gives L here given' := by
  intro m hm hhere
  rw [run_bind]
  refine (h m hm hhere).andThen fun a m' ⟨ha, hm', hfiles⟩ => ?_
  refine (hf a ha m' hm' (hfiles ▸ hhere)).imp (fun b m'' ⟨hb, hm'', hfiles'⟩ => ?_) (fun _ _ h => h)
  exact ⟨hb, hm'', hfiles'.trans hfiles⟩

theorem pure {a : α} (ha : given a) : (pure a : Eval α).Gives L here given :=
  fun _ hm _ => ⟨ha, hm, rfl⟩

theorem throw {f : Fault} (hf : f.Within L.inFault) : (throw f : Eval α).Gives L here given :=
  fun _ hm _ => ⟨hf, hm⟩

theorem imp {given' : α → Prop} (h : x.Gives L here given) (himp : ∀ a, given a → given' a) :
    x.Gives L here given' :=
  fun m hm hhere => (h m hm hhere).imp (fun _ _ ⟨ha, hrest⟩ => ⟨himp _ ha, hrest⟩) fun _ _ h => h

/-- What holds wherever a computation begins holds in a file. -/
theorem inside (h : x.Gives L none given) : x.Gives L here given :=
  fun m hm _ => h m hm nofun

theorem keeps (h : x.Gives L none given) : x.Keeps L :=
  h.imp fun _ _ => trivial

/-- A repetition keeps what its steps keep. -/
theorem repeatUntil {step : α → Eval (α ⊕ β)} (h : ∀ a, (step a).Gives L here fun _ => True) (a : α) :
    (repeatUntil step a).Gives L here fun _ => True := by
  unfold Template.repeatUntil
  generalize roundLimit = n
  induction n generalizing a with
  | zero => exact .throw (f := .raised .recursion _) trivial
  | succ n ih =>
    refine (h a).bind fun
      | .inl a, _ => ih a
      | .inr b, _ => .pure trivial

end Gives

/-! ## Computations about which no more is said -/

namespace Keeps

@[grind ←] theorem bind (h : x.Keeps L) (hf : ∀ a, (f a).Keeps L) : (x >>= f).Keeps L :=
  Gives.bind h fun a _ => hf a

@[grind ←] theorem pure (a : α) : (pure a : Eval α).Keeps L :=
  Gives.pure trivial

@[grind ←] theorem throw {f : Fault} (hf : f.Within L.inFault) : (throw f : Eval α).Keeps L :=
  Gives.throw hf

@[grind ←] theorem map (g : α → β) (h : x.Keeps L) : (g <$> x).Keeps L := by
  rw [map_eq_pure_bind]
  exact h.bind fun a => .pure (g a)

@[grind ←] theorem mapM {step : α → Eval β} (h : ∀ a, (step a).Keeps L) (l : List α) : (l.mapM step).Keeps L := by
  induction l with
  | nil => exact .pure []
  | cons a l ih =>
    rw [List.mapM_cons]
    exact (h a).bind fun b => ih.bind fun bs => .pure (b :: bs)

@[grind ←] theorem foldlM {step : β → α → Eval β} (h : ∀ b a, (step b a).Keeps L) (l : List α) (b : β) :
    (l.foldlM step b).Keeps L := by
  induction l generalizing b with
  | nil => exact .pure b
  | cons a l ih =>
    rw [List.foldlM_cons]
    exact (h b a).bind ih

@[grind ←] theorem forM {step : α → Eval Unit} (h : ∀ a, (step a).Keeps L) (l : List α) : (l.forM step).Keeps L := by
  induction l with
  | nil => exact .pure ()
  | cons a l ih => exact (h a).bind fun _ => ih

@[grind ←] theorem filterM {step : α → Eval Bool} (h : ∀ a, (step a).Keeps L) (l : List α) :
    (l.filterM step).Keeps L := by
  have haux : ∀ acc, (l.filterAuxM step acc).Keeps L := by
    induction l with
    | nil => exact fun acc => .pure acc
    | cons a l ih => exact fun acc => (h a).bind fun b => ih (cond b (a :: acc) acc)
  exact (haux []).bind fun as => .pure as.reverse

@[grind ←] theorem repeatUntil {step : α → Eval (α ⊕ β)} (h : ∀ a, (step a).Keeps L) (a : α) :
    (repeatUntil step a).Keeps L :=
  Gives.repeatUntil h a

/-- After a fault that has been caught, the places are what they were. -/
@[grind ←] theorem attempt (h : x.Keeps L) : (attempt x).Keeps L := by
  intro m hm hhere
  refine (h m hm hhere).caught (fun a m' h => ⟨trivial, h.2⟩) fun f m' ⟨_, hm'⟩ => ?_
  exact ⟨trivial, ⟨hm'.cells, hm.frames⟩, rfl⟩

/-- Where a fault that has been caught matters. -/
@[grind ←] theorem bind_attempt {k : Except Fault α → Eval β} (h : x.Keeps L) (hok : ∀ a, (k (.ok a)).Keeps L)
    (herror : ∀ f : Fault, f.Within L.inFault → (k (.error f)).Keeps L) : (Template.attempt x >>= k).Keeps L := by
  have hgives : (Template.attempt x).Gives L none fun r => ∀ f, r = .error f → f.Within L.inFault := by
    intro m hm hhere
    refine (h m hm hhere).caught (fun a m' h => ⟨nofun, h.2⟩) fun f m' ⟨hf, hm'⟩ => ?_
    exact ⟨fun g hg => by cases hg; exact hf, ⟨hm'.cells, hm.frames⟩, rfl⟩
  refine hgives.bind fun
    | .ok a, _ => hok a
    | .error f, hf => herror f (hf f rfl)

theorem keepsIn (h : x.Keeps L) : x.KeepsIn L file :=
  Gives.inside h

end Keeps

namespace KeepsIn

theorem bind (h : x.KeepsIn L file) (hf : ∀ a, (f a).KeepsIn L file) : (x >>= f).KeepsIn L file :=
  Gives.bind h fun a _ => hf a

theorem repeatUntil {step : α → Eval (α ⊕ β)} (h : ∀ a, (step a).KeepsIn L file) (a : α) :
    (repeatUntil step a).KeepsIn L file :=
  Gives.repeatUntil h a

end KeepsIn

end Eval

/-! ## Operations of the machine -/

section

open Eval

theorem Gives.get {here : Option String} : (get : Eval Machine).Gives L here (·.Within L) :=
  fun _ hm _ => ⟨hm, hm, rfl⟩

@[grind ←] theorem Eval.Keeps.get : (get : Eval Machine).Keeps L :=
  Gives.get.keeps

/-- A change of the machine that leaves the lines as they are to be. -/
theorem Eval.Keeps.modify {f : Machine → Machine}
    (h : ∀ m : Machine, m.Within L → (f m).Within L ∧ (f m).files = m.files) :
    (modify f : Eval Unit).Keeps L :=
  fun m hm _ => ⟨trivial, h m hm⟩

theorem Eval.Gives.ask {q : Question} (hq : q.Within L) : (Eval.ask q).Gives L none (q.Fits L) :=
  fun _ hm _ => ⟨hq, fun _ ha => ⟨ha, hm, rfl⟩⟩

theorem Eval.Keeps.ask {q : Question} (hq : q.Within L) : (Eval.ask q).Keeps L :=
  (Gives.ask hq).keeps

@[grind ←] theorem ask_content_keeps (p : Path) : (Eval.ask (.content p)).Keeps L :=
  .ask trivial

@[grind ←] theorem ask_isKeyed_keeps : (Eval.ask .isKeyed).Keeps L :=
  .ask trivial

@[grind ←] theorem ask_isSame_keeps (a b : CellId) : (Eval.ask (.isSame a b)).Keeps L :=
  .ask trivial

theorem cell_gives (id : CellId) : (cell id).Gives L none (·.Within L) := by
  refine Gives.bind Gives.get fun m hm => .pure ?_
  cases h : m.cells[id]? with
  | none => trivial
  | some c => exact hm.cells c (Array.mem_of_getElem? h)

@[grind ←] theorem cell_keeps (id : CellId) : (cell id).Keeps L :=
  (cell_gives id).keeps

/-- Where the code in a cell matters. -/
@[grind ←] theorem Eval.Keeps.bind_cell {id : CellId} {f : Cell → Eval α} (h : ∀ c, c.Within L → (f c).Keeps L) :
    (cell id >>= f).Keeps L :=
  (cell_gives id).bind h

@[grind ←] theorem alloc_keeps {c : Cell} (hc : c.Within L) : (alloc c).Keeps L := by
  intro m hm _
  refine ⟨trivial, ⟨fun d hd => ?_, hm.frames⟩, rfl⟩
  rcases Array.mem_push.1 hd with hd | rfl
  · exact hm.cells d hd
  · exact hc

theorem forall_mem_setAll {cells : Array Cell} (h : ∀ d ∈ cells, d.Within L) {c : Cell} (hc : c.Within L)
    (ids : List CellId) : ∀ d ∈ ids.foldl (·.setIfInBounds · c) cells, d.Within L := by
  induction ids generalizing cells with
  | nil => exact h
  | cons id ids ih => exact ih fun d hd => (Array.mem_or_eq_of_mem_setIfInBounds hd).elim (h d) (· ▸ hc)

@[grind ←] theorem setCell_keeps {c : Cell} (hc : c.Within L) (id : CellId) : (setCell id c).Keeps L := by
  have hset : ∀ ids : List CellId, (modify fun m : Machine => { m with
      cells := ids.foldl (·.setIfInBounds · c) (m.cells.setIfInBounds id c) } : Eval Unit).Keeps L := fun ids =>
    .modify fun m hm => ⟨⟨forall_mem_setAll hm.cells hc (id :: ids), hm.frames⟩, rfl⟩
  refine Keeps.bind .get fun m => ?_
  split
  · exact Keeps.bind (.ask trivial) hset
  · exact Keeps.bind (.pure _) hset

@[grind ←] theorem isCell_keeps (a b : CellId) : (isCell a b).Keeps L := by
  unfold isCell
  grind

@[grind ←] theorem isAmong_keeps (id : CellId) (ids : List CellId) : (isAmong id ids).Keeps L := by
  induction ids with
  | nil => exact .pure false
  | cons a ids ih =>
    unfold isAmong
    grind

@[grind ←] theorem newList_keeps (items : List Value) : (newList items).Keeps L := by
  unfold newList
  exact Keeps.bind (alloc_keeps trivial) fun _ => .pure _

@[grind ←] theorem newDict_keeps (entries : List (Value × Value)) : (newDict entries).Keeps L := by
  unfold newDict
  exact Keeps.bind (alloc_keeps trivial) fun _ => .pure _

@[grind ←] theorem newIter_keeps {i : Iter} (hi : i.Within L) : (newIter i).Keeps L := by
  unfold newIter
  exact Keeps.bind (alloc_keeps hi) fun _ => .pure _

@[grind ←] theorem listItems_keeps (id : CellId) : (listItems id).Keeps L := by
  unfold listItems
  grind

@[grind ←] theorem dictEntries_keeps (id : CellId) : (dictEntries id).Keeps L := by
  unfold dictEntries
  grind

@[grind ←] theorem fieldsOf_keeps (id : CellId) : (fieldsOf id).Keeps L := by
  unfold fieldsOf
  grind

@[grind ←] theorem contextAt_keeps (id : CellId) : (contextAt id).Keeps L := by
  unfold contextAt
  grind

@[grind ←] theorem modifyContext_keeps (id : CellId) (f : Context → Context) : (modifyContext id f).Keeps L :=
  Keeps.bind (contextAt_keeps id) fun _ => setCell_keeps (c := .context _) trivial id

@[grind ←] theorem scopeAt_keeps (id : CellId) : (scopeAt id).Keeps L := by
  unfold scopeAt
  grind

@[grind ←] theorem modifyScope_keeps (id : CellId) (f : Scope → Scope) : (modifyScope id f).Keeps L :=
  Keeps.bind (scopeAt_keeps id) fun _ => setCell_keeps (c := .scope _) trivial id

/-- What stands for a template that is not there has the line of an empty text. -/
theorem templateAt_gives (id : TemplateId) : (templateAt id).Gives L none (·.Within L) := by
  refine Gives.bind (cell_gives id) fun c hc => ?_
  split
  next l => exact .pure hc
  next => exact .pure ⟨⟨L.first _, nofun⟩, L.first _, nofun⟩

@[grind ←] theorem templateAt_keeps (id : TemplateId) : (templateAt id).Keeps L :=
  (templateAt_gives id).keeps

theorem addTemplate_keeps {l : Loaded} (hl : l.Within L) : (addTemplate l).Keeps L :=
  alloc_keeps (c := .template l) hl

@[grind ←] theorem undefinedValue_keeps (message : String) : (undefinedValue message).Keeps L := by
  unfold undefinedValue
  grind

@[grind ←] theorem write_keeps (v : Value) : (write v).Keeps L := by
  refine .modify fun m hm => ?_
  split <;> exact ⟨⟨hm.cells, hm.frames⟩, rfl⟩

@[grind ←] theorem writeAt_keeps (depth : Nat) (v : Value) : (writeAt depth v).Keeps L :=
  .modify fun _ hm => ⟨⟨hm.cells, hm.frames⟩, rfl⟩

@[grind ←] theorem concat_keeps (pieces : List Value) : (concat pieces).Keeps L := by
  unfold concat
  grind

end

/-! ## Places -/

section

open Eval

variable {file : String} {act : Eval α} {here : Option String}

/-- What is collected while something is printed changes no place. -/
theorem captured_gives {act : Eval Unit} (h : act.Gives L here fun _ => True) :
    (captured act).Gives L here fun _ => True := by
  have hopen : (modify fun m : Machine => { m with buffers := [] :: m.buffers } : Eval Unit).Keeps L :=
    .modify fun _ hm => ⟨⟨hm.cells, hm.frames⟩, rfl⟩
  refine Gives.bind (Gives.inside hopen) fun _ _ => h.bind fun _ _ => ?_
  intro m hm _
  exact ⟨trivial, ⟨hm.cells, hm.frames⟩, rfl⟩

@[grind ←] theorem captured_keeps {act : Eval Unit} (h : act.Keeps L) : (captured act).Keeps L :=
  captured_gives h

theorem captured_keepsIn {act : Eval Unit} (h : act.KeepsIn L file) : (captured act).KeepsIn L file :=
  captured_gives h

/-- Going to a line of the file that evaluation stands in. -/
theorem atLine_keepsIn {line : Nat} (hline : L.inFile file line) : (atLine line).KeepsIn L file := by
  intro m hm hhere
  have hhead : m.files.head? = some file := hhere file rfl
  refine ⟨trivial, ?_⟩
  dsimp only
  split
  next f rest hframes =>
    rw [Machine.files, hframes] at hhead
    obtain rfl : f.file = file := Option.some.inj hhead
    have hrest : ∀ g ∈ rest, L.inFile g.file g.line := fun g hg =>
      hm.frames g (hframes ▸ List.mem_cons_of_mem f hg)
    refine ⟨⟨hm.cells, ?_⟩, by simp [Machine.files, hframes]⟩
    exact List.forall_mem_cons.2 ⟨hline, hrest⟩
  next => exact ⟨hm, rfl⟩

/-- What stands inside a file begins and ends there. -/
theorem inFile_keeps {line : Nat} (hline : L.inFile file line) (h : act.KeepsIn L file) :
    (inFile file line act).Keeps L := by
  intro m hm _
  have hm' : Machine.Within L { m with frames := ⟨file, line⟩ :: m.frames } :=
    ⟨hm.cells, List.forall_mem_cons.2 ⟨hline, hm.frames⟩⟩
  change (((act >>= fun a => _) : Eval α) { m with frames := ⟨file, line⟩ :: m.frames }).Always L _ _
  rw [run_bind]
  refine (h _ hm' fun _ hfile => hfile).andThen fun a m'' ⟨_, hm'', hfiles⟩ => ?_
  refine ⟨trivial, ⟨hm''.cells, fun f hf => hm''.frames f (List.mem_of_mem_drop hf)⟩, ?_⟩
  change (m''.frames.drop 1).map (·.file) = m.files
  rw [List.map_drop]
  exact congrArg (List.drop 1) hfiles

end

/-! ## What evaluators do -/

/-- All operations of an evaluator leave the lines in a machine as they are to be. -/
structure Evaluator.Keeps (L : Lines) (ev : Evaluator) : Prop where
  pull (id : CellId) : (ev.pull id).Keeps L
  call (escapes : Bool) (v : Value) (args : Arguments) : (ev.call escapes v args).Keeps L
  filter (escapes : Bool) (name : String) (v : Value) (args : Arguments) : (ev.filter escapes name v args).Keeps L
  test (name : String) (v : Value) (args : Arguments) : (ev.test name v args).Keeps L
  root (id : TemplateId) (context : CellId) : (ev.root id context).Keeps L
  block (ref : BlockRef) (context : CellId) : (ev.block ref context).Keeps L

attribute [grind ←] Evaluator.Keeps.pull Evaluator.Keeps.call Evaluator.Keeps.filter Evaluator.Keeps.test
  Evaluator.Keeps.root Evaluator.Keeps.block

end TemplateTree.Template
