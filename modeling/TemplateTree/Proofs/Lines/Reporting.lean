import TemplateTree.Proofs.Lines.Programs
import TemplateTree.Proofs.Template.Giving

/-!
# Lines in reports

A report of a fault in a template has the name of the template, and may have a line. The line is one of the
template's text, with two exceptions. A mistake in the text of another template that is read is reported with its
line there. And places are told apart by the name that their text is evaluated under: where two texts have one
name, a place in one of them counts as a place in the other.

* `Offered`: the texts that templates are loaded from.
* `Reached`: the engines that can come about, with the texts that they have evaluated.
* `render_lines`: evaluating a template leaves the lines that an engine holds as they are to be, and reports one
  of them.
* `render_line`: which line a report has.
-/

namespace TemplateTree.Template

variable {α β : Type} {L L' : Lines} {ok ok' : Nat → Prop}

/-! ## More lines -/

theorem LoopHead.Within.imp {head : LoopHead} (h : head.Within ok) (himp : ∀ l, ok l → ok' l) : head.Within ok' :=
  ⟨himp _ h.line, fun t ht => himp _ (h.test t ht)⟩

theorem Code.Within.imp {c : Code} (h : c.Within ok) (himp : ∀ l, ok l → ok' l) : c.Within ok' := by
  induction h with
  | enter loads => exact .enter loads
  | leave refs => exact .leave refs
  | emit text => exact .emit text
  | print hline escaping e => exact .print (himp _ hline) escaping e
  | unlessExtended _ ih => exact .unlessExtended ih
  | failIfExtended => exact .failIfExtended
  | extend hline e => exact .extend (himp _ hline) e
  | block hline name locals isRequired => exact .block (himp _ hline) name locals isRequired
  | ifElse hline test _ _ ihyes ihno => exact .ifElse (himp _ hline) test ihyes ihno
  | forLoop hhead _ hasOtherwise _ ihbody ihotherwise =>
    exact .forLoop (hhead.imp himp) ihbody hasOtherwise ihotherwise
  | bind hline target e => exact .bind (himp _ hline) target e
  | requireNamespaces refs => exact .requireNamespaces refs
  | publish vars => exact .publish vars
  | conceal vars => exact .conceal vars
  | capture hline target filter escaping _ ih => exact .capture (himp _ hline) target filter escaping ih
  | filtered hline filter escaping _ ih => exact .filtered (himp _ hline) filter escaping ih
  | defineMacro target hsignature _ ih => exact .defineMacro target (himp _ hsignature) ih
  | callMacro hline call hsignature _ ih => exact .callMacro (himp _ hline) call (himp _ hsignature) ih
  | inclusion hline e ignoreMissing locals depth => exact .inclusion (himp _ hline) e ignoreMissing locals depth
  | importAs hline e target locals => exact .importAs (himp _ hline) e target locals
  | importNames hline e names locals => exact .importNames (himp _ hline) e names locals
  | escapeIf hline e _ ih => exact .escapeIf (himp _ hline) e ih

theorem Section.Within.imp {s : Section} (h : s.Within ok) (himp : ∀ l, ok l → ok' l) : s.Within ok' :=
  ⟨himp _ h.line, fun c hc => (h.body c hc).imp himp⟩

theorem Program.Within.imp {p : Program} (h : p.Within ok) (himp : ∀ l, ok l → ok' l) : p.Within ok' :=
  ⟨h.root.imp himp, himp _ h.endLine, fun b hb => (h.blocks b hb).imp himp⟩

section

variable (hmore : ∀ file l, L.inFile file l → L'.inFile file l)

include hmore

theorem Recursion.Within.mono {r : Recursion} (h : r.Within L) : r.Within L' :=
  ⟨h.head.imp (hmore _), fun c hc => (h.body c hc).imp (hmore _), fun c hc => (h.otherwise c hc).imp (hmore _)⟩

theorem Cell.Within.mono {c : Cell} (h : c.Within L) : c.Within L' := by
  cases c with
  | procedure p => exact ⟨hmore _ _ h.signature, fun c hc => (h.body c hc).imp (hmore _)⟩
  | loop l => exact fun r hr => (h r hr).mono hmore
  | iterator i =>
    cases i with
    | tested => exact hmore _ _ h
    | _ => trivial
  | template l => exact Program.Within.imp h (hmore _)
  | _ => trivial

theorem Loaded.Within.mono {l : Loaded} (h : l.Within L) : l.Within L' :=
  Program.Within.imp h (hmore _)

theorem Machine.Within.mono {m : Machine} (h : m.Within L) : m.Within L' :=
  ⟨fun c hc => (h.cells c hc).mono hmore, fun f hf => hmore _ _ (h.frames f hf)⟩

end

/-! ## Cells in another place -/

theorem Cell.Within.moved {c : Cell} (h : c.Within L) (distance : Nat) : (c.moved distance).Within L := by
  cases c with
  | procedure p => exact ⟨h.signature, h.body⟩
  | loop l =>
    intro r hr
    obtain ⟨r', hr', rfl⟩ := Option.map_eq_some_iff.1 hr
    exact ⟨(h r' hr').head, (h r' hr').body, (h r' hr').otherwise⟩
  | iterator i =>
    cases i with
    | tested => exact h
    | _ => trivial
  | template l => exact h
  | _ => trivial

theorem Made.within_ok {cells : Array Cell} (h : ∀ c ∈ cells, c.Within L) (cell : CellId) :
    Made.Within L ⟨.ok cell, cells⟩ :=
  ⟨h, fun _ he => by cases he⟩

/-- A fault that has no line and no place. -/
theorem Made.within_raised {cells : Array Cell} (h : ∀ c ∈ cells, c.Within L) (kind : FaultKind) (message : String) :
    Made.Within L ⟨.error (.raised kind message, []), cells⟩ :=
  ⟨h, fun _ he => Except.error.inj he ▸ ⟨trivial, List.forall_mem_nil _⟩⟩

/-- Cells that have been put behind others still have lines of their files. -/
theorem Made.Within.behind {made : Made} (h : made.Within L) {cells : Array Cell} (hcells : ∀ c ∈ cells, c.Within L) :
    (made.behind cells).Within L := by
  refine ⟨fun c hc => ?_, fun e he => h.fault e ?_⟩
  · obtain hc | hc := Array.mem_append.1 hc
    · exact hcells c hc
    · obtain ⟨c, hmem, rfl⟩ := Array.mem_map.1 hc
      exact (h.cells c hmem).moved _
  · obtain ⟨result, cells⟩ := made
    cases result with
    | ok _ => cases he
    | error e => exact congrArg Except.error (Except.error.inj he)

/-! ## The library -/

/-- A text that templates are loaded from, with the name that it is evaluated under: the path of its file, which
    is that of an asked template below a directory of the search path. -/
def Offered (files : FileSystem) (searchPath : List String) (file text : String) : Prop :=
  ∃ dir ∈ searchPath, ∃ asked parts bytes, nameParts? asked = some parts ∧
    file = (tidied ((Path.parse dir).descend parts)).text ∧
    files.read ((Path.parse dir).descend parts) = .ok bytes ∧ Text.decodeFile bytes = .ok text

/-- A template on the shelf, and what its module has been made with, have lines of their files. -/
structure Kept.Within (L : Lines) (k : Kept) : Prop where
  loaded : k.loaded.Within L
  module : ∀ kept ∈ k.module, ∀ cells ∈ kept.cells, ∀ c ∈ cells, c.Within L

theorem Kept.Within.mono (hmore : ∀ file l, L.inFile file l → L'.inFile file l) {k : Kept} (h : k.Within L) :
    k.Within L' :=
  ⟨h.loaded.mono hmore, fun kept hkept cells hcells c hc => (h.module kept hkept cells hcells c hc).mono hmore⟩

/-- The templates of a library have lines of their files, and what it reads has some, too. -/
structure Library.Within (L : Lines) (lib : Library) : Prop where
  shelf : ∀ k ∈ lib.shelf, k.2.Within L
  texts : ∀ file text, Offered lib.files lib.searchPath file text → ∀ l, IsLine text l → L.inFile file l
  faults : ∀ file text, Offered lib.files lib.searchPath file text → ∀ f, programOf lib.config text = .error f →
    f.Within L.inFault

theorem findFile?_below {files : FileSystem} {parts dirs : List String} {p : Path} {stamp : Nat}
    (h : findFile? files parts dirs = some (p, stamp)) : ∃ dir ∈ dirs, p = (Path.parse dir).descend parts := by
  induction dirs with
  | nil => cases h
  | cons dir dirs ih =>
    unfold findFile? at h
    dsimp only at h
    split at h
    · cases h
      exact ⟨dir, List.mem_cons_self, rfl⟩
    · obtain ⟨d, hd, hp⟩ := ih h
      exact ⟨d, List.mem_cons_of_mem _ hd, hp⟩

theorem forall_mem_setNamed {p : α → Prop} {entries : List (String × α)} (h : ∀ e ∈ entries, p e.2)
    (name : String) {a : α} (ha : p a) : ∀ e ∈ setNamed name a entries, p e.2 := by
  induction entries with
  | nil => exact List.forall_mem_singleton.2 ha
  | cons e entries ih =>
    obtain ⟨he, hentries⟩ := List.forall_mem_cons.1 h
    unfold setNamed
    split
    · exact List.forall_mem_cons.2 ⟨ha, hentries⟩
    · exact List.forall_mem_cons.2 ⟨he, ih hentries⟩

namespace Library.Within

variable {lib : Library} (h : lib.Within L)

include h

theorem readAt (name : String) {asked dir : String} (hdir : dir ∈ lib.searchPath) {parts : List String}
    (hparts : nameParts? asked = some parts) :
    (∀ l, lib.readAt name ((Path.parse dir).descend parts) = .ok l → l.Within L) ∧
      ∀ f, lib.readAt name ((Path.parse dir).descend parts) = .error f → f.Within L.inFault := by
  unfold Library.readAt
  cases hread : lib.files.read ((Path.parse dir).descend parts) with
  | error e => exact ⟨nofun, fun f hf => Except.error.inj hf ▸ Fault.within_ofSystem e⟩
  | ok bytes =>
    dsimp only [Except.mapError, bind, Except.bind]
    cases hdecode : Text.decodeFile bytes with
    | error f => exact ⟨nofun, fun f hf => Except.error.inj hf ▸ Fault.within_raised _ _⟩
    | ok source =>
      have hoffered : Offered lib.files lib.searchPath _ source :=
        ⟨dir, hdir, asked, parts, bytes, hparts, rfl, hread, hdecode⟩
      dsimp only
      cases hprogram : programOf lib.config source with
      | error f => exact ⟨nofun, fun g hg => Except.error.inj hg ▸ h.faults _ _ hoffered f hprogram⟩
      | ok program =>
        refine ⟨fun l hl => Except.ok.inj hl ▸ ?_, nofun⟩
        exact ((programOf_within lib.config source).1 program hprogram).imp (h.texts _ _ hoffered)

theorem read (id : TemplateId) (name shownName : String) :
    (∀ k, lib.read id name shownName = .ok k → k.Within L) ∧
      ∀ f, lib.read id name shownName = .error f → f.Within L.inFault := by
  unfold Library.read
  cases hparts : nameParts? name with
  | none => exact ⟨nofun, fun f hf => Except.error.inj hf ▸ Fault.within_raised _ _⟩
  | some parts =>
    dsimp only
    cases hfind : findFile? lib.files parts lib.searchPath with
    | none => exact ⟨nofun, fun f hf => Except.error.inj hf ▸ Fault.within_raised _ _⟩
    | some found =>
      obtain ⟨dir, hdir, hp⟩ := findFile?_below hfind
      obtain ⟨hok, herror⟩ := h.readAt name hdir hparts
      dsimp only
      rw [hp]
      cases hread : lib.readAt name ((Path.parse dir).descend parts) with
      | error f => exact ⟨nofun, fun g hg => Except.error.inj hg ▸ herror f hread⟩
      | ok l => exact ⟨fun k hk => Except.ok.inj hk ▸ ⟨hok l hread, fun _ hkept => by cases hkept⟩, nofun⟩

theorem onShelf? {name : String} {k : Kept} (hk : lib.onShelf? name = some k) : k.Within L :=
  h.shelf _ (mem_of_named? (Option.filter_eq_some_iff.1 hk).1)

theorem template (id : TemplateId) (name shownName : String) :
    (Question.template id name shownName).Fits L (lib.template id name shownName).1 ∧
      (lib.template id name shownName).2.Within L := by
  obtain ⟨hok, herror⟩ := h.read lib.next name shownName
  unfold Library.template
  split
  · refine ⟨?_, h⟩
    cases hread : lib.read lib.next name shownName with
    | error f => exact herror f hread
    | ok k => exact (hok k hread).loaded
  · cases hshelf : lib.onShelf? name with
    | some k => exact ⟨(h.onShelf? hshelf).loaded, h.shelf, h.texts, h.faults⟩
    | none =>
      dsimp only
      cases hread : lib.read lib.next name shownName with
      | error f => exact ⟨herror f hread, h⟩
      | ok k => exact ⟨(hok k hread).loaded, forall_mem_setNamed h.shelf name (hok k hread), h.texts, h.faults⟩

theorem again {kept : KeptModule} (hkept : ∀ cells ∈ kept.cells, ∀ c ∈ cells, c.Within L) {cells : Array Cell}
    (hcells : ∀ c ∈ cells, c.Within L) :
    (lib.again kept cells).1.Within L ∧ (lib.again kept cells).2.Within L := by
  unfold Library.again
  split
  next made hunchanged hmade =>
    exact ⟨(Made.within_ok (hkept made hmade) kept.cell).behind hcells, h.shelf, h.texts, h.faults⟩
  next =>
    split
    · exact ⟨Made.within_ok hcells _, h⟩
    · exact ⟨Made.within_raised hcells _ _, h.shelf, h.texts, h.faults⟩

theorem keep {kept : Option Kept} (hkept : ∀ k ∈ kept, k.Within L) {cells : Option (Array Cell)}
    (hcells : ∀ made : Array Cell, made ∈ cells → ∀ c ∈ made, c.Within L) (name : String) (made : Made)
    (first : CellId) (labels : List Nat) : (lib.keep name kept made first labels cells).Within L := by
  unfold Library.keep
  split
  next k _ _ =>
    refine ⟨forall_mem_setNamed h.shelf name ⟨(hkept k rfl).loaded, fun module hmodule => ?_⟩, h.texts, h.faults⟩
    obtain rfl := Option.some.inj hmodule
    exact hcells
  next => exact ⟨h.shelf, h.texts, h.faults⟩

theorem endedHere {before : Library} (hbefore : before.Within L) (name : String) (first : CellId) (made : Made) :
    (before.endedHere lib name first made).Within L := by
  unfold Library.endedHere
  have hnext : Library.Within L { lib with
      next := (lib.labelsOf ((List.range (made.cells.size - first)).map (first + ·))).2 } :=
    ⟨h.shelf, h.texts, h.faults⟩
  exact hnext.keep (fun k hk => hbefore.onShelf? hk) (fun _ hcells => by cases hcells) name made first _

theorem ended {before : Library} (hbefore : before.Within L) (name : String) (cells : Array Cell) {made : Made}
    (hmade : made.Within L) : (before.ended lib name cells made).Within L := by
  have hback : ∀ next, Library.Within L { lib with
      labels := before.labels, outside := before.outside, reachesOut := before.reachesOut, next } := fun _ =>
    ⟨h.shelf, h.texts, h.faults⟩
  unfold Library.ended
  dsimp only
  split
  · exact hback lib.next
  · refine (hback _).keep (fun k hk => hbefore.onShelf? hk) (fun kept hkept => ?_) name _ cells.size _
    obtain rfl := Option.some.inj hkept
    exact hmade.cells

theorem answerWith {make : Library → TemplateId → String → Array Cell → Made × Library}
    (hmake : ∀ lib : Library, lib.Within L → ∀ id name cells, (∀ c ∈ cells, c.Within L) →
      (make lib id name cells).1.Within L ∧ (make lib id name cells).2.Within L)
    (q : Question) (hq : q.Within L) :
    q.Fits L (lib.answerWith make q).1 ∧ (lib.answerWith make q).2.Within L := by
  cases q with
  | template id name shownName => exact h.template id name shownName
  | changes id =>
    refine ⟨trivial, ?_⟩
    change (lib.change id).2.Within L
    unfold Library.change
    split
    · exact h
    · exact ⟨h.shelf, h.texts, h.faults⟩
  | module id name cells =>
    simp only [Library.answerWith, Question.Fits]
    cases hmodule : lib.module? name with
    | none => exact hmake lib h id name cells hq
    | some kept =>
      obtain ⟨k, hk, hkept⟩ := Option.bind_eq_some_iff.1 hmodule
      exact h.again ((h.onShelf? hk).module kept hkept) hq
  | _ => exact ⟨trivial, h⟩

end Library.Within

/-- A computation that is answered in this way ends as every end of it does. -/
theorem Script.Always.playWith {ended : α → Machine → Prop} {failed : Fault → Machine → Prop} {x : Script α}
    (h : x.Always L ended failed) {answer : Library → (q : Question) → q.Answer × Library}
    (hanswer : ∀ lib : Library, lib.Within L → ∀ q, q.Within L →
      q.Fits L (answer lib q).1 ∧ (answer lib q).2.Within L) {lib : Library} (hlib : lib.Within L) :
    (∀ a, (x.playWith answer lib).1 = .ok a → ended a (x.playWith answer lib).2.1) ∧
      (∀ f, (x.playWith answer lib).1 = .error f → failed f (x.playWith answer lib).2.1) ∧
      (x.playWith answer lib).2.2.Within L := by
  induction x generalizing lib with
  | ok a m => exact ⟨fun _ ha => Except.ok.inj ha ▸ h, nofun, hlib⟩
  | error f m => exact ⟨nofun, fun _ hf => Except.error.inj hf ▸ h, hlib⟩
  | ask q next ih =>
    obtain ⟨hfits, hlib'⟩ := hanswer lib hlib q h.1
    exact ih _ (h.2 _ hfits) hlib'

/-! ## Modules -/

/-- What the evaluation for a module leaves behind has lines of its files. -/
theorem Made.within_of {x : Script CellId} {answer : Library → (q : Question) → q.Answer × Library}
    (h : x.Always L (fun _ m => m.Within L) fun f m => f.Within L.inFault ∧ m.Within L)
    (hanswer : ∀ lib : Library, lib.Within L → ∀ q, q.Within L →
      q.Fits L (answer lib q).1 ∧ (answer lib q).2.Within L) {lib : Library} (hlib : lib.Within L) :
    (Made.of (x.playWith answer lib).1 (x.playWith answer lib).2.1).Within L ∧
      (x.playWith answer lib).2.2.Within L := by
  obtain ⟨hended, hfailed, hlib'⟩ := h.playWith hanswer hlib
  generalize x.playWith answer lib = played at hended hfailed hlib' ⊢
  obtain ⟨result, m, after⟩ := played
  refine ⟨?_, hlib'⟩
  cases result with
  | ok cell => exact Made.within_ok (hended cell rfl).cells cell
  | error f =>
    obtain ⟨hf, hm⟩ := hfailed f rfl
    exact ⟨hm.cells, fun e he => Except.error.inj he ▸ ⟨hf, hm.frames⟩⟩

theorem moduleAlone_always (strict : Bool) {l : Loaded} (hl : l.Within L) :
    (moduleAlone strict l).Always L (fun _ m => m.Within L) fun f m => f.Within L.inFault ∧ m.Within L :=
  (Eval.Keeps.bind (addTemplate_keeps hl) (fun id => makeModule_keeps (evaluator_keeps depthLimit) id globalValues)
    _ (Machine.empty_within strict) nofun).imp (fun _ _ h => h.2.1) fun _ _ h => h

theorem moduleHere_always (strict : Bool) (id : TemplateId) {cells : Array Cell} (hcells : ∀ c ∈ cells, c.Within L) :
    (moduleHere strict id cells).Always L (fun _ m => m.Within L) fun f m => f.Within L.inFault ∧ m.Within L :=
  (makeModule_keeps (evaluator_keeps depthLimit) id globalValues _ ⟨hcells, List.forall_mem_nil _⟩ nofun).imp (fun _ _ h => h.2.1)
    fun _ _ h => h

/-- A module that is made has lines of its files, by induction on how deep modules may be inside each other. -/
theorem Library.Within.make (depth : Nat) {lib : Library} (hlib : lib.Within L) (id : TemplateId) (name : String)
    (cells : Array Cell) (hcells : ∀ c ∈ cells, c.Within L) :
    (lib.make depth id name cells).1.Within L ∧ (lib.make depth id name cells).2.Within L := by
  induction depth generalizing lib id name cells with
  | zero => exact ⟨Made.within_raised hcells _ _, hlib⟩
  | succ depth ih =>
    obtain ⟨hfits, hread⟩ := hlib.template id name name
    unfold Library.make
    generalize lib.template id name name = answered at hfits hread ⊢
    obtain ⟨answer, lib⟩ := answered
    cases answer with
    | error f => exact ⟨⟨hcells, fun e he => Except.error.inj he ▸ ⟨hfits, List.forall_mem_nil _⟩⟩, hread⟩
    | ok l =>
      have hanswer : ∀ lib : Library, lib.Within L → ∀ q, q.Within L →
          q.Fits L (lib.answerWith (Library.make depth) q).1 ∧ (lib.answerWith (Library.make depth) q).2.Within L :=
        fun lib hlib q hq => hlib.answerWith (fun lib hlib id name cells => ih hlib id name cells) q hq
      have hbegun : (lib.begun id).Within L := ⟨hread.shelf, hread.texts, hread.faults⟩
      obtain ⟨hmade, hafter⟩ :=
        Made.within_of (moduleAlone_always lib.config.strictUndefined hfits) hanswer hbegun
      obtain ⟨hmade', hafter'⟩ :=
        Made.within_of (moduleHere_always lib.config.strictUndefined id hcells) hanswer hread
      dsimp only
      generalize Script.playWith _ (moduleAlone lib.config.strictUndefined l) (lib.begun id) = played at hmade hafter ⊢
      generalize Script.playWith _ (moduleHere lib.config.strictUndefined id cells) lib = played' at hmade' hafter' ⊢
      obtain ⟨result, m, after⟩ := played
      obtain ⟨result', m', after'⟩ := played'
      dsimp only
      split
      · exact ⟨hmade', hafter'.endedHere hread name cells.size _⟩
      · exact ⟨hmade.behind hcells, hafter.ended hread name cells hmade⟩

/-- Every answer fits, and leaves the library as it is to be. -/
theorem Library.Within.answer {lib : Library} (h : lib.Within L) (q : Question) (hq : q.Within L) :
    q.Fits L (lib.answer q).1 ∧ (lib.answer q).2.Within L :=
  h.answerWith (fun _ h => h.make depthLimit) q hq

/-! ## One template -/

/-- The machine of an engine, and what it keeps, have lines of their files. -/
structure Session.Within (L : Lines) (s : Session) : Prop where
  machine : s.machine.Within L
  shelf : ∀ k ∈ s.library.shelf, k.2.Within L

theorem Session.Within.mono (hmore : ∀ file l, L.inFile file l → L'.inFile file l) {s : Session} (h : s.Within L) :
    s.Within L' :=
  ⟨h.machine.mono hmore, fun k hk => (h.shelf k hk).mono hmore⟩

theorem givenValues_keeps (entries : Entries Value) : (givenValues entries).Keeps L := by
  unfold givenValues
  grind [badKey]

theorem renderProgram_keeps {name : String} {program : Program} (h : program.Within (L.inFile name))
    (entries : Entries Value) : (renderProgram name program entries).Keeps L := by
  unfold renderProgram
  exact .bind (addTemplate_keeps h) fun id => .bind (givenValues_keeps entries) fun values =>
    .bind (newContext_keeps id values) fun context => runTemplate_keeps (evaluator_keeps depthLimit) id context

theorem finish_within {m : Machine} (hm : m.Within L) {s : Session} (hshelf : ∀ k ∈ s.library.shelf, k.2.Within L)
    (sink : Sink) (name : String) (fault : Option Fault) : (finish sink name m fault s).state.Within L := by
  unfold finish
  dsimp only
  split <;> exact ⟨⟨hm.cells, nofun⟩, hshelf⟩

/-- Where the line in a report of a fault comes from: the fault itself, or a place in the template. -/
theorem failureOf_line {name name' message : String} {frames : List Frame} {f : Fault} {n : Int}
    (h : failureOf name frames f = .template name' message (some n)) :
    name' = name ∧ ∃ l : Nat, n = l ∧
      ((∃ kind words, f = .inText kind words l ∧ message = kind.label ++ ": " ++ words) ∨
        ∃ frame ∈ frames, frame.file = name ∧ frame.line = l) := by
  cases f with
  | system errno words path target => cases h
  | inText kind words line =>
    cases h
    exact ⟨rfl, line, rfl, .inl ⟨kind, words, rfl, rfl⟩⟩
  | raised kind words =>
    simp only [failureOf, faultLine, Failure.template.injEq] at h
    obtain ⟨rfl, -, hline⟩ := h
    split at hline
    · cases hline
    · obtain ⟨l, hl, rfl⟩ := Option.map_eq_some_iff.1 hline
      obtain ⟨frame, hframe, rfl⟩ := Option.map_eq_some_iff.1 hl
      exact ⟨rfl, _, rfl, .inr ⟨frame, List.mem_of_find?_eq_some hframe, by simpa using List.find?_some hframe, rfl⟩⟩

theorem finish_line {sink : Sink} {name name' message : String} {m : Machine} {fault : Option Fault} {s : Session}
    {n : Int} (h : (finish sink name m fault s).failure = some (.template name' message (some n))) :
    ∃ f ∈ fault, failureOf name m.frames f = .template name' message (some n) := by
  unfold finish at h
  dsimp only at h
  split at h
  · cases h
  · obtain ⟨f, hf, h⟩ := Option.map_eq_some_iff.1 h
    exact ⟨f, hf, h⟩

/-- Evaluating a template leaves the lines that an engine holds as they are to be. A line that it reports is one of
    those under the name of the template, or comes with the fault itself. -/
theorem render_lines {s : Session} (hs : s.Within L) {files : FileSystem} {request : Request Value}
    (hlib : Library.Within L { s.library with files })
    (hsource : ∀ source, request.source = .ok source → ∀ l, IsLine source l → L.inFile request.name l)
    (sink : Sink) :
    (render sink files request s).state.Within L ∧
      ∀ name message n, (render sink files request s).failure = some (.template name message (some n)) →
        name = request.name ∧ (∃ source, request.source = .ok source) ∧ ∃ l : Nat, n = l ∧
          (L.inFile name l ∨ ∃ kind words, L.inFault kind words l ∧ message = kind.label ++ ": " ++ words) := by
  unfold render
  split
  · exact ⟨hs, nofun⟩
  cases hrequest : request.source with
  | error fault => exact ⟨hs, nofun⟩
  | ok source =>
    have hown : ∀ l, IsLine source l → L.inFile request.name l := hsource source hrequest
    obtain ⟨hok, herror⟩ := programOf_within s.library.config source
    have hbegin : s.machine.begun.Within L := ⟨hs.machine.cells, nofun⟩
    dsimp only
    cases hprogram : programOf s.library.config source with
    | error f =>
      refine ⟨finish_within hbegin hs.shelf .., fun name message n h => ?_⟩
      obtain ⟨f', hf, hfailure⟩ := finish_line h
      obtain rfl : f = f' := Option.some.inj hf
      obtain ⟨rfl, l, rfl, hline⟩ := failureOf_line hfailure
      obtain ⟨kind, words, rfl, -⟩ | ⟨_, hframe, -⟩ := hline
      · exact ⟨rfl, ⟨source, rfl⟩, l, rfl, .inl (hown l (herror _ hprogram))⟩
      · cases hframe
    | ok program =>
      have hkeeps := renderProgram_keeps ((hok program hprogram).imp hown) request.context
      obtain ⟨hended, hfailed, hlib'⟩ := (hkeeps _ hbegin nofun).playWith (fun _ h => h.answer) hlib
      dsimp only
      unfold Script.play
      generalize Script.playWith _ _ _ = played at hended hfailed hlib' ⊢
      obtain ⟨result, m, library⟩ := played
      cases result with
      | ok _ =>
        refine ⟨finish_within (hended _ rfl).2.1 hlib'.shelf .., fun name message n h => ?_⟩
        obtain ⟨f, hf, -⟩ := finish_line h
        cases hf
      | error f =>
        obtain ⟨hfault, hm⟩ := hfailed f rfl
        refine ⟨finish_within hm hlib'.shelf .., fun name message n h => ?_⟩
        obtain ⟨f', hf, hfailure⟩ := finish_line h
        obtain rfl : f = f' := Option.some.inj hf
        obtain ⟨rfl, l, rfl, hline⟩ := failureOf_line hfailure
        refine ⟨rfl, ⟨source, rfl⟩, l, rfl, ?_⟩
        obtain ⟨kind, words, rfl, rfl⟩ | ⟨frame, hframe, hfile, rfl⟩ := hline
        · exact .inr ⟨kind, words, hfault, rfl⟩
        · exact .inl (hfile ▸ hm.frames frame hframe)

/-! ## Engines -/

theorem placeGraph_keeps (g : Graph) : (placeGraph g).Keeps L := by
  intro m hm _
  unfold placeGraph
  cases hlookup : m.graphs.lookup g with
  | some base =>
    simp only [modifyGet, MonadStateOf.modifyGet, hlookup]
    exact ⟨trivial, hm, rfl⟩
  | none =>
    simp only [modifyGet, MonadStateOf.modifyGet, hlookup]
    refine ⟨trivial, ⟨fun c hc => ?_, hm.frames⟩, rfl⟩
    obtain hc | hc := Array.mem_append.1 hc
    · exact hm.cells c hc
    · obtain ⟨collection, -, rfl⟩ := List.mem_map.1 (List.mem_toArray.1 hc)
      cases collection <;> trivial

section

variable {ν : Type} [Vertices ν]

mutual

theorem ofTree_keeps (d : Tree ν) : (ofTree d).Keeps L := by
  cases d with
  | list items =>
    unfold ofTree
    exact .bind (ofTrees_keeps items) fun vs => newList_keeps vs
  | tuple items =>
    unfold ofTree
    exact .bind (ofTrees_keeps items) fun vs => .pure _
  | map entries =>
    unfold ofTree
    exact .bind (ofBranches_keeps entries) fun entries => newDict_keeps entries
  | vertex v =>
    unfold ofTree
    exact .bind (placeGraph_keeps _) fun _ => .pure _
  | _ => unfold ofTree; exact .pure _

theorem ofTrees_keeps (trees : List (Tree ν)) : (ofTrees trees).Keeps L := by
  cases trees with
  | nil => unfold ofTrees; exact .pure _
  | cons d rest =>
    unfold ofTrees
    exact .bind (ofTree_keeps d) fun _ => .bind (ofTrees_keeps rest) fun _ => .pure _

theorem ofBranches_keeps (branches : List (Scalar × Tree ν)) : (ofBranches branches).Keeps L := by
  cases branches with
  | nil => unfold ofBranches; exact .pure _
  | cons e rest =>
    unfold ofBranches
    exact .bind (ofTree_keeps e.2) fun _ => .bind (ofBranches_keeps rest) fun _ => .pure _

end

theorem Session.Within.give {s : Session} (h : s.Within L) (d : Tree ν) : (s.give d).2.Within L := by
  obtain ⟨v, m, hends, -⟩ := ofTree_ends d s.machine
  have hkeeps := ofTree_keeps d s.machine h.machine nofun
  unfold Session.give
  rw [show ofTree d s.machine = _ from hends] at hkeeps ⊢
  exact ⟨hkeeps.2.1, h.shelf⟩

end

/-- The texts that an evaluation can come to, with the names that they are evaluated under: its own, and those
    that are offered. -/
def Evaluated (files : FileSystem) (searchPath : List String) (request : Request Value) (file text : String) : Prop :=
  (file = request.name ∧ request.source = .ok text) ∨ Offered files searchPath file text

/-- The engines that can come about, with the texts that they have evaluated. -/
inductive Reached : (String → String → Prop) → Session → Prop
  | fresh : Reached (fun _ _ => False) .fresh
  | give {texts s} (h : Reached texts s) (d : Object) : Reached texts (s.give d).2
  | configure {texts s} (h : Reached texts s) (config : EngineConfig) : Reached texts (configure config s).1
  | render {texts s} (h : Reached texts s) (sink : Sink) (files : FileSystem) (request : Request Value) :
      Reached (fun file text => texts file text ∨ Evaluated files s.library.searchPath request file text)
        (render sink files request s).state

/-- The lines of some texts, and those of some faults. -/
def Lines.ofTexts (texts : String → String → Prop) (inFault : FaultKind → String → Nat → Prop) : Lines where
  inFile file l := l = 1 ∨ ∃ text, texts file text ∧ IsLine text l
  inFault := inFault
  first _ := .inl rfl

theorem Lines.ofTexts_mono {texts texts' : String → String → Prop} {inFault inFault' : FaultKind → String → Nat → Prop}
    (h : ∀ file text, texts file text → texts' file text) (file : String) (l : Nat)
    (hl : (ofTexts texts inFault).inFile file l) : (ofTexts texts' inFault').inFile file l :=
  hl.imp_right fun ⟨text, htext, hline⟩ => ⟨text, h file text htext, hline⟩

/-- An evaluation in an engine with lines of some texts reports a line of one of these or of what it evaluates, or
    one that comes with a fault of what is offered. -/
theorem render_ofTexts {texts : String → String → Prop} {inFault₀ inFault : FaultKind → String → Nat → Prop}
    {s : Session} (hs : s.Within (.ofTexts texts inFault₀)) {files : FileSystem}
    (hfaults : ∀ file text, Offered files s.library.searchPath file text → ∀ f,
      programOf s.library.config text = .error f → f.Within inFault) (request : Request Value) (sink : Sink) :
    let L := Lines.ofTexts (fun file text => texts file text ∨ Evaluated files s.library.searchPath request file text)
      inFault
    (render sink files request s).state.Within L ∧
      ∀ name message n, (render sink files request s).failure = some (.template name message (some n)) →
        name = request.name ∧ (∃ source, request.source = .ok source) ∧ ∃ l : Nat, n = l ∧
          (L.inFile name l ∨ ∃ kind words, inFault kind words l ∧ message = kind.label ++ ": " ++ words) := by
  intro L
  have hs : s.Within L := hs.mono (Lines.ofTexts_mono fun _ _ h => Or.inl h)
  have hlib : Library.Within L { s.library with files } :=
    ⟨hs.shelf, fun file text h l hl => .inr ⟨text, .inr (.inr h), hl⟩, hfaults⟩
  exact render_lines hs hlib (fun source h l hl => .inr ⟨source, .inr (.inl ⟨rfl, h⟩), hl⟩) sink

/-- An engine that has come about has lines of the texts that it has evaluated. -/
theorem Reached.within {texts : String → String → Prop} {s : Session} (h : Reached texts s) :
    s.Within (.ofTexts texts fun _ _ _ => True) := by
  induction h with
  | fresh => exact ⟨Machine.empty_within true, nofun⟩
  | give _ d ih => exact ih.give d
  | configure _ config ih => exact ⟨⟨ih.machine.cells, ih.machine.frames⟩, nofun⟩
  | render _ sink files request ih =>
    exact (render_ofTexts ih (fun _ _ _ f _ => by cases f <;> trivial) request sink).1

/-- A line in a report of a fault, whatever the engine has done before, is one of the template that is reported; of
    another text that is evaluated under the same name, now or before; or the line of a mistake in a text that was to
    be loaded, which the report then gives in the name of the template. -/
theorem render_line {texts : String → String → Prop} {s : Session} (h : Reached texts s) {sink : Sink}
    {files : FileSystem} {request : Request Value} {name message : String} {n : Int}
    (hfailed : (render sink files request s).failure = some (.template name message (some n))) :
    name = request.name ∧ ∃ source, request.source = .ok source ∧ ∃ l : Nat, n = l ∧
      (IsLine source l ∨
        (∃ text, (texts name text ∨ Offered files s.library.searchPath name text) ∧ IsLine text l) ∨
        ∃ file text kind words, Offered files s.library.searchPath file text ∧
          programOf s.library.config text = .error (.inText kind words l) ∧ message = kind.label ++ ": " ++ words) := by
  let inFault kind words l := ∃ file text, Offered files s.library.searchPath file text ∧
    programOf s.library.config text = .error (.inText kind words l)
  have hfaults : ∀ file text, Offered files s.library.searchPath file text → ∀ f,
      programOf s.library.config text = .error f → f.Within inFault := by
    intro file text hoffered f hf
    cases f with
    | inText kind words l => exact ⟨file, text, hoffered, hf⟩
    | _ => trivial
  obtain ⟨rfl, ⟨source, hsource⟩, l, rfl, hline⟩ :=
    (render_ofTexts h.within hfaults request sink).2 name message n hfailed
  refine ⟨rfl, source, hsource, l, rfl, ?_⟩
  obtain hfile | ⟨kind, words, ⟨file, text, hoffered, hprogram⟩, hmessage⟩ := hline
  · obtain rfl | ⟨text, hbefore | ⟨-, hown⟩ | hoffered, hl⟩ := hfile
    · exact .inl (isLine_one source)
    · exact .inr (.inl ⟨text, .inl hbefore, hl⟩)
    · cases hsource.symm.trans hown
      exact .inl hl
    · exact .inr (.inl ⟨text, .inr hoffered, hl⟩)
  · exact .inr (.inr ⟨file, text, kind, words, hoffered, hprogram, hmessage⟩)

/-- A file `/d/m` with a text. -/
def offering (text : String) : FileSystem :=
  (FileSystem.empty ["d"]).put ["d", "m"] (.file text.toUTF8 0o644 1)

/-- A template that includes `m` on its second line. -/
def includingBelow : Request Value :=
  ⟨[], .ok "a\n\x7b% include 'm' %\x7d", "t"⟩

/-- An engine that finds `m` in `/d`. -/
def finding : Session :=
  (configure { searchPath := "/d" } .fresh).1

/-- What fails on the fifth line of an included template is reported with the line that includes it. -/
theorem render_line_including :
    let files := offering "\n\n\n\n\x7b\x7b 1 // 0 \x7d\x7d"
    let message := "ZeroDivisionError: integer division or modulo by zero"
    (render .text files includingBelow finding).failure = some (.template "t" message (some 2)) ∧
      "t" = includingBelow.name ∧ ∃ source, includingBelow.source = .ok source ∧ ∃ l : Nat, (2 : Int) = l ∧
        (IsLine source l ∨
          (∃ text, (False ∨ Offered files finding.library.searchPath "t" text) ∧ IsLine text l) ∨
          ∃ file text kind words, Offered files finding.library.searchPath file text ∧
            programOf finding.library.config text = .error (.inText kind words l) ∧
            message = kind.label ++ ": " ++ words) := by
  have hfailed : (render .text (offering "\n\n\n\n\x7b\x7b 1 // 0 \x7d\x7d") includingBelow finding).failure =
      some (.template "t" "ZeroDivisionError: integer division or modulo by zero" (some 2)) := by decide +kernel
  exact ⟨hfailed, render_line (.configure .fresh { searchPath := "/d" }) hfailed⟩

/-- A mistake on the fifth line of an included template is reported as one on the fifth line of a template that has
    two lines. -/
example :
    (render .text (offering "\n\n\n\n\x7b% if %\x7d") includingBelow finding).failure =
        some (.template "t" "TemplateSyntaxError: Expected an expression, got 'end of statement block'" (some 5)) ∧
      includingBelow.source = .ok "a\n\x7b% include 'm' %\x7d" ∧ ¬IsLine "a\n\x7b% include 'm' %\x7d" 5 :=
  ⟨by decide +kernel, rfl, by decide +kernel⟩

end TemplateTree.Template
