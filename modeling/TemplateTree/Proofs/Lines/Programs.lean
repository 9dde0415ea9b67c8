import TemplateTree.Proofs.Lines.Evaluators
import TemplateTree.Proofs.Lines.Naming
import TemplateTree.Proofs.Lines.Statements
import TemplateTree.Template.Library

/-!
# Lines of programs

Turning a template into steps keeps a line for the next step. It begins as the first one, and every statement sets
it to a line of its own, so that all steps and all mistakes have lines of the text.

* `Build.Gives`: a part of the turning, from one of some lines to another.
* `steps_gives`: the steps of a statement have lines of the statement.
* `programOf_within`: the program of a text has lines of the text, and so has a fault that comes instead.
-/

namespace TemplateTree.Template

open Eval

variable {α β : Type} {L : Lines} {ev : Evaluator}

/-! ## Turning templates into steps -/

namespace Build

/-- Turning a piece of a template into steps, from a line that is among those of faults, ends with such a line and
    gives only what it is said to give. -/
def Gives (L : Lines) (x : Build α) (P : α → Prop) : Prop :=
  ∀ p : Progress, L.inText p.line →
    (x.run p).Gives L none fun r => P r.1 ∧ L.inText r.2.line

variable {x : Build α} {f : α → Build β} {P : α → Prop} {Q : β → Prop}

namespace Gives

theorem bind (h : Gives L x P) (hf : ∀ a, P a → Gives L (f a) Q) : Gives L (x >>= f) Q := by
  intro p hp
  rw [StateT.run_bind]
  exact (h p hp).bind fun r hr => hf r.1 hr.1 r.2 hr.2

theorem pure {a : α} (ha : P a) : Gives L (pure a : Build α) P :=
  fun _ hp => .pure ⟨ha, hp⟩

theorem throw {f : Fault} (hf : f.Within L.inFault) : Gives L (throw f : Build α) P :=
  fun _ _ => .throw (α := α × Progress) hf

theorem lift {act : Eval α} (h : act.Gives L none P) : Gives L (act : Build α) P := by
  intro _ hp
  exact Eval.Gives.bind h fun a ha => .pure ⟨ha, hp⟩

theorem get : Gives L (get : Build Progress) (L.inText ·.line) :=
  fun _ hp => .pure ⟨hp, hp⟩

theorem modify {f : Progress → Progress} (h : ∀ p : Progress, L.inText p.line → L.inText (f p).line) :
    Gives L (modify f : Build Unit) fun _ => True :=
  fun p hp => .pure ⟨trivial, h p hp⟩

theorem mapM {l : List α} (h : ∀ a ∈ l, Gives L (f a) Q) : Gives L (l.mapM f) (∀ b ∈ ·, Q b) := by
  induction l with
  | nil => exact .pure nofun
  | cons a l ih =>
    obtain ⟨ha, hl⟩ := List.forall_mem_cons.1 h
    rw [List.mapM_cons]
    exact ha.bind fun b hb => (ih hl).bind fun bs hbs => .pure (List.forall_mem_cons.2 ⟨hb, hbs⟩)

end Gives

theorem throw_bind_gives {f : Fault} (hf : f.Within L.inFault) (k : α → Build β) : Gives L (throw f >>= k) Q :=
  .bind (P := fun _ => False) (.throw hf) fun _ h => h.elim

end Build

open Build (Gives)

/-! ## Parts of statements -/

theorem startLine_gives {line : Nat} (hline : L.inText line) : Gives L (startLine line) fun _ => True :=
  .modify fun _ _ => hline

section

variable (hev : ev.Keeps L) (s : Setting)

include hev

theorem expression_gives {e : Expr String} (he : e.Within L.inText) :
    Gives L (expression ev s e) fun _ => True :=
  .bind .get fun _ _ => .lift ((prepare_gives hev _ _ he).imp fun _ _ => trivial)

theorem expression?_gives {o : Option (Expr String)} (ho : ∀ e ∈ o, e.Within L.inText) :
    Gives L (expression? ev s o) fun _ => True := by
  cases o with
  | none => exact .pure trivial
  | some e => exact .bind (expression_gives hev s (ho e rfl)) fun _ _ => .pure trivial

omit hev in
theorem assigned_gives (t : Target String) : Gives L (assigned s t) fun _ => True :=
  .bind .get fun _ _ => .lift (resolveTarget_keeps _ t)

omit hev in
theorem variableOf_gives (name : String) : Gives L (variableOf s name) fun _ => True :=
  .bind .get fun _ _ => .lift (meaning_keeps _ name)

theorem constantText?_keeps (st : EscapeState) (e : Expr String) : (constantText? ev st e).Keeps L := by
  unfold constantText?
  grind

/-- What is printed as a constant has no line; what has to be evaluated has its own. -/
def PartWithin (ok : Nat → Prop) (p : String ⊕ Expr String) : Prop :=
  ∀ e, p = .inr e → e.Within ok

theorem partOf_gives (st : EscapeState) {e : Expr String} (he : e.Within L.inText) :
    Gives L (partOf ev st e) (PartWithin L.inText) := by
  unfold partOf
  refine .bind (.lift (constantText?_keeps hev st e)) fun o _ => ?_
  split
  · exact .pure nofun
  · exact .pure fun e' h => Sum.inr.inj h ▸ he

omit hev in
theorem joinTexts_within {ok : Nat → Prop} {ps : List (String ⊕ Expr String)} (h : ∀ p ∈ ps, PartWithin ok p) :
    ∀ p ∈ joinTexts ps, PartWithin ok p := by
  induction ps with
  | nil => exact h
  | cons p ps ih =>
    obtain ⟨hp, hps⟩ := List.forall_mem_cons.1 h
    cases p with
    | inr e => exact List.forall_mem_cons.2 ⟨hp, ih hps⟩
    | inl s =>
      unfold joinTexts
      split
      next t rest hrest =>
        exact List.forall_mem_cons.2 ⟨nofun, fun q hq => ih hps q (hrest ▸ List.mem_cons_of_mem _ hq)⟩
      next => exact List.forall_mem_cons.2 ⟨nofun, ih hps⟩

theorem printPart_gives (st : EscapeState) {p : String ⊕ Expr String} (hp : PartWithin L.inText p) :
    Gives L (printPart ev s st p) (·.Within L.inText) := by
  cases p with
  | inl text => exact .pure (.emit text)
  | inr e =>
    have he : e.Within L.inText := hp e rfl
    exact .bind (startLine_gives he.line) fun _ _ => .bind (expression_gives hev s he) fun e' _ =>
      .pure (.print he.line _ e')

theorem printing_gives {items : List (Expr String)} (h : ∀ e ∈ items, e.Within L.inText) :
    Gives L (printing ev s items) (∀ c ∈ ·, c.Within L.inText) := by
  unfold printing
  exact .bind .get fun p _ => .bind (.mapM fun e he => partOf_gives hev _ (h e he)) fun parts hparts =>
    .mapM fun p hp => printPart_gives hev s _ (joinTexts_within hparts p hp)

omit hev in
theorem untilExtended_within {ok : Nat → Prop} (checked : Bool) {steps : List Code} (h : ∀ c ∈ steps, c.Within ok) :
    ∀ c ∈ untilExtended checked steps, c.Within ok := by
  cases checked with
  | true => simpa [untilExtended] using .unlessExtended h
  | false => exact h

omit hev in
theorem scopedSteps_within {ok : Nat → Prop} (symbols : Symbols) {steps : List Code} (h : ∀ c ∈ steps, c.Within ok) :
    ∀ c ∈ scopedSteps symbols steps, c.Within ok :=
  List.forall_mem_cons.2 ⟨.enter _, List.forall_mem_append.2 ⟨h, by simpa using .leave _⟩⟩

theorem openMacro_gives {line : Nat} (hline : L.inText line) (name : Option String) (params : List (Nat × String))
    {defaults : List (Expr String)} (hdefaults : ∀ e ∈ defaults, e.Within L.inText) (body : List Stmt) :
    Gives L (openMacro ev s line name params defaults body) (L.inText ·.1.line) := by
  unfold openMacro
  extract_lets _ _ _ _ _ _ _ _ inside _ rest
  have hrest : ∀ v, Gives L (rest v) (L.inText ·.1.line) := fun _ =>
    .bind (startLine_gives hline) fun _ _ => .bind (.mapM fun e he => expression_gives hev inside (hdefaults e he))
      fun _ _ => .bind (.mapM fun name _ => variableOf_gives inside name) fun _ _ => .pure hline
  split
  · refine Build.throw_bind_gives ?_ rest
    exact hline _ _
  · exact hrest ()

omit hev in
theorem published_gives (t : Target String) : Gives L (published s t) (∀ c ∈ ·, c.Within L.inText) := by
  unfold published
  extract_lets names
  split
  · exact .pure nofun
  · refine .bind (.mapM (Q := fun _ => True) fun name _ => ?_) fun vars _ => .pure (by simpa using .publish vars)
    exact .bind (variableOf_gives s name) fun _ _ => .pure trivial

end

/-! ## The names in statements -/

/-- An assignment is on one of some lines. -/
def Mention.Within (ok : Nat → Prop) : Mention → Prop
  | .assign line _ => ok line
  | .use _ | .parameter _ => True

section

variable {ok : Nat → Prop}

theorem usesIn_within (names : List String) : ∀ m ∈ usesIn names, m.Within ok := by
  unfold usesIn
  exact List.forall_mem_map.2 fun _ _ => trivial

theorem assignedByAll_eq (ts : List (Target String)) : assignedByAll ts = ts.flatMap (·.assigned) := by
  induction ts with
  | nil => unfold assignedByAll; rfl
  | cons t ts ih => unfold assignedByAll; rw [ih, List.flatMap_cons]

theorem assigned_within {t : Target String} (h : t.Within ok) : ∀ a ∈ t.assigned, ok a.1 := by
  induction h with
  | name hl place => unfold Target.assigned; simpa using hl
  | field hl place field => unfold Target.assigned; simp
  | tuple hl _ ih =>
    unfold Target.assigned
    rw [assignedByAll_eq]
    exact List.forall_mem_flatMap.2 ih

theorem targetMentions_within {t : Target String} (h : t.Within ok) : ∀ m ∈ t.mentions, m.Within ok :=
  List.forall_mem_map.2 (assigned_within h)

theorem parameters_within (t : Target String) : ∀ m ∈ t.parameters, m.Within ok :=
  List.forall_mem_map.2 fun _ _ => trivial

theorem parameterMentions_within (params : List (Nat × String)) : ∀ m ∈ parameterMentions params, m.Within ok :=
  List.forall_mem_map.2 fun _ _ => trivial

theorem mentionsOfAll_within {inside : Bool} {body : List Stmt} (h : ∀ x ∈ body, ∀ m ∈ x.mentions inside, m.Within ok) :
    ∀ m ∈ mentionsOfAll inside body, m.Within ok := by
  induction body with
  | nil => unfold mentionsOfAll; exact nofun
  | cons x rest ih =>
    obtain ⟨hx, hrest⟩ := List.forall_mem_cons.1 h
    unfold mentionsOfAll
    exact List.forall_mem_append.2 ⟨hx, ih hrest⟩

theorem mentionsOfBranches_within {inside : Bool} {elifs : List (Nat × Expr String × List Stmt)}
    (h : ∀ b ∈ elifs, ∀ x ∈ b.2.2, ∀ m ∈ x.mentions inside, m.Within ok) :
    ∀ m ∈ mentionsOfBranches inside elifs, m.Within ok := by
  induction elifs with
  | nil => unfold mentionsOfBranches; exact nofun
  | cons b rest ih =>
    obtain ⟨hb, hrest⟩ := List.forall_mem_cons.1 h
    unfold mentionsOfBranches
    exact List.forall_mem_append.2 ⟨List.forall_mem_append.2 ⟨usesIn_within _, mentionsOfAll_within hb⟩, ih hrest⟩

/-- What a statement assigns to has its lines. -/
theorem mentions_within {x : Stmt} (h : x.Within ok) (inside : Bool) : ∀ m ∈ x.mentions inside, m.Within ok := by
  induction h with
  | forLoop hl htarget _ _ _ _ _ ihbody ihotherwise =>
    unfold Stmt.mentions
    simp only [List.forall_mem_append]
    exact ⟨⟨⟨⟨targetMentions_within htarget, usesIn_within _⟩, mentionsOfAll_within ihbody⟩,
      mentionsOfAll_within ihotherwise⟩, usesIn_within _⟩
  | ifElse hl _ _ _ _ _ _ ihbody ihbodies ihotherwise =>
    unfold Stmt.mentions
    simp only [List.forall_mem_append]
    exact ⟨⟨⟨usesIn_within _, mentionsOfAll_within ihbody⟩, mentionsOfBranches_within ihbodies⟩,
      mentionsOfAll_within ihotherwise⟩
  | withScope hl _ _ _ ihbody =>
    unfold Stmt.mentions
    simp only [List.forall_mem_append]
    exact ⟨⟨List.forall_mem_flatMap.2 fun b _ => parameters_within b.1, usesIn_within _⟩, mentionsOfAll_within ihbody⟩
  | autoescape hl _ _ ihbody =>
    unfold Stmt.mentions
    exact List.forall_mem_append.2 ⟨usesIn_within _, mentionsOfAll_within ihbody⟩
  | block hl _ _ _ _ ihbody =>
    unfold Stmt.mentions
    split
    · exact mentionsOfAll_within ihbody
    · exact nofun
  | macroDef hl _ params _ _ ihbody =>
    unfold Stmt.mentions
    simp only [List.forall_mem_append]
    exact ⟨⟨parameterMentions_within params, usesIn_within _⟩, mentionsOfAll_within ihbody⟩
  | callBlock hl params _ _ _ ihbody =>
    unfold Stmt.mentions
    simp only [List.forall_mem_append]
    exact ⟨⟨⟨usesIn_within _, parameterMentions_within params⟩, usesIn_within _⟩, mentionsOfAll_within ihbody⟩
  | filterBlock hl _ _ ihbody =>
    unfold Stmt.mentions
    exact List.forall_mem_append.2 ⟨mentionsOfAll_within ihbody, usesIn_within _⟩
  | set hl htarget _ =>
    unfold Stmt.mentions
    exact List.forall_mem_append.2 ⟨targetMentions_within htarget, usesIn_within _⟩
  | setBlock hl htarget _ _ ihbody =>
    unfold Stmt.mentions
    simp only [List.forall_mem_append]
    exact ⟨⟨targetMentions_within htarget, usesIn_within _⟩, mentionsOfAll_within ihbody⟩
  | _ => unfold Stmt.mentions; exact usesIn_within _

end

/-- A loop that assigns to the variable of loops does so on a line of a mention. -/
theorem checkLoopVariable_gives {mentions : List Mention} (h : ∀ m ∈ mentions, m.Within L.inText) :
    Gives L (checkLoopVariable mentions) fun _ => True := by
  unfold checkLoopVariable
  extract_lets found
  cases hfound : found with
  | none => exact .pure trivial
  | some l =>
    obtain ⟨m, hm, hassign⟩ := List.exists_of_findSome?_eq_some hfound
    refine .throw ?_
    have hline := h m hm
    split at hassign
    · exact Option.some.inj hassign ▸ hline _ _
    · cases hassign

/-! ## Statements -/

section

variable (hev : ev.Keeps L)

include hev

theorem loopTest_gives (s : Setting) (symbols : Symbols) {o : Option (Expr String)}
    (ho : ∀ e ∈ o, e.Within L.inText) : Gives L (loopTest ev s symbols o) fun r => ∀ t ∈ r, L.inText t.1 := by
  cases o with
  | none => exact .pure nofun
  | some e =>
    have he : e.Within L.inText := ho e rfl
    unfold loopTest
    exact .bind (startLine_gives he.line) fun _ _ => .bind (expression_gives hev _ he) fun e' _ =>
      .pure fun t ht => Option.some.inj ht ▸ he.line

omit hev in
theorem stepsOf_gives {body : List Stmt}
    (h : ∀ x ∈ body, ∀ s, Gives L (x.steps ev s) (∀ c ∈ ·, c.Within L.inText)) (s : Setting) :
    Gives L (stepsOf ev s body) (∀ c ∈ ·, c.Within L.inText) := by
  induction body with
  | nil => unfold stepsOf; exact .pure nofun
  | cons x rest ih =>
    obtain ⟨hx, hrest⟩ := List.forall_mem_cons.1 h
    unfold stepsOf
    refine .bind .get fun p _ => .bind (hx s) fun first hfirst => ?_
    split
    · exact .pure hfirst
    · exact .bind (ih hrest) fun _ hsteps => .pure (List.forall_mem_append.2 ⟨hfirst, hsteps⟩)

theorem branchSteps_gives {elifs : List (Nat × Expr String × List Stmt)} (hlines : ∀ b ∈ elifs, L.inText b.1)
    (htests : ∀ b ∈ elifs, b.2.1.Within L.inText)
    (hbodies : ∀ b ∈ elifs, ∀ x ∈ b.2.2, ∀ s, Gives L (x.steps ev s) (∀ c ∈ ·, c.Within L.inText)) (s : Setting) :
    Gives L (branchSteps ev s elifs) (∀ b ∈ ·, L.inText b.1 ∧ ∀ c ∈ b.2.2, c.Within L.inText) := by
  induction elifs with
  | nil => unfold branchSteps; exact .pure nofun
  | cons b rest ih =>
    rw [List.forall_mem_cons] at hlines htests hbodies
    unfold branchSteps
    refine .bind (startLine_gives hlines.1) fun _ _ => .bind (expression_gives hev s htests.1) fun test _ =>
      .bind (stepsOf_gives hbodies.1 s) fun body hbody => ?_
    exact .bind (ih hlines.2 htests.2 hbodies.2) fun branches hbranches =>
      .pure (List.forall_mem_cons.2 ⟨⟨hlines.1, hbody⟩, hbranches⟩)

omit hev in
/-- Branches that follow each other, as conditions in each other. -/
theorem nested_within {ok : Nat → Prop} {branches : List (Nat × Expr Ref × List Code)} {no : List Code}
    (h : ∀ b ∈ branches, ok b.1 ∧ ∀ c ∈ b.2.2, c.Within ok) (hno : ∀ c ∈ no, c.Within ok) :
    ∀ c ∈ branches.foldr (fun (l, test, body) no => [.ifElse l test body no]) no, c.Within ok := by
  induction branches with
  | nil => exact hno
  | cons b rest ih =>
    obtain ⟨hb, hrest⟩ := List.forall_mem_cons.1 h
    exact List.forall_mem_singleton.2 (.ifElse hb.1 _ hb.2 (ih hrest))

omit hev in
theorem startLine_if_gives {line : Nat} (hline : L.inText line) (c : Bool) {f : Unit → Build α} {P : α → Prop}
    (hf : Gives L (f ()) P) : Gives L (if c = true then startLine line >>= f else f ()) P := by
  split
  · exact .bind (startLine_gives hline) fun _ _ => hf
  · exact hf

/-! ### One statement of each kind -/

/-- The steps of a statement have lines that are known, wherever it stands. -/
abbrev StepsGive (L : Lines) (ev : Evaluator) (x : Stmt) : Prop :=
  ∀ s, Gives L (x.steps ev s) (∀ c ∈ ·, c.Within L.inText)

section

variable {line : Nat} {target : Target String} {iter test option template call filter value : Expr String}
  {items defaults : List (Expr String)} {body otherwise : List Stmt} {name : String} {params : List (Nat × String)}

theorem output_gives (hitems : ∀ e ∈ items, e.Within L.inText) : StepsGive L ev (.output line items) := by
  intro s
  unfold Stmt.steps
  refine .bind .get fun p _ => ?_
  split
  · exact .pure (List.forall_mem_nil _)
  · exact .bind (printing_gives hev s hitems) fun _ hsteps => .pure (untilExtended_within _ hsteps)

theorem forLoop_gives {test : Option (Expr String)} (hl : L.inText line) (htarget : target.Within L.inText)
    (hiter : iter.Within L.inText) (hbody : ∀ x ∈ body, x.Within L.inText)
    (hotherwise : ∀ x ∈ otherwise, x.Within L.inText) (htest : ∀ e ∈ test, e.Within L.inText) (recursive : Bool)
    (ihbody : ∀ x ∈ body, StepsGive L ev x) (ihotherwise : ∀ x ∈ otherwise, StepsGive L ev x) :
    StepsGive L ev (.forLoop line target iter body otherwise test recursive) := by
  have hall : ∀ {body : List Stmt}, (∀ x ∈ body, x.Within L.inText) →
      ∀ m ∈ mentionsOfAll true body, m.Within L.inText :=
    fun h => mentionsOfAll_within fun x hx => mentions_within (h x hx) true
  have hmentions := List.forall_mem_append.2
    ⟨List.forall_mem_append.2 ⟨targetMentions_within htarget, hall hbody⟩, hall hotherwise⟩
  intro s
  unfold Stmt.steps
  extract_lets isExtended
  split
  next inBody inOtherwise inTest _ =>
  extract_lets loop
  refine .bind (loopTest_gives hev s inTest htest) fun test' htest' => ?_
  -- what comes last stands first: it does not use what is bound before it
  extract_lets rest afterTest
  have hrest : ∀ before, Gives L (rest before) (∀ c ∈ ·, c.Within L.inText) := by
    intro before
    refine .bind (assigned_gives loop _) fun target _ => .bind (stepsOf_gives ihbody loop) fun inside hinside =>
      .bind (stepsOf_gives ihotherwise _) fun instead hinstead => ?_
    refine startLine_if_gives hl recursive ?_
    extract_lets last
    have hlast : ∀ iter, Gives L (last iter) (∀ c ∈ ·, c.Within L.inText) := fun iter =>
      .bind .get fun p _ => .pure (List.forall_mem_singleton.2
        (.forLoop ⟨hl, htest'⟩ hinside _ (scopedSteps_within _ hinstead)))
    split
    · exact hlast _
    · exact .bind (expression_gives hev s hiter) fun iter _ => hlast iter
  refine startLine_if_gives hl recursive (.bind (checkLoopVariable_gives hmentions) fun _ _ =>
    .bind (startLine_gives hl) fun _ _ => ?_)
  split
  · exact hrest none
  · exact .bind (expression?_gives hev s fun e he => Option.some.inj he ▸ hiter) fun before _ => hrest before

theorem ifElse_gives {elifs : List (Nat × Expr String × List Stmt)} (hl : L.inText line)
    (htest : test.Within L.inText) (hlines : ∀ b ∈ elifs, L.inText b.1)
    (htests : ∀ b ∈ elifs, b.2.1.Within L.inText) (ihbody : ∀ x ∈ body, StepsGive L ev x)
    (ihbodies : ∀ b ∈ elifs, ∀ x ∈ b.2.2, StepsGive L ev x) (ihotherwise : ∀ x ∈ otherwise, StepsGive L ev x) :
    StepsGive L ev (.ifElse line test body elifs otherwise) := by
  intro s
  unfold Stmt.steps
  extract_lets s
  exact .bind (startLine_gives hl) fun _ _ => .bind (expression_gives hev s htest) fun test _ =>
    .bind (stepsOf_gives ihbody s) fun yes hyes =>
    .bind (branchSteps_gives hev hlines htests ihbodies s) fun branches hbranches =>
    .bind (stepsOf_gives ihotherwise s) fun no hno =>
      .pure (List.forall_mem_singleton.2 (.ifElse hl test hyes (nested_within hbranches hno)))

theorem withScope_gives {bindings : List (Target String × Expr String)}
    (hvalues : ∀ b ∈ bindings, b.2.Within L.inText) (ihbody : ∀ x ∈ body, StepsGive L ev x) :
    StepsGive L ev (.withScope line bindings body) := by
  intro s
  unfold Stmt.steps
  extract_lets symbols inside
  refine .bind (.mapM (Q := (·.Within L.inText)) fun b hb => ?_) fun binds hbinds =>
    .bind (stepsOf_gives ihbody inside) fun steps hsteps =>
      .pure (scopedSteps_within _ (List.forall_mem_append.2 ⟨hbinds, hsteps⟩))
  exact .bind (assigned_gives inside b.1) fun t _ => .bind .get fun p hp =>
    .bind (expression_gives hev s (hvalues b hb)) fun e _ => .pure (.bind hp t e)

theorem autoescape_gives (hoption : option.Within L.inText) (ihbody : ∀ x ∈ body, StepsGive L ev x) :
    StepsGive L ev (.autoescape line option body) := by
  intro s
  unfold Stmt.steps
  extract_lets symbols inside
  refine .bind .get fun p hp => .bind (expression_gives hev inside hoption) fun e _ =>
    .bind (.lift (constant?_keeps hev _ _)) fun v _ => ?_
  extract_lets rest
  have hrest : ∀ v, Gives L (rest v) (∀ c ∈ ·, c.Within L.inText) := fun _ =>
    .bind (stepsOf_gives ihbody inside) fun body hbody => .bind (.modify fun _ hq => hq) fun _ _ =>
      .pure (scopedSteps_within _ (List.forall_mem_singleton.2 (.escapeIf hp e hbody)))
  split
  · exact .bind (.lift (truth_keeps hev _)) fun _ _ => .bind (.modify fun _ hq => hq) fun v _ => hrest v
  · exact .bind (.modify fun _ hq => hq) fun v _ => hrest v

omit hev in
theorem block_gives (hl : L.inText line) (isScoped isRequired : Bool) :
    StepsGive L ev (.block line name isScoped isRequired body) := by
  intro s
  unfold Stmt.steps
  refine .bind .get fun p _ => ?_
  split
  · exact .pure (List.forall_mem_nil _)
  · exact .bind (startLine_gives hl) fun _ _ =>
      .pure (untilExtended_within _ (List.forall_mem_singleton.2 (.block hl name _ isRequired)))

theorem extends_gives (hl : L.inText line) (htemplate : template.Within L.inText) :
    StepsGive L ev (.extends line template) := by
  intro s
  unfold Stmt.steps
  extract_lets rest
  have hrest : ∀ v, Gives L (rest v) (∀ c ∈ ·, c.Within L.inText) := by
    refine fun _ => .bind .get fun p _ => ?_
    split
    · exact .pure (List.forall_mem_singleton.2 .failIfExtended)
    · refine .bind (startLine_gives hl) fun _ _ => .bind (expression_gives hev s htemplate) fun e _ =>
        .bind (.modify fun _ hq => hq) fun _ _ =>
          .pure (List.forall_mem_append.2 ⟨?_, List.forall_mem_singleton.2 (.extend hl e)⟩)
      split
      · exact List.forall_mem_nil _
      · exact List.forall_mem_singleton.2 .failIfExtended
  split
  · refine Build.throw_bind_gives ?_ rest
    exact hl _ _
  · exact hrest ()

theorem inclusion_gives (hl : L.inText line) (htemplate : template.Within L.inText)
    (ignoreMissing withContext : Bool) : StepsGive L ev (.inclusion line template ignoreMissing withContext) := by
  intro s
  rw [steps_inclusion]
  exact .bind (startLine_gives hl) fun _ _ => .bind (expression_gives hev s htemplate) fun e _ =>
    .pure (List.forall_mem_singleton.2 (.inclusion hl e ignoreMissing _ _))

theorem importAs_gives (hl : L.inText line) (htemplate : template.Within L.inText) (target : String)
    (withContext : Bool) : StepsGive L ev (.importAs line template target withContext) := by
  intro s
  unfold Stmt.steps
  refine .bind (startLine_gives hl) fun _ _ => .bind (expression_gives hev s htemplate) fun e _ =>
    .bind (variableOf_gives s target) fun r _ => .pure (List.forall_mem_cons.2 ⟨.importAs hl e r _, ?_⟩)
  split
  · exact List.forall_mem_singleton.2 (.conceal _)
  · exact List.forall_mem_nil _

theorem importNames_gives (hl : L.inText line) (htemplate : template.Within L.inText)
    (names : List (String × String)) (withContext : Bool) :
    StepsGive L ev (.importNames line template names withContext) := by
  intro s
  unfold Stmt.steps
  refine .bind (startLine_gives hl) fun _ _ => .bind (expression_gives hev s htemplate) fun e _ =>
    .bind (.mapM (Q := fun _ => True) fun n _ => .bind (variableOf_gives s n.2) fun _ _ => .pure trivial)
      fun refs _ => .pure (List.forall_mem_cons.2 ⟨.importNames hl e refs _, ?_⟩)
  split
  · exact List.forall_mem_singleton.2 (.conceal _)
  · exact List.forall_mem_nil _

theorem macroDef_gives (hl : L.inText line) (hdefaults : ∀ e ∈ defaults, e.Within L.inText)
    (ihbody : ∀ x ∈ body, StepsGive L ev x) : StepsGive L ev (.macroDef line name params defaults body) := by
  intro s
  unfold Stmt.steps
  refine .bind (openMacro_gives hev s hl (some name) params hdefaults _) fun opened hsignature =>
    .bind (stepsOf_gives ihbody opened.2) fun body hbody => .bind (variableOf_gives s name) fun r _ =>
      .pure (List.forall_mem_cons.2 ⟨.defineMacro r hsignature hbody, ?_⟩)
  split
  · exact List.forall_mem_singleton.2 (.publish _)
  · exact List.forall_mem_nil _

theorem callBlock_gives (hl : L.inText line) (hdefaults : ∀ e ∈ defaults, e.Within L.inText)
    (hcall : call.Within L.inText) (ihbody : ∀ x ∈ body, StepsGive L ev x) :
    StepsGive L ev (.callBlock line params defaults call body) := by
  intro s
  unfold Stmt.steps
  exact .bind (openMacro_gives hev s hl none params hdefaults _) fun opened hsignature =>
    .bind (stepsOf_gives ihbody opened.2) fun body hbody => .bind (startLine_gives hl) fun _ _ =>
    .bind (expression_gives hev s hcall) fun call _ =>
      .pure (List.forall_mem_singleton.2 (.callMacro hl call hsignature hbody))

theorem filterBlock_gives (hl : L.inText line) (hfilter : filter.Within L.inText)
    (ihbody : ∀ x ∈ body, StepsGive L ev x) : StepsGive L ev (.filterBlock line filter body) := by
  intro s
  unfold Stmt.steps
  extract_lets symbols inside
  exact .bind (stepsOf_gives ihbody inside) fun body hbody => .bind (startLine_gives hl) fun _ _ =>
    .bind (expression_gives hev inside hfilter) fun e _ => .bind .get fun p _ =>
      .pure (scopedSteps_within _ (List.forall_mem_singleton.2 (.filtered hl e _ hbody)))

theorem set_gives (hl : L.inText line) (hvalue : value.Within L.inText) :
    StepsGive L ev (.set line target value) := by
  intro s
  unfold Stmt.steps
  extract_lets checked
  refine .bind (.mapM fun name _ => variableOf_gives s name) fun refs _ => .bind (startLine_gives hl) fun _ _ =>
    .bind (assigned_gives s _) fun t _ => .bind (expression_gives hev s hvalue) fun e _ => ?_
  refine .bind (published_gives s _) fun names hnames =>
    .pure (List.forall_mem_append.2 ⟨?_, List.forall_mem_cons.2 ⟨.bind hl t e, hnames⟩⟩)
  split
  · exact List.forall_mem_nil _
  · exact List.forall_mem_singleton.2 (.requireNamespaces _)

theorem setBlock_gives {filter : Option (Expr String)} (hl : L.inText line)
    (hfilter : ∀ e ∈ filter, e.Within L.inText) (ihbody : ∀ x ∈ body, StepsGive L ev x) :
    StepsGive L ev (.setBlock line target filter body) := by
  intro s
  unfold Stmt.steps
  extract_lets symbols inside
  exact .bind (stepsOf_gives ihbody inside) fun body hbody => .bind (startLine_gives hl) fun _ _ =>
    .bind (assigned_gives s _) fun t _ => .bind (expression?_gives hev inside hfilter) fun e _ =>
    .bind .get fun p _ => .bind (published_gives s _) fun names hnames =>
      .pure (scopedSteps_within _ (List.forall_mem_cons.2 ⟨.capture hl t e _ hbody, hnames⟩))

end

/-! ### All statements -/

/-- The steps of a statement have lines of the statement. -/
theorem steps_gives {x : Stmt} (h : x.Within L.inText) : StepsGive L ev x := by
  induction h with
  | output _ hitems => exact output_gives hev hitems
  | forLoop hl htarget hiter hbody hotherwise htest recursive ihbody ihotherwise =>
    exact forLoop_gives hev hl htarget hiter hbody hotherwise htest recursive ihbody ihotherwise
  | ifElse hl htest _ hlines htests _ _ ihbody ihbodies ihotherwise =>
    exact ifElse_gives hev hl htest hlines htests ihbody ihbodies ihotherwise
  | withScope _ _ hvalues _ ihbody => exact withScope_gives hev hvalues ihbody
  | autoescape _ hoption _ ihbody => exact autoescape_gives hev hoption ihbody
  | block hl _ isScoped isRequired => exact block_gives hl isScoped isRequired
  | «extends» hl htemplate => exact extends_gives hev hl htemplate
  | inclusion hl htemplate ignoreMissing withContext =>
    exact inclusion_gives hev hl htemplate ignoreMissing withContext
  | importAs hl htemplate target withContext => exact importAs_gives hev hl htemplate target withContext
  | importNames hl htemplate names withContext => exact importNames_gives hev hl htemplate names withContext
  | macroDef hl _ _ hdefaults _ ihbody => exact macroDef_gives hev hl hdefaults ihbody
  | callBlock hl _ hdefaults hcall _ ihbody => exact callBlock_gives hev hl hdefaults hcall ihbody
  | filterBlock hl hfilter _ ihbody => exact filterBlock_gives hev hl hfilter ihbody
  | set hl _ hvalue => exact set_gives hev hl hvalue
  | setBlock hl _ hfilter _ ihbody => exact setBlock_gives hev hl hfilter ihbody

end

/-! ## Templates -/

section

variable {ok : Nat → Prop}

/-- The lines of a block are among some lines. -/
structure BlockStmt.Within (ok : Nat → Prop) (b : BlockStmt) : Prop where
  line : ok b.line
  body : ∀ x ∈ b.body, x.Within ok

theorem blocksIn_within {body : List Stmt} (h : ∀ x ∈ body, ∀ b ∈ x.blocks, b.Within ok) :
    ∀ b ∈ blocksIn body, b.Within ok := by
  induction body with
  | nil => unfold blocksIn; exact nofun
  | cons x rest ih =>
    obtain ⟨hx, hrest⟩ := List.forall_mem_cons.1 h
    unfold blocksIn
    exact List.forall_mem_append.2 ⟨hx, ih hrest⟩

theorem blocksInBranches_within {elifs : List (Nat × Expr String × List Stmt)}
    (h : ∀ e ∈ elifs, ∀ x ∈ e.2.2, ∀ b ∈ x.blocks, b.Within ok) : ∀ b ∈ blocksInBranches elifs, b.Within ok := by
  induction elifs with
  | nil => unfold blocksInBranches; exact nofun
  | cons e rest ih =>
    obtain ⟨he, hrest⟩ := List.forall_mem_cons.1 h
    unfold blocksInBranches
    exact List.forall_mem_append.2 ⟨blocksIn_within he, ih hrest⟩

/-- The blocks in a statement have its lines. -/
theorem blocks_within {x : Stmt} (h : x.Within ok) : ∀ b ∈ x.blocks, b.Within ok := by
  induction h with
  | forLoop _ _ _ _ _ _ _ ihbody ihotherwise =>
    unfold Stmt.blocks
    exact List.forall_mem_append.2 ⟨blocksIn_within ihbody, blocksIn_within ihotherwise⟩
  | ifElse _ _ _ _ _ _ _ ihbody ihbodies ihotherwise =>
    unfold Stmt.blocks
    simp only [List.forall_mem_append]
    exact ⟨⟨blocksIn_within ihbody, blocksInBranches_within ihbodies⟩, blocksIn_within ihotherwise⟩
  | block hl _ _ _ hbody ihbody =>
    unfold Stmt.blocks
    exact List.forall_mem_cons.2 ⟨⟨hl, hbody⟩, blocksIn_within ihbody⟩
  | withScope _ _ _ _ ihbody | autoescape _ _ _ ihbody | macroDef _ _ _ _ _ ihbody | callBlock _ _ _ _ _ ihbody
  | filterBlock _ _ _ ihbody | setBlock _ _ _ _ ihbody =>
    unfold Stmt.blocks
    exact blocksIn_within ihbody
  | _ => unfold Stmt.blocks; exact nofun

theorem duplicate?_mem {seen : List String} {blocks : List BlockStmt} {b : BlockStmt}
    (h : duplicate? seen blocks = some b) : b ∈ blocks := by
  induction blocks generalizing seen with
  | nil => cases h
  | cons c rest ih =>
    unfold duplicate? at h
    split at h
    · exact Option.some.inj h ▸ List.mem_cons_self
    · exact List.mem_cons_of_mem _ (ih h)

end

theorem sectionOf_gives (hev : ev.Keeps L) (isRoot checksExtension : Bool) {line : Nat} (hline : L.inText line)
    (special : List String) {body : List Stmt} (hbody : ∀ x ∈ body, x.Within L.inText) :
    Gives L (sectionOf ev isRoot checksExtension line special body) (·.Within L.inText) := by
  unfold sectionOf
  extract_lets wanted symbols refOf
  exact .bind (stepsOf_gives (fun x hx => steps_gives hev (hbody x hx)) _) fun steps hsteps => .pure ⟨hline, hsteps⟩

/-- The program of a template has lines of its statements, and the first line. -/
theorem Program.ofTemplate_gives (hev : ev.Keeps L) (hfirst : L.inText 1) {body : List Stmt}
    (hbody : ∀ x ∈ body, x.Within L.inText) :
    (Program.ofTemplate ev body).Gives L none (·.Within L.inText) := by
  have hblocks := blocksIn_within fun x hx => blocks_within (hbody x hx)
  unfold Program.ofTemplate
  extract_lets blocks extending build run
  have hbuild : Gives L build (·.Within L.inText) := by
    refine .bind (sectionOf_gives hev true extending hfirst _ hbody) fun root hroot => .bind .get fun p hp => ?_
    refine .bind (.mapM (Q := fun b => b.2.Within L.inText) fun b hb => ?_) fun parts hparts =>
      .pure ⟨hroot, hp, hparts⟩
    exact .bind (startLine_gives (hblocks b hb).line) fun _ _ =>
      .bind (sectionOf_gives hev false false (hblocks b hb).line _ (hblocks b hb).body) fun part hpart => .pure hpart
  have hrun : ∀ v, (run v).Gives L none (·.Within L.inText) := fun _ =>
    Eval.Gives.bind (hbuild _ hfirst) fun r hr => .pure hr.1
  split
  next b hb =>
    have hline := (hblocks b (duplicate?_mem hb)).line
    exact Eval.Gives.bind (Eval.Keeps.throw (hline _ _)) fun v _ => hrun v
  next => exact hrun ()

/-- A computation that asks nothing ends as every end of it does, or because it asks. -/
theorem Script.Always.alone {ended : α → Machine → Prop} {failed : Fault → Machine → Prop} {x : Script α}
    (h : x.Always L ended failed) :
    (∀ a, x.alone = .ok a → ∃ m, ended a m) ∧
      ∀ f, x.alone = .error f → (∃ m, failed f m) ∨ f = .raised .stopped "a question without an answer" := by
  cases x with
  | ok a m => exact ⟨fun _ ha => Except.ok.inj ha ▸ ⟨m, h⟩, nofun⟩
  | error f m => exact ⟨nofun, fun _ hf => Except.error.inj hf ▸ .inl ⟨m, h⟩⟩
  | ask q next => exact ⟨nofun, fun _ hf => .inr (Except.error.inj hf).symm⟩

theorem Machine.empty_within (strict : Bool) : (Machine.empty strict).Within L := by
  constructor <;> simp [Machine.empty]

theorem Program.ofTemplate_alone (hev : ∀ L, ev.Keeps L) {ok : Nat → Prop} (hfirst : ok 1) {body : List Stmt}
    (hbody : ∀ x ∈ body, x.Within ok) (strict : Bool) :
    (∀ p, (Program.ofTemplate ev body (.empty strict)).alone = .ok p → p.Within ok) ∧
      ∀ f, (Program.ofTemplate ev body (.empty strict)).alone = .error f → f.On ok := by
  let L : Lines := ⟨fun _ _ => True, fun _ _ => ok, fun _ => trivial⟩
  have hL : L.inText = ok := funext fun l => propext ⟨fun h => h .syntaxError "", fun h _ _ => h⟩
  have hgives : (Program.ofTemplate ev body).Gives L none (·.Within ok) := by
    rw [← hL] at hfirst hbody ⊢
    exact Program.ofTemplate_gives (hev L) hfirst hbody
  obtain ⟨hok, herror⟩ := (hgives _ (Machine.empty_within strict) nofun).alone
  refine ⟨fun p hp => (hok p hp).elim fun _ h => h.1, fun f hf => ?_⟩
  obtain ⟨_, h, _⟩ | rfl := herror f hf
  · exact h
  · trivial

/-- The program of a text has lines of the text, and so has a fault that comes instead of it. -/
theorem programOf_within (config : EngineConfig) (source : String) :
    (∀ p, programOf config source = .ok p → p.Within (IsLine source)) ∧
      ∀ f, programOf config source = .error f → f.On (IsLine source) := by
  obtain ⟨hbody, hfault⟩ := Parser.parse_within (Lexer.Config.ofEngine config) source
  unfold programOf
  cases hparse : Parser.parse (Lexer.Config.ofEngine config) source with
  | error f => exact ⟨nofun, fun _ h => Except.error.inj h ▸ hfault f hparse⟩
  | ok body =>
    exact Program.ofTemplate_alone (fun L => evaluator_keeps depthLimit) (isLine_one source) (hbody body hparse) _

end TemplateTree.Template
