import TemplateTree.Proofs.Lines.Expressions
import TemplateTree.Proofs.Lines.Syntax
import TemplateTree.Template.Naming

/-!
# Lines of named expressions

Folding constants and resolving names leaves an expression its lines.

* `prepare_gives`: an expression that is ready for evaluation has lines of the one that it was.
-/

namespace TemplateTree.Template

open Eval

variable {α β κ ν : Type} {L : Lines} {ev : Evaluator}

/-! ## Computations over parts -/

namespace Eval.Gives

variable {given : β → Prop} {f : α → Eval β}

theorem mapM {l : List α} (h : ∀ a ∈ l, (f a).Gives L none given) : (l.mapM f).Gives L none (∀ b ∈ ·, given b) := by
  induction l with
  | nil => exact .pure nofun
  | cons a l ih =>
    obtain ⟨ha, hl⟩ := List.forall_mem_cons.1 h
    rw [List.mapM_cons]
    exact ha.bind fun b hb => (ih hl).bind fun bs hbs => .pure (List.forall_mem_cons.2 ⟨hb, hbs⟩)

/-- Parts under keys. -/
theorem mapM_snd {l : List (κ × α)} (h : ∀ p ∈ l, (f p.2).Gives L none given) :
    (l.mapM fun p : κ × α => do return (p.1, ← f p.2)).Gives L none (∀ q ∈ ·, given q.2) :=
  mapM fun p hp => (h p hp).bind fun _ hb => .pure hb

/-- Parts in pairs. -/
theorem mapM_both {l : List (α × α)} (hfst : ∀ p ∈ l, (f p.1).Gives L none given)
    (hsnd : ∀ p ∈ l, (f p.2).Gives L none given) :
    (l.mapM fun p : α × α => do return (← f p.1, ← f p.2)).Gives L none fun l' =>
      (∀ q ∈ l', given q.1) ∧ ∀ q ∈ l', given q.2 := by
  have h : ∀ p ∈ l, (do return (← f p.1, ← f p.2) : Eval (β × β)).Gives L none fun q => given q.1 ∧ given q.2 :=
    fun p hp => (hfst p hp).bind fun _ ha => (hsnd p hp).bind fun _ hb => .pure ⟨ha, hb⟩
  exact (mapM h).imp fun l' hl' => ⟨fun q hq => (hl' q hq).1, fun q hq => (hl' q hq).2⟩

end Eval.Gives

/-! ## Folding -/

section

variable (ev : Evaluator) (st : EscapeState)

theorem foldAll_eq (es : List (Expr String)) : foldAll ev st es = es.mapM (fold ev st) := by
  induction es with
  | nil => unfold foldAll; rfl
  | cons e es ih => unfold foldAll; rw [List.mapM_cons, ih]

theorem foldPairs_eq (ps : List (Expr String × Expr String)) :
    foldPairs ev st ps = ps.mapM fun p => do return (← fold ev st p.1, ← fold ev st p.2) := by
  induction ps with
  | nil => unfold foldPairs; rfl
  | cons p ps ih => unfold foldPairs; simp [List.mapM_cons, ih]

theorem foldNamed_eq (ps : List (String × Expr String)) :
    foldNamed ev st ps = ps.mapM fun p => do return (p.1, ← fold ev st p.2) := by
  induction ps with
  | nil => unfold foldNamed; rfl
  | cons p ps ih => unfold foldNamed; simp [List.mapM_cons, ih]

theorem foldRest_eq (ps : List (CompareOp × Expr String)) :
    foldRest ev st ps = ps.mapM fun p => do return (p.1, ← fold ev st p.2) := by
  induction ps with
  | nil => unfold foldRest; rfl
  | cons p ps ih => unfold foldRest; simp [List.mapM_cons, ih]

end

section

variable (hev : ev.Keeps L) (st : EscapeState)

include hev

/-- A constant in place of an expression has its line. -/
theorem settle_gives {e : Expr String} (h : e.Within L.inText) :
    (settle ev st e).Gives L none (·.Within L.inText) := by
  unfold settle
  split
  iterate 3 exact .pure h
  refine Gives.bind (constant?_keeps hev st e) fun v _ => ?_
  split
  · exact .pure h
  · refine Gives.bind (literalOf?_keeps _ _) fun l _ => ?_
    split
    · exact .pure (.literal h.line _)
    · exact .pure h

omit hev in
theorem foldOption_gives {o : Option (Expr String)}
    (h : ∀ e ∈ o, (fold ev st e).Gives L none (·.Within L.inText)) :
    (foldOption ev st o).Gives L none (∀ e ∈ ·, e.Within L.inText) := by
  cases o with
  | none => unfold foldOption; exact .pure nofun
  | some e =>
    unfold foldOption
    exact (h e rfl).bind fun e' he => .pure fun x hx => Option.some.inj hx ▸ he

/-- Folding the constants of an expression leaves it its lines. -/
theorem fold_gives {e : Expr String} (h : e.Within L.inText) :
    (fold ev st e).Gives L none (·.Within L.inText) := by
  induction h with
  | literal hl v => unfold fold; exact .pure (.literal hl v)
  | data hl s => unfold fold; exact .pure (.data hl s)
  | name hl s => unfold fold; exact .pure (.name hl s)
  | tuple hl _ ih =>
    unfold fold
    rw [foldAll_eq]
    exact (Gives.mapM ih).bind fun es hes => settle_gives hev st (.tuple hl hes)
  | list hl _ ih =>
    unfold fold
    rw [foldAll_eq]
    exact (Gives.mapM ih).bind fun es hes => settle_gives hev st (.list hl hes)
  | dict hl _ _ ihkeys ihvalues =>
    unfold fold
    rw [foldPairs_eq]
    exact (Gives.mapM_both ihkeys ihvalues).bind fun ps hps => settle_gives hev st (.dict hl hps.1 hps.2)
  | cond hl _ _ _ ihtest ihyes ihno =>
    unfold fold
    exact ihtest.bind fun _ ha => ihyes.bind fun _ hb => (foldOption_gives st ihno).bind fun _ hc =>
      settle_gives hev st (.cond hl ha hb hc)
  | both hl _ _ iha ihb =>
    unfold fold
    exact iha.bind fun _ ha => ihb.bind fun _ hb => settle_gives hev st (.both hl ha hb)
  | either hl _ _ iha ihb =>
    unfold fold
    exact iha.bind fun _ ha => ihb.bind fun _ hb => settle_gives hev st (.either hl ha hb)
  | not hl _ ih =>
    unfold fold
    exact ih.bind fun _ he => settle_gives hev st (.not hl he)
  | binary hl op _ _ iha ihb =>
    unfold fold
    exact iha.bind fun _ ha => ihb.bind fun _ hb => settle_gives hev st (.binary hl op ha hb)
  | negate hl _ ih =>
    unfold fold
    exact ih.bind fun _ he => settle_gives hev st (.negate hl he)
  | plus hl _ ih =>
    unfold fold
    exact ih.bind fun _ he => settle_gives hev st (.plus hl he)
  | concat hl escapes _ ih =>
    unfold fold
    rw [foldAll_eq]
    exact (Gives.mapM ih).bind fun es hes => settle_gives hev st (.concat hl escapes hes)
  | compare hl _ _ ihe ihrest =>
    unfold fold
    rw [foldRest_eq]
    exact ihe.bind fun _ he => (Gives.mapM_snd ihrest).bind fun _ hrest => settle_gives hev st (.compare hl he hrest)
  | attr hl _ field ih =>
    unfold fold
    exact ih.bind fun _ he => settle_gives hev st (.attr hl he field)
  | item hl _ _ ihe ihindex =>
    unfold fold
    exact ihe.bind fun _ he => ihindex.bind fun _ hindex => settle_gives hev st (.item hl he hindex)
  | slice hl _ _ _ iha ihb ihc =>
    unfold fold
    exact (foldOption_gives st iha).bind fun _ ha => (foldOption_gives st ihb).bind fun _ hb =>
      (foldOption_gives st ihc).bind fun _ hc => settle_gives hev st (.slice hl ha hb hc)
  | call hl _ _ _ _ _ ihf ihargs ihnamed ihstar ihstarStar =>
    unfold fold
    rw [foldAll_eq, foldNamed_eq]
    exact ihf.bind fun _ hf => (Gives.mapM ihargs).bind fun _ hargs => (Gives.mapM_snd ihnamed).bind fun _ hnamed =>
      (foldOption_gives st ihstar).bind fun _ hstar => (foldOption_gives st ihstarStar).bind fun _ hstarStar =>
        .pure (.call hl hf hargs hnamed hstar hstarStar)
  | filter hl _ name _ _ _ _ ihe ihargs ihnamed ihstar ihstarStar =>
    unfold fold
    rw [foldAll_eq, foldNamed_eq]
    exact (foldOption_gives st ihe).bind fun _ he => (Gives.mapM ihargs).bind fun _ hargs =>
      (Gives.mapM_snd ihnamed).bind fun _ hnamed => (foldOption_gives st ihstar).bind fun _ hstar =>
        (foldOption_gives st ihstarStar).bind fun _ hstarStar =>
          settle_gives hev st (.filter hl he name hargs hnamed hstar hstarStar)
  | test hl _ name _ _ _ _ ihe ihargs ihnamed ihstar ihstarStar =>
    unfold fold
    rw [foldAll_eq, foldNamed_eq]
    exact ihe.bind fun _ he => (Gives.mapM ihargs).bind fun _ hargs => (Gives.mapM_snd ihnamed).bind fun _ hnamed =>
      (foldOption_gives st ihstar).bind fun _ hstar => (foldOption_gives st ihstarStar).bind fun _ hstarStar =>
        settle_gives hev st (.test hl he name hargs hnamed hstar hstarStar)

end

/-! ## Constants first -/

section

variable (ev : Evaluator) (st : EscapeState)

theorem simplifyAll_eq (es : List (Expr String)) : simplifyAll ev st es = es.mapM (Expr.simplify ev st) := by
  induction es with
  | nil => unfold simplifyAll; rfl
  | cons e es ih => unfold simplifyAll; rw [List.mapM_cons, ih]

theorem simplifyPairs_eq (ps : List (Expr String × Expr String)) :
    simplifyPairs ev st ps = ps.mapM fun p => do return (← p.1.simplify ev st, ← p.2.simplify ev st) := by
  induction ps with
  | nil => unfold simplifyPairs; rfl
  | cons p ps ih => unfold simplifyPairs; simp [List.mapM_cons, ih]

end

theorem simplify_gives (hev : ev.Keeps L) (st : EscapeState) {e : Expr String} (h : e.Within L.inText) :
    (e.simplify ev st).Gives L none (·.Within L.inText) := by
  have hfold := fold_gives hev st h
  induction h with
  | tuple hl hes ih =>
    unfold Expr.simplify
    rw [simplifyAll_eq]
    exact (Gives.mapM fun e he => ih e he (fold_gives hev st (hes e he))).bind fun _ h => .pure (.tuple hl h)
  | list hl hes ih =>
    unfold Expr.simplify
    rw [simplifyAll_eq]
    exact (Gives.mapM fun e he => ih e he (fold_gives hev st (hes e he))).bind fun _ h => .pure (.list hl h)
  | dict hl hkeys hvalues ihkeys ihvalues =>
    unfold Expr.simplify
    rw [simplifyPairs_eq]
    exact (Gives.mapM_both (fun p hp => ihkeys p hp (fold_gives hev st (hkeys p hp)))
      fun p hp => ihvalues p hp (fold_gives hev st (hvalues p hp))).bind fun _ h => .pure (.dict hl h.1 h.2)
  | _ => unfold Expr.simplify; exact hfold

/-! ## Variables in place of names -/

section

variable (w : View)

theorem resolveAll_eq (es : List (Expr String)) : resolveAll w es = es.mapM (Expr.resolve w) := by
  induction es with
  | nil => unfold resolveAll; rfl
  | cons e es ih => unfold resolveAll; rw [List.mapM_cons, ih]

theorem resolvePairs_eq (ps : List (Expr String × Expr String)) :
    resolvePairs w ps = ps.mapM fun p => do return (← p.1.resolve w, ← p.2.resolve w) := by
  induction ps with
  | nil => unfold resolvePairs; rfl
  | cons p ps ih => unfold resolvePairs; simp [List.mapM_cons, ih]

theorem resolveNamed_eq (ps : List (String × Expr String)) :
    resolveNamed w ps = ps.mapM fun p => do return (p.1, ← p.2.resolve w) := by
  induction ps with
  | nil => unfold resolveNamed; rfl
  | cons p ps ih => unfold resolveNamed; simp [List.mapM_cons, ih]

theorem resolveRest_eq (ps : List (CompareOp × Expr String)) :
    resolveRest w ps = ps.mapM fun p => do return (p.1, ← p.2.resolve w) := by
  induction ps with
  | nil => unfold resolveRest; rfl
  | cons p ps ih => unfold resolveRest; simp [List.mapM_cons, ih]

theorem resolveOption_gives {o : Option (Expr String)}
    (h : ∀ e ∈ o, (e.resolve w).Gives L none (·.Within L.inText)) :
    (resolveOption w o).Gives L none (∀ e ∈ ·, e.Within L.inText) := by
  cases o with
  | none => unfold resolveOption; exact .pure nofun
  | some e =>
    unfold resolveOption
    exact (h e rfl).bind fun e' he => .pure fun x hx => Option.some.inj hx ▸ he

theorem meaning_keeps (name : String) : (w.meaning name).Keeps L := by
  unfold View.meaning
  grind

/-- What has to be there and is not is a mistake on its line. -/
theorem check_keeps (what : String) (table : List (String × α)) {line : Nat} (hline : L.inText line) (name : String) :
    (w.check what table line name).Keeps L := by
  unfold View.check
  split
  · exact .pure ()
  · exact .throw (hline _ _)

end

/-- Resolving the names of an expression leaves it its lines. -/
theorem resolve_gives {e : Expr String} (h : e.Within L.inText) (w : View) :
    (e.resolve w).Gives L none (·.Within L.inText) := by
  induction h generalizing w with
  | literal hl v =>
    unfold Expr.resolve
    exact Gives.bind (checkLiteral_keeps v) fun _ _ => .pure (.literal hl v)
  | data hl s => unfold Expr.resolve; exact .pure (.data hl s)
  | name hl s =>
    unfold Expr.resolve
    exact Gives.bind (meaning_keeps w s) fun r _ => .pure (.name hl r)
  | tuple hl _ ih =>
    unfold Expr.resolve
    rw [resolveAll_eq]
    exact (Gives.mapM fun e he => ih e he w).bind fun _ hes => .pure (.tuple hl hes)
  | list hl _ ih =>
    unfold Expr.resolve
    rw [resolveAll_eq]
    exact (Gives.mapM fun e he => ih e he w).bind fun _ hes => .pure (.list hl hes)
  | dict hl _ _ ihkeys ihvalues =>
    unfold Expr.resolve
    rw [resolvePairs_eq]
    exact (Gives.mapM_both (fun p hp => ihkeys p hp w) fun p hp => ihvalues p hp w).bind fun _ hps =>
      .pure (.dict hl hps.1 hps.2)
  | cond hl _ _ _ ihtest ihyes ihno =>
    unfold Expr.resolve
    exact (ihyes w.lenient).bind fun _ hyes => (ihtest w.lenient).bind fun _ htest =>
      (resolveOption_gives w.lenient fun e he => ihno e he w.lenient).bind fun _ hno => .pure (.cond hl htest hyes hno)
  | both hl _ _ iha ihb =>
    unfold Expr.resolve
    exact (iha w).bind fun _ ha => (ihb w).bind fun _ hb => .pure (.both hl ha hb)
  | either hl _ _ iha ihb =>
    unfold Expr.resolve
    exact (iha w).bind fun _ ha => (ihb w).bind fun _ hb => .pure (.either hl ha hb)
  | not hl _ ih =>
    unfold Expr.resolve
    exact (ih w).bind fun _ he => .pure (.not hl he)
  | binary hl op _ _ iha ihb =>
    unfold Expr.resolve
    exact (iha w).bind fun _ ha => (ihb w).bind fun _ hb => .pure (.binary hl op ha hb)
  | negate hl _ ih =>
    unfold Expr.resolve
    exact (ih w).bind fun _ he => .pure (.negate hl he)
  | plus hl _ ih =>
    unfold Expr.resolve
    exact (ih w).bind fun _ he => .pure (.plus hl he)
  | concat hl escapes _ ih =>
    unfold Expr.resolve
    rw [resolveAll_eq]
    exact (Gives.mapM fun e he => ih e he w).bind fun _ hes => .pure (.concat hl w.escapes hes)
  | compare hl _ _ ihe ihrest =>
    unfold Expr.resolve
    rw [resolveRest_eq]
    exact (ihe w).bind fun _ he => (Gives.mapM_snd fun p hp => ihrest p hp w).bind fun _ hrest =>
      .pure (.compare hl he hrest)
  | attr hl _ field ih =>
    unfold Expr.resolve
    exact (ih w).bind fun _ he => .pure (.attr hl he field)
  | item hl _ _ ihe ihindex =>
    unfold Expr.resolve
    exact (ihe w).bind fun _ he => (ihindex w).bind fun _ hindex => .pure (.item hl he hindex)
  | slice hl _ _ _ iha ihb ihc =>
    unfold Expr.resolve
    exact (resolveOption_gives w fun e he => iha e he w).bind fun _ ha =>
      (resolveOption_gives w fun e he => ihb e he w).bind fun _ hb =>
        (resolveOption_gives w fun e he => ihc e he w).bind fun _ hc => .pure (.slice hl ha hb hc)
  | call hl _ _ _ _ _ ihf ihargs ihnamed ihstar ihstarStar =>
    unfold Expr.resolve
    rw [resolveAll_eq, resolveNamed_eq]
    exact (ihf w).bind fun _ hf => (Gives.mapM fun e he => ihargs e he w).bind fun _ hargs =>
      (Gives.mapM_snd fun p hp => ihnamed p hp w).bind fun _ hnamed =>
        (resolveOption_gives w fun e he => ihstar e he w).bind fun _ hstar =>
          (resolveOption_gives w fun e he => ihstarStar e he w).bind fun _ hstarStar =>
            .pure (.call hl hf hargs hnamed hstar hstarStar)
  | filter hl _ name _ _ _ _ ihe ihargs ihnamed ihstar ihstarStar =>
    unfold Expr.resolve
    rw [resolveAll_eq, resolveNamed_eq]
    exact Gives.bind (check_keeps w _ _ hl name) fun _ _ =>
      (resolveOption_gives w fun e he => ihe e he w).bind fun _ he =>
        (Gives.mapM fun e he => ihargs e he w).bind fun _ hargs =>
          (Gives.mapM_snd fun p hp => ihnamed p hp w).bind fun _ hnamed =>
            (resolveOption_gives w fun e he => ihstar e he w).bind fun _ hstar =>
              (resolveOption_gives w fun e he => ihstarStar e he w).bind fun _ hstarStar =>
                .pure (.filter hl he name hargs hnamed hstar hstarStar)
  | test hl _ name _ _ _ _ ihe ihargs ihnamed ihstar ihstarStar =>
    unfold Expr.resolve
    rw [resolveAll_eq, resolveNamed_eq]
    exact Gives.bind (check_keeps w _ _ hl name) fun _ _ => (ihe w).bind fun _ he =>
      (Gives.mapM fun e he => ihargs e he w).bind fun _ hargs =>
        (Gives.mapM_snd fun p hp => ihnamed p hp w).bind fun _ hnamed =>
          (resolveOption_gives w fun e he => ihstar e he w).bind fun _ hstar =>
            (resolveOption_gives w fun e he => ihstarStar e he w).bind fun _ hstarStar =>
              .pure (.test hl he name hargs hnamed hstar hstarStar)

/-- An expression that is ready for evaluation has lines of the one that it was. -/
theorem prepare_gives (hev : ev.Keeps L) (st : EscapeState) (w : View) {e : Expr String} (h : e.Within L.inText) :
    (e.prepare ev st w).Gives L none (·.Within L.inText) := by
  unfold Expr.prepare
  split
  · exact (simplify_gives hev st h).bind fun _ he => resolve_gives he w
  · exact resolve_gives h w

mutual

theorem resolveTarget_keeps (w : View) (t : Target String) : (t.resolve w).Keeps L := by
  cases t with
  | name l s =>
    unfold Target.resolve
    exact Keeps.bind (meaning_keeps w s) fun _ => .pure _
  | field l s field =>
    unfold Target.resolve
    exact Keeps.bind (meaning_keeps w s) fun _ => .pure _
  | tuple l ts =>
    unfold Target.resolve
    exact Keeps.bind (resolveTargets_keeps w ts) fun _ => .pure _

theorem resolveTargets_keeps (w : View) (ts : List (Target String)) : (resolveTargets w ts).Keeps L := by
  cases ts with
  | nil => unfold resolveTargets; exact .pure []
  | cons t ts =>
    unfold resolveTargets
    exact Keeps.bind (resolveTarget_keeps w t) fun _ => Keeps.bind (resolveTargets_keeps w ts) fun _ => .pure _

end

end TemplateTree.Template
