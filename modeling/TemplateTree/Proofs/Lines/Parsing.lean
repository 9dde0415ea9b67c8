import TemplateTree.Proofs.Lines.Syntax

/-!
# Lines of parsed expressions

The rules of expressions refer to each other through a record of rules. If those in the record find only lines of
the tokens, so does each rule.

* `Rules.Keep`: the rules in a record do.
* `primary_keeps`, `suffixes_keeps`, `expression_keeps`: the rules of expressions.
-/

namespace TemplateTree.Template.Parser

open Lined (Within)

variable {α β : Type} {ok : Nat → Prop} {r : Rules}

/-- The rules that others refer to find no lines besides those of the tokens. -/
structure Rules.Keep (ok : Nat → Prop) (r : Rules) : Prop where
  expression : Keeps ok r.expression
  disjunction : Keeps ok r.disjunction
  negation : Keeps ok r.negation
  signed : Keeps ok r.signed
  statements (ends : Option (List String)) : Keeps ok (r.statements ends)

attribute [grind ←] Rules.Keep.expression Rules.Keep.disjunction Rules.Keep.negation Rules.Keep.signed
  Rules.Keep.statements

/-! ## Expressions -/

@[grind ←] theorem ensure_keeps (b : Bool) {l : Nat} (hl : ok l) : Keeps ok (ensure b l) := by
  unfold ensure
  grind

theorem within_noArguments : Within ok Arguments.none := by
  simp [Arguments.none, within_arguments, within_nil, within_none]

grind_pattern within_noArguments => Within ok Arguments.none

@[grind ←] theorem atTupleEnd_keeps (ends : List String) : Keeps ok (atTupleEnd ends) := by
  unfold atTupleEnd
  grind

@[grind ←] theorem stringLiteral_keeps : Keeps ok stringLiteral := by
  unfold stringLiteral
  grind

@[grind ←] theorem atSliceGap_keeps : Keeps ok atSliceGap := by
  unfold atSliceGap
  grind

@[grind ←] theorem dottedName_keeps : Keeps ok dottedName := by
  unfold dottedName
  refine .bind expectName_keeps fun name hname => .bind (loop_keeps (fun s hs => ?_) hname.1) fun s hs => ?_ <;> grind

section

variable (hr : r.Keep ok)

include hr

@[grind ←] theorem argument_keeps {l : Nat} (hl : ok l) {a : Arguments} (ha : Within ok a) :
    Keeps ok (argument r l a) := by
  unfold argument
  refine .bind kind_keeps fun k _ => ?_
  split
  · grind
  · split
    · grind
    · extract_lets add
      have hadd : ∀ isNamed, Keeps ok (add isNamed) := by
        intro isNamed
        simp only [add]
        split
        · refine .bind (ensure_keeps _ hl) fun _ _ => .bind expectName_keeps fun key _ => ?_
          grind
        · grind
      clear_value add
      grind

@[grind ←] theorem arguments_keeps : Keeps ok (arguments r) := by
  unfold arguments
  refine .bind (expectOp_keeps _) fun t ht => .bind (loop_keeps (fun a ha => ?_) (by grind))
    fun a ha => ?_ <;> grind

omit hr in
theorem tupleOf_keeps [Lined α] {item : Parse α} (hitem : Keeps ok item) {make : Nat → List α → α}
    (hmake : ∀ l as, ok l → Within ok as → Within ok (make l as)) (ends : List String) (parenthesised : Bool) :
    Keeps ok (tupleOf item make ends parenthesised) := by
  unfold tupleOf
  refine .bind line_keeps fun l hl => .bind (loop_keeps (fun p hp => ?_) (by grind)) fun p hp => ?_
  · obtain ⟨items, isTuple, last⟩ := p
    simp -zeta only []
    extract_lets next
    have hnext : ∀ u, Keeps ok (next u) := by grind
    clear_value next
    grind
  · grind

@[grind ←] theorem listLiteral_keeps : Keeps ok (listLiteral r) := by
  unfold listLiteral
  refine .bind (expectOp_keeps _) fun t ht => .bind (loop_keeps (fun items hitems => ?_) (by grind))
    fun items hitems => ?_ <;> grind

@[grind ←] theorem dictLiteral_keeps : Keeps ok (dictLiteral r) := by
  unfold dictLiteral
  refine .bind (expectOp_keeps _) fun t ht => .bind (loop_keeps (fun pairs hpairs => ?_) (by grind))
    fun pairs hpairs => ?_
  · refine .bind kind_keeps fun k _ => ?_
    extract_lets next
    have hnext : ∀ u, Keeps ok (next u) := fun _ => by
      refine .bind kind_keeps fun k _ => ?_
      grind
    clear_value next
    grind
  · grind

@[grind ←] theorem primary_keeps : Keeps ok (primary r) := by
  unfold primary
  refine .bind current_keeps fun t ht => ?_
  have htuple := tupleOf_keeps hr.expression (fun l as hl has => .tuple hl has) [] true
  split <;> grind [tuple]

@[grind ←] theorem sliceRest_keeps {l : Nat} (hl : ok l) {start : Option (Expr String)} (hstart : Within ok start) :
    Keeps ok (sliceRest r l start) := by
  unfold sliceRest
  refine .bind kind_keeps fun k _ => .bind atSliceGap_keeps fun isGap _ => ?_
  extract_lets rest
  have hrest : ∀ stop, Within ok stop → Keeps ok (rest stop) := fun stop hstop => by
    refine .bind (skipOp_keeps _) fun hasStep _ => ?_
    extract_lets make
    have hmake : ∀ step, Within ok step → Keeps ok (make step) := by grind
    clear_value make
    grind
  clear_value rest
  grind

@[grind ←] theorem subscript_keeps : Keeps ok (subscript r) := by
  unfold subscript
  grind

@[grind ←] theorem access_keeps {e : Expr String} (he : e.Within ok) : Keeps ok (access r e) := by
  unfold access
  refine .bind advance_keeps fun t ht => ?_
  split
  · grind
  · refine .bind (loop_keeps (fun items hitems => ?_) (by grind)) fun items hitems => ?_ <;> grind

@[grind ←] theorem callOf_keeps {e : Expr String} (he : e.Within ok) : Keeps ok (callOf r e) := by
  unfold callOf
  grind

@[grind ←] theorem postfixes_keeps {e : Expr String} (he : e.Within ok) : Keeps ok (postfixes r e) := by
  unfold postfixes
  grind

@[grind ←] theorem filterOf_keeps {e : Option (Expr String)} (he : Within ok e) : Keeps ok (filterOf r e) := by
  unfold filterOf
  grind

@[grind ←] theorem filters_keeps {e : Option (Expr String)} (he : Within ok e) : Keeps ok (filters r e) := by
  unfold filters
  grind

@[grind ←] theorem testOf_keeps {e : Expr String} (he : e.Within ok) : Keeps ok (testOf r e) := by
  unfold testOf
  refine .bind advance_keeps fun t ht => .bind (skipWord_keeps _) fun negated _ => .bind dottedName_keeps fun name _ => ?_
  simp -zeta only []
  refine .bind kind_keeps fun k _ => ?_
  extract_lets finish
  have hfinish : ∀ a, Within ok a → Keeps ok (finish a) := by grind
  clear_value finish
  grind [Arguments.none]

@[grind ←] theorem suffixes_keeps {e : Expr String} (he : e.Within ok) : Keeps ok (suffixes r e) := by
  unfold suffixes
  grind

@[grind ←] theorem signed_keeps : Keeps ok (signed r) := by
  unfold signed
  grind

@[grind ←] theorem unary_keeps : Keeps ok (unary r) :=
  .bind (signed_keeps hr) fun _ he => suffixes_keeps hr he

omit hr in
theorem leftGrouped_keeps {op? : TokenKind → Option BinaryOp} {operand : Parse (Expr String)}
    (h : Keeps ok operand) : Keeps ok (leftGrouped op? operand) := by
  unfold leftGrouped
  refine .bind line_keeps fun l hl => .bind h fun first hfirst => loop_keeps (fun p hp => ?_) (by grind)
  obtain ⟨left, l'⟩ := p
  obtain ⟨hleft, hl'⟩ : Within ok left ∧ Within ok l' := hp
  refine .bind kind_keeps fun k _ => ?_
  split
  next op _ => exact .bind advance_keeps fun _ _ => .bind h fun right hright => by grind
  next => exact .done hleft

theorem power_keeps : Keeps ok (power r) :=
  leftGrouped_keeps (unary_keeps hr)

@[grind ←] theorem product_keeps : Keeps ok (product r) :=
  leftGrouped_keeps (power_keeps hr)

@[grind ←] theorem concatenation_keeps : Keeps ok (concatenation r) := by
  unfold concatenation
  refine .bind line_keeps fun l hl => .bind (product_keeps hr) fun first hfirst => ?_
  refine .bind (loop_keeps (fun items hitems => ?_) (by grind)) fun items hitems => ?_ <;> grind

@[grind ←] theorem sum_keeps : Keeps ok (sum r) :=
  leftGrouped_keeps (concatenation_keeps hr)

@[grind ←] theorem comparison?_keeps : Keeps ok (comparison? r) := by
  unfold comparison?
  refine .bind kind_keeps fun k _ => ?_
  split
  · grind
  · refine .bind (skipWord_keeps _) fun isIn _ => ?_
    extract_lets other
    have hother : ∀ isNotIn, Keeps ok (other isNotIn) := by grind
    clear_value other
    grind

@[grind ←] theorem comparisons_keeps : Keeps ok (comparisons r) := by
  unfold comparisons
  refine .bind line_keeps fun l hl => .bind (sum_keeps hr) fun first hfirst => ?_
  refine .bind (loop_keeps (fun p hp => ?_) (by grind)) fun p hp => ?_ <;> grind

@[grind ←] theorem negation_keeps : Keeps ok (negation r) := by
  unfold negation
  grind

omit hr in
theorem wordGrouped_keeps (word : String) {make : Nat → Expr String → Expr String → Expr String}
    (hmake : ∀ l a b, ok l → a.Within ok → b.Within ok → (make l a b).Within ok) {operand : Parse (Expr String)}
    (h : Keeps ok operand) : Keeps ok (wordGrouped word make operand) := by
  unfold wordGrouped
  refine .bind line_keeps fun l hl => .bind h fun first hfirst => loop_keeps (fun p hp => ?_) (by grind)
  obtain ⟨left, l'⟩ := p
  obtain ⟨hleft, hl'⟩ : Within ok left ∧ Within ok l' := hp
  refine .bind (skipWord_keeps word) fun isWord _ => ?_
  split
  · refine .bind h fun right hright => .bind line_keeps fun l'' hl'' => .next ⟨hmake _ _ _ hl' hleft hright, hl''⟩
  · exact .done hleft

@[grind ←] theorem disjunction_keeps : Keeps ok (disjunction r) :=
  wordGrouped_keeps "or" (fun _ _ _ hl ha hb => .either hl ha hb) <|
    wordGrouped_keeps "and" (fun _ _ _ hl ha hb => .both hl ha hb) (negation_keeps hr)

@[grind ←] theorem expression_keeps : Keeps ok (expression r) := by
  unfold expression
  refine .bind line_keeps fun l hl => .bind (disjunction_keeps hr) fun first hfirst =>
    loop_keeps (fun p hp => ?_) (by grind)
  obtain ⟨e, l⟩ := p
  obtain ⟨he, hl⟩ : Within ok e ∧ Within ok l := hp
  simp -zeta only []
  refine .bind (skipWord_keeps _) fun isCond _ => ?_
  split
  · refine .bind hr.disjunction fun test htest => .bind (skipWord_keeps _) fun hasElse _ => ?_
    extract_lets make
    have hmake : ∀ no, Within ok no → Keeps ok (make no) := by grind
    clear_value make
    grind
  · exact .done he

end

end TemplateTree.Template.Parser
