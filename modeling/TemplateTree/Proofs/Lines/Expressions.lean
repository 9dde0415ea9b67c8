import TemplateTree.Proofs.Lines.Filters
import TemplateTree.Template.Evaluation

/-!
# Lines under expressions

Evaluating an expression, now or for a constant, goes on where it stands: it changes no place, and what it calls
comes back.

* `evaluate_keeps`: the value of an expression.
* `constant?_keeps`: the value that an expression has before evaluation.
-/

namespace TemplateTree.Template

open Eval

variable {L : Lines} {ev : Evaluator}

/-! ## Literals -/

mutual

@[grind ←] theorem valueOf_keeps : ∀ l : Literal, (valueOf l).Keeps L
  | .none | .bool _ | .int _ | .text _ | .markup _ | .range .. => by unfold valueOf; exact .pure _
  | .float x => by
    unfold valueOf
    grind
  | .tuple items => by
    unfold valueOf
    exact Keeps.bind (valuesOf_keeps items) fun _ => .pure _
  | .list items => by
    unfold valueOf
    exact Keeps.bind (valuesOf_keeps items) fun _ => newList_keeps _
  | .dict pairs => by
    unfold valueOf
    exact Keeps.bind (pairsOfLiterals_keeps pairs) fun _ =>
      Keeps.bind (storeAll_keeps _ _) fun _ => newDict_keeps _

@[grind ←] theorem valuesOf_keeps : ∀ ls : List Literal, (valuesOf ls).Keeps L
  | [] => by unfold valuesOf; exact .pure []
  | l :: ls => by
    unfold valuesOf
    exact Keeps.bind (valueOf_keeps l) fun _ => Keeps.bind (valuesOf_keeps ls) fun _ => .pure _

@[grind ←] theorem pairsOfLiterals_keeps : ∀ ps : List (Literal × Literal), (pairsOfLiterals ps).Keeps L
  | [] => by unfold pairsOfLiterals; exact .pure []
  | (k, v) :: ps => by
    unfold pairsOfLiterals
    exact Keeps.bind (valueOf_keeps k) fun _ => Keeps.bind (valueOf_keeps v) fun _ =>
      Keeps.bind (pairsOfLiterals_keeps ps) fun _ => .pure _

end

@[grind ←] theorem constantOf_keeps (l : Literal) : (constantOf l).Keeps L := by
  unfold constantOf
  grind

@[grind ←] theorem checkLiteral_keeps (l : Literal) : (checkLiteral l).Keeps L := by
  unfold checkLiteral
  grind

@[grind ←] theorem literalOf?_keeps (fuel : Nat) (v : Value) : (literalOf? fuel v).Keeps L := by
  induction fuel generalizing v with
  | zero => exact .pure _
  | succ fuel ih =>
    unfold literalOf?
    extract_lets all
    have hall : ∀ vs, (all vs).Keeps L := fun vs => Keeps.bind (.mapM ih vs) fun _ => .pure _
    clear_value all
    grind

/-! ## Filters and tests by name -/

theorem mem_of_named? {α : Type} {entries : List (String × α)} {name : String} {a : α}
    (h : named? entries name = some a) : (name, a) ∈ entries := by
  obtain ⟨e, hfind, rfl⟩ := Option.map_eq_some_iff.1 h
  obtain rfl : e.1 = name := by simpa using List.find?_some hfind
  exact List.mem_of_find?_eq_some hfind

theorem named_filter_keeps {name : String} {f : Filter} (h : named? filters name = some f) : f.Keeps L :=
  filters_keeps _ (mem_of_named? h)

theorem named_test_keeps {name : String} {t : Test.Answer} (h : named? tests name = some t) : Test.Keeps L t :=
  tests_keeps _ (mem_of_named? h)

/-! ## Values of expressions -/

@[grind ←] theorem escapesAt_keeps (site : Site) : (escapesAt site).Keeps L :=
  Keeps.bind (contextAt_keeps _) fun _ => .pure _

@[grind ←] theorem templateName_keeps (site : Site) : (templateName site).Keeps L :=
  Keeps.bind (templateAt_keeps _) fun _ => .pure _

@[grind ←] theorem noBranch_keeps (site : Site) (line : Nat) : (noBranch site line).Keeps L :=
  Keeps.bind (templateName_keeps _) fun _ => .pure _

@[grind ←] theorem doubleStarred_keeps (label : String) (given : List (String × Value)) (v : Value) :
    (doubleStarred label given v).Keeps L := by
  unfold doubleStarred
  split
  · refine Keeps.bind (dictEntries_keeps _) fun _ => .foldlM (fun acc e => ?_) _ _
    grind
  all_goals grind

section

variable (hev : ev.Keeps L)

include hev

@[grind ←] theorem evaluateItem_keeps (v key : Value) : (evaluateItem ev v key).Keeps L := by
  unfold evaluateItem
  grind

@[grind ←] theorem starred_keeps (label : String) (v : Value) : (starred ev label v).Keeps L := by
  unfold starred
  grind

@[grind ←] theorem arguments_keeps (label : String) (args : List Value) (named : List (String × Value))
    (star starStar : Option Value) : (arguments ev label args named star starStar).Keeps L := by
  unfold arguments
  grind

end

/-! ### One expression of each kind -/

section

variable (hev : ev.Keeps L) {site : Site} {line : Nat} {a b e test yes index f : Expr Ref}
  {no x y z subject star starStar : Option (Expr Ref)} {es args : List (Expr Ref)} {ps : List (Expr Ref × Expr Ref)}
  {named : List (String × Expr Ref)}

include hev

omit hev in
theorem evaluate_dict_keeps (hps : (evaluatePairs ev site ps).Keeps L) :
    (evaluate ev site (.dict line ps)).Keeps L := by
  unfold evaluate
  grind

theorem evaluate_cond_keeps (htest : (evaluate ev site test).Keeps L) (hyes : (evaluate ev site yes).Keeps L)
    (hno : (evaluateOption ev site no).Keeps L) : (evaluate ev site (.cond line test yes no)).Keeps L := by
  unfold evaluate
  grind

theorem evaluate_both_keeps (ha : (evaluate ev site a).Keeps L) (hb : (evaluate ev site b).Keeps L) :
    (evaluate ev site (.both line a b)).Keeps L := by
  unfold evaluate
  grind

theorem evaluate_either_keeps (ha : (evaluate ev site a).Keeps L) (hb : (evaluate ev site b).Keeps L) :
    (evaluate ev site (.either line a b)).Keeps L := by
  unfold evaluate
  grind

theorem evaluate_not_keeps (he : (evaluate ev site e).Keeps L) : (evaluate ev site (.not line e)).Keeps L := by
  unfold evaluate
  grind

theorem evaluate_binary_keeps (op : BinaryOp) (ha : (evaluate ev site a).Keeps L)
    (hb : (evaluate ev site b).Keeps L) : (evaluate ev site (.binary line op a b)).Keeps L := by
  unfold evaluate
  grind

theorem evaluate_item_keeps (he : (evaluate ev site e).Keeps L) (hindex : (evaluate ev site index).Keeps L) :
    (evaluate ev site (.item line e index)).Keeps L := by
  unfold evaluate
  grind

omit hev in
theorem evaluate_slice_keeps (hx : (evaluateOption ev site x).Keeps L) (hy : (evaluateOption ev site y).Keeps L)
    (hz : (evaluateOption ev site z).Keeps L) : (evaluate ev site (.slice line x y z)).Keeps L := by
  unfold evaluate
  grind

theorem evaluate_call_keeps (hf : (evaluate ev site f).Keeps L) (hargs : (evaluateAll ev site args).Keeps L)
    (hnamed : (evaluateNamed ev site named).Keeps L) (hstar : (evaluateOption ev site star).Keeps L)
    (hstarStar : (evaluateOption ev site starStar).Keeps L) :
    (evaluate ev site (.call line f args named star starStar)).Keeps L := by
  unfold evaluate
  grind

theorem evaluate_filter_keeps (name : String) (he : (evaluateOption ev site subject).Keeps L)
    (hargs : (evaluateAll ev site args).Keeps L) (hnamed : (evaluateNamed ev site named).Keeps L)
    (hstar : (evaluateOption ev site star).Keeps L) (hstarStar : (evaluateOption ev site starStar).Keeps L) :
    (evaluate ev site (.filter line subject name args named star starStar)).Keeps L := by
  unfold evaluate
  refine he.bind fun _ => hargs.bind fun _ => hstar.bind fun _ => hnamed.bind fun _ => hstarStar.bind fun _ => ?_
  refine Keeps.bind (arguments_keeps hev _ _ _ _ _) fun given => ?_
  split
  next f hf => exact Keeps.bind (escapesAt_keeps site) fun _ => named_filter_keeps hf ev hev _ _ _
  next => exact .throw trivial

theorem evaluate_test_keeps (name : String) (he : (evaluate ev site e).Keeps L)
    (hargs : (evaluateAll ev site args).Keeps L) (hnamed : (evaluateNamed ev site named).Keeps L)
    (hstar : (evaluateOption ev site star).Keeps L) (hstarStar : (evaluateOption ev site starStar).Keeps L) :
    (evaluate ev site (.test line e name args named star starStar)).Keeps L := by
  unfold evaluate
  refine he.bind fun _ => hargs.bind fun _ => hstar.bind fun _ => hnamed.bind fun _ => hstarStar.bind fun _ => ?_
  refine Keeps.bind (arguments_keeps hev _ _ _ _ _) fun given => ?_
  split
  next t ht => exact named_test_keeps ht ev hev _ _
  next => exact .throw trivial

end

/-! ### All expressions -/

mutual

@[grind ←] theorem evaluate_keeps (hev : ev.Keeps L) (site : Site) : ∀ e : Expr Ref, (evaluate ev site e).Keeps L
  | .literal _ l => by unfold evaluate; exact valueOf_keeps l
  | .data _ s => by unfold evaluate; grind
  | .name _ r => by rw [evaluate_name]; exact useVariable_keeps site r
  | .tuple _ es => by
    unfold evaluate
    exact Keeps.bind (evaluateAll_keeps hev site es) fun _ => .pure _
  | .list _ es => by
    unfold evaluate
    exact Keeps.bind (evaluateAll_keeps hev site es) fun _ => newList_keeps _
  | .dict _ ps => evaluate_dict_keeps (evaluatePairs_keeps hev site ps)
  | .cond _ test yes no =>
    evaluate_cond_keeps hev (evaluate_keeps hev site test) (evaluate_keeps hev site yes)
      (evaluateOption_keeps hev site no)
  | .both _ a b => evaluate_both_keeps hev (evaluate_keeps hev site a) (evaluate_keeps hev site b)
  | .either _ a b => evaluate_either_keeps hev (evaluate_keeps hev site a) (evaluate_keeps hev site b)
  | .not _ e => evaluate_not_keeps hev (evaluate_keeps hev site e)
  | .binary _ op a b => evaluate_binary_keeps hev op (evaluate_keeps hev site a) (evaluate_keeps hev site b)
  | .negate _ e => by
    unfold evaluate
    exact Keeps.bind (evaluate_keeps hev site e) fun _ => negate_keeps _
  | .plus _ e => by
    unfold evaluate
    exact Keeps.bind (evaluate_keeps hev site e) fun _ => plus_keeps _
  | .concat _ escapes es => by
    unfold evaluate
    exact Keeps.bind (evaluateAll_keeps hev site es) fun _ => concatenation_keeps hev _ _
  | .compare _ e rest => by
    unfold evaluate
    exact Keeps.bind (evaluate_keeps hev site e) fun v => evaluateChain_keeps hev site rest v
  | .attribute _ e field => by
    unfold evaluate
    exact Keeps.bind (evaluate_keeps hev site e) fun _ => getAttribute_keeps hev _ _
  | .item _ e index => evaluate_item_keeps hev (evaluate_keeps hev site e) (evaluate_keeps hev site index)
  | .slice _ a b c =>
    evaluate_slice_keeps (evaluateOption_keeps hev site a) (evaluateOption_keeps hev site b)
      (evaluateOption_keeps hev site c)
  | .call _ f args named star starStar =>
    evaluate_call_keeps hev (evaluate_keeps hev site f) (evaluateAll_keeps hev site args)
      (evaluateNamed_keeps hev site named) (evaluateOption_keeps hev site star)
      (evaluateOption_keeps hev site starStar)
  | .filter _ e name args named star starStar =>
    evaluate_filter_keeps hev name (evaluateOption_keeps hev site e) (evaluateAll_keeps hev site args)
      (evaluateNamed_keeps hev site named) (evaluateOption_keeps hev site star)
      (evaluateOption_keeps hev site starStar)
  | .test _ e name args named star starStar =>
    evaluate_test_keeps hev name (evaluate_keeps hev site e) (evaluateAll_keeps hev site args)
      (evaluateNamed_keeps hev site named) (evaluateOption_keeps hev site star)
      (evaluateOption_keeps hev site starStar)

@[grind ←] theorem evaluateAll_keeps (hev : ev.Keeps L) (site : Site) :
    ∀ es : List (Expr Ref), (evaluateAll ev site es).Keeps L
  | [] => by unfold evaluateAll; exact .pure []
  | e :: es => by
    unfold evaluateAll
    exact Keeps.bind (evaluate_keeps hev site e) fun _ =>
      Keeps.bind (evaluateAll_keeps hev site es) fun _ => .pure _

@[grind ←] theorem evaluatePairs_keeps (hev : ev.Keeps L) (site : Site) :
    ∀ ps : List (Expr Ref × Expr Ref), (evaluatePairs ev site ps).Keeps L
  | [] => by unfold evaluatePairs; exact .pure []
  | (k, e) :: ps => by
    unfold evaluatePairs
    exact Keeps.bind (evaluate_keeps hev site k) fun _ => Keeps.bind (evaluate_keeps hev site e) fun _ =>
      Keeps.bind (evaluatePairs_keeps hev site ps) fun _ => .pure _

@[grind ←] theorem evaluateNamed_keeps (hev : ev.Keeps L) (site : Site) :
    ∀ es : List (String × Expr Ref), (evaluateNamed ev site es).Keeps L
  | [] => by unfold evaluateNamed; exact .pure []
  | (_, e) :: es => by
    unfold evaluateNamed
    exact Keeps.bind (evaluate_keeps hev site e) fun _ =>
      Keeps.bind (evaluateNamed_keeps hev site es) fun _ => .pure _

@[grind ←] theorem evaluateOption_keeps (hev : ev.Keeps L) (site : Site) :
    ∀ e : Option (Expr Ref), (evaluateOption ev site e).Keeps L
  | none => by unfold evaluateOption; exact .pure none
  | some e => by
    unfold evaluateOption
    exact Keeps.bind (evaluate_keeps hev site e) fun _ => .pure _

@[grind ←] theorem evaluateChain_keeps (hev : ev.Keeps L) (site : Site) :
    ∀ (rest : List (CompareOp × Expr Ref)) (v : Value), (evaluateChain ev site v rest).Keeps L
  | [], _ => by unfold evaluateChain; exact .pure _
  | (op, e) :: rest, v => by
    unfold evaluateChain
    have he := evaluate_keeps hev site e
    have hrest := evaluateChain_keeps hev site rest
    grind

end

/-! ## Constant expressions -/

@[grind ←] theorem orLater_keeps {act : Eval (Option Value)} (h : act.Keeps L) : (orLater act).Keeps L := by
  unfold orLater
  grind

section

variable (hev : ev.Keeps L)

include hev

@[grind ←] theorem chain_keeps (v : Value) (rest : List (CompareOp × Value)) : (chain ev v rest).Keeps L := by
  induction rest generalizing v with
  | nil => exact .pure _
  | cons e rest ih => unfold chain; grind

@[grind ←] theorem gather_keeps (args : List Value) (named : List (String × Value)) (star starStar : Option Value) :
    (gather ev args named star starStar).Keeps L := by
  unfold gather
  extract_lets finish
  have hfinish : ∀ more, (finish more).Keeps L := by
    intro more
    simp -zeta only [finish]
    extract_lets answer
    have hanswer : ∀ others, (answer others).Keeps L := fun _ => .pure _
    clear_value answer
    split
    · refine Keeps.bind (dictEntries_keeps _) fun _ => Keeps.bind (.mapM (fun e => ?_) _) hanswer
      grind
    all_goals grind
  clear_value finish
  grind

@[grind ←] theorem gathered?_keeps (args : Option (List Value)) (named : Option (List (String × Value)))
    (star starStar : Option (Option Value)) : (gathered? ev args named star starStar).Keeps L := by
  unfold gathered?
  grind

end

/-! ### One constant expression of each kind -/

section

variable (hev : ev.Keeps L) {st : EscapeState} {line : Nat} {a b e test yes index : Expr String}
  {no x y z subject star starStar : Option (Expr String)} {es args : List (Expr String)}
  {ps : List (Expr String × Expr String)} {rest : List (CompareOp × Expr String)}
  {named : List (String × Expr String)}

theorem constant_list_keeps (hes : (constants? ev st es).Keeps L) : (constant? ev st (.list line es)).Keeps L := by
  unfold constant?
  grind

theorem constant_dict_keeps (hps : (constantPairs? ev st ps).Keeps L) :
    (constant? ev st (.dict line ps)).Keeps L := by
  unfold constant?
  grind

theorem constant_negate_keeps (he : (constant? ev st e).Keeps L) : (constant? ev st (.negate line e)).Keeps L := by
  unfold constant?
  grind

theorem constant_plus_keeps (he : (constant? ev st e).Keeps L) : (constant? ev st (.plus line e)).Keeps L := by
  unfold constant?
  grind

theorem constant_slice_keeps (hx : (constantBound? ev st x).Keeps L) (hy : (constantBound? ev st y).Keeps L)
    (hz : (constantBound? ev st z).Keeps L) : (constant? ev st (.slice line x y z)).Keeps L := by
  unfold constant?
  grind

include hev

theorem constant_cond_keeps (htest : (constant? ev st test).Keeps L) (hyes : (constant? ev st yes).Keeps L)
    (hno : (constantOption? ev st no).Keeps L) : (constant? ev st (.cond line test yes no)).Keeps L := by
  unfold constant?
  grind

theorem constant_both_keeps (ha : (constant? ev st a).Keeps L) (hb : (constant? ev st b).Keeps L) :
    (constant? ev st (.both line a b)).Keeps L := by
  unfold constant?
  grind

theorem constant_either_keeps (ha : (constant? ev st a).Keeps L) (hb : (constant? ev st b).Keeps L) :
    (constant? ev st (.either line a b)).Keeps L := by
  unfold constant?
  grind

theorem constant_not_keeps (he : (constant? ev st e).Keeps L) : (constant? ev st (.not line e)).Keeps L := by
  unfold constant?
  grind

theorem constant_binary_keeps (op : BinaryOp) (ha : (constant? ev st a).Keeps L) (hb : (constant? ev st b).Keeps L) :
    (constant? ev st (.binary line op a b)).Keeps L := by
  unfold constant?
  refine orLater_keeps (ha.bind fun v => ?_)
  grind

theorem constant_concat_keeps (escapes : Bool) (hes : (constants? ev st es).Keeps L) :
    (constant? ev st (.concat line escapes es)).Keeps L := by
  unfold constant?
  grind

theorem constant_compare_keeps (he : (constant? ev st e).Keeps L) (hrest : (constantRest? ev st rest).Keeps L) :
    (constant? ev st (.compare line e rest)).Keeps L := by
  unfold constant?
  refine he.bind fun v => ?_
  grind

theorem constant_attribute_keeps (field : String) (he : (constant? ev st e).Keeps L) :
    (constant? ev st (.attribute line e field)).Keeps L := by
  unfold constant?
  grind

theorem constant_item_keeps (he : (constant? ev st e).Keeps L) (hindex : (constant? ev st index).Keeps L) :
    (constant? ev st (.item line e index)).Keeps L := by
  unfold constant?
  refine orLater_keeps (he.bind fun v => ?_)
  grind

theorem constant_filter_keeps (name : String) (he : (constantOption? ev st subject).Keeps L)
    (hargs : (constants? ev st args).Keeps L) (hnamed : (constantNamed? ev st named).Keeps L)
    (hstar : (constantSpread? ev st star).Keeps L) (hstarStar : (constantSpread? ev st starStar).Keeps L) :
    (constant? ev st (.filter line subject name args named star starStar)).Keeps L := by
  unfold constant?
  split
  next f _ hf =>
    have happly : f.Keeps L := named_filter_keeps (Option.filter_eq_some_iff.1 hf).1
    refine hargs.bind fun _ => hnamed.bind fun _ => hstar.bind fun _ => hstarStar.bind fun _ => ?_
    refine Keeps.bind (gathered?_keeps hev _ _ _ _) fun _ => he.bind fun _ => ?_
    have := happly ev hev
    grind
  next => exact .pure none

theorem constant_test_keeps (name : String) (he : (constant? ev st e).Keeps L)
    (hargs : (constants? ev st args).Keeps L) (hnamed : (constantNamed? ev st named).Keeps L)
    (hstar : (constantSpread? ev st star).Keeps L) (hstarStar : (constantSpread? ev st starStar).Keeps L) :
    (constant? ev st (.test line e name args named star starStar)).Keeps L := by
  unfold constant?
  split
  next t _ ht =>
    have hanswer : Test.Keeps L t := named_test_keeps ht
    refine hargs.bind fun _ => hnamed.bind fun _ => hstar.bind fun _ => hstarStar.bind fun _ => ?_
    refine Keeps.bind (gathered?_keeps hev _ _ _ _) fun _ => he.bind fun _ => ?_
    have := hanswer ev hev
    grind
  next => exact .pure none

end

/-! ### All constant expressions -/

mutual

@[grind ←] theorem constant?_keeps (hev : ev.Keeps L) (st : EscapeState) :
    ∀ e : Expr String, (constant? ev st e).Keeps L
  | .literal _ l => by
    unfold constant?
    exact Keeps.bind (constantOf_keeps l) fun _ => .pure _
  | .data _ s => by unfold constant?; grind
  | .name .. => by rw [constant?_name]; exact .pure none
  | .call .. => by unfold constant?; exact .pure none
  | .tuple _ es => by
    unfold constant?
    exact Keeps.bind (constants?_keeps hev st es) fun _ => .pure _
  | .list _ es => constant_list_keeps (constants?_keeps hev st es)
  | .dict _ ps => constant_dict_keeps (constantPairs?_keeps hev st ps)
  | .cond _ test yes no =>
    constant_cond_keeps hev (constant?_keeps hev st test) (constant?_keeps hev st yes)
      (constantOption?_keeps hev st no)
  | .both _ a b => constant_both_keeps hev (constant?_keeps hev st a) (constant?_keeps hev st b)
  | .either _ a b => constant_either_keeps hev (constant?_keeps hev st a) (constant?_keeps hev st b)
  | .not _ e => constant_not_keeps hev (constant?_keeps hev st e)
  | .binary _ op a b => constant_binary_keeps hev op (constant?_keeps hev st a) (constant?_keeps hev st b)
  | .negate _ e => constant_negate_keeps (constant?_keeps hev st e)
  | .plus _ e => constant_plus_keeps (constant?_keeps hev st e)
  | .concat _ escapes es => constant_concat_keeps hev escapes (constants?_keeps hev st es)
  | .compare _ e rest => constant_compare_keeps hev (constant?_keeps hev st e) (constantRest?_keeps hev st rest)
  | .attribute _ e field => constant_attribute_keeps hev field (constant?_keeps hev st e)
  | .item _ e index => constant_item_keeps hev (constant?_keeps hev st e) (constant?_keeps hev st index)
  | .slice _ a b c =>
    constant_slice_keeps (constantBound?_keeps hev st a) (constantBound?_keeps hev st b)
      (constantBound?_keeps hev st c)
  | .filter _ e name args named star starStar =>
    constant_filter_keeps hev name (constantOption?_keeps hev st e) (constants?_keeps hev st args)
      (constantNamed?_keeps hev st named) (constantSpread?_keeps hev st star)
      (constantSpread?_keeps hev st starStar)
  | .test _ e name args named star starStar =>
    constant_test_keeps hev name (constant?_keeps hev st e) (constants?_keeps hev st args)
      (constantNamed?_keeps hev st named) (constantSpread?_keeps hev st star)
      (constantSpread?_keeps hev st starStar)

@[grind ←] theorem constants?_keeps (hev : ev.Keeps L) (st : EscapeState) :
    ∀ es : List (Expr String), (constants? ev st es).Keeps L
  | [] => by unfold constants?; exact .pure _
  | e :: es => by
    unfold constants?
    have he := constant?_keeps hev st e
    have hes := constants?_keeps hev st es
    grind

@[grind ←] theorem constantPairs?_keeps (hev : ev.Keeps L) (st : EscapeState) :
    ∀ ps : List (Expr String × Expr String), (constantPairs? ev st ps).Keeps L
  | [] => by unfold constantPairs?; exact .pure _
  | (k, e) :: ps => by
    unfold constantPairs?
    have hk := constant?_keeps hev st k
    have he := constant?_keeps hev st e
    have hps := constantPairs?_keeps hev st ps
    grind

@[grind ←] theorem constantNamed?_keeps (hev : ev.Keeps L) (st : EscapeState) :
    ∀ es : List (String × Expr String), (constantNamed? ev st es).Keeps L
  | [] => by unfold constantNamed?; exact .pure _
  | (_, e) :: es => by
    unfold constantNamed?
    have he := constant?_keeps hev st e
    have hes := constantNamed?_keeps hev st es
    grind

@[grind ←] theorem constantRest?_keeps (hev : ev.Keeps L) (st : EscapeState) :
    ∀ es : List (CompareOp × Expr String), (constantRest? ev st es).Keeps L
  | [] => by unfold constantRest?; exact .pure _
  | (_, e) :: es => by
    unfold constantRest?
    have he := constant?_keeps hev st e
    have hes := constantRest?_keeps hev st es
    grind

@[grind ←] theorem constantOption?_keeps (hev : ev.Keeps L) (st : EscapeState) :
    ∀ e : Option (Expr String), (constantOption? ev st e).Keeps L
  | none => by unfold constantOption?; exact .pure _
  | some e => by unfold constantOption?; exact constant?_keeps hev st e

@[grind ←] theorem constantBound?_keeps (hev : ev.Keeps L) (st : EscapeState) :
    ∀ e : Option (Expr String), (constantBound? ev st e).Keeps L
  | none => by unfold constantBound?; exact .pure _
  | some e => by unfold constantBound?; exact constant?_keeps hev st e

@[grind ←] theorem constantSpread?_keeps (hev : ev.Keeps L) (st : EscapeState) :
    ∀ e : Option (Expr String), (constantSpread? ev st e).Keeps L
  | none => by unfold constantSpread?; exact .pure _
  | some e => by
    unfold constantSpread?
    exact Keeps.bind (constant?_keeps hev st e) fun _ => .pure _

end

end TemplateTree.Template
