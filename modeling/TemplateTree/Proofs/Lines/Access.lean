import TemplateTree.Proofs.Lines.Values

/-!
# Lines under access

Attributes, items and variables, and what is assigned to them.

* `getAttribute_keeps`, `getItem_keeps`: parts of values.
* `innerSite_gives`: a scope inside another stands in the same file.
* `bindTarget_keeps`: assignment.
-/

namespace TemplateTree.Template

open Eval

variable {L : Lines} {ev : Evaluator} {α β : Type}

/-! ## Attributes -/

section

variable (hev : ev.Keeps L)

include hev

@[grind ←] theorem peekNext_keeps (id : CellId) : (peekNext ev id).Keeps L := by
  unfold peekNext
  grind

@[grind ←] theorem loopAttribute?_keeps (id : CellId) (name : String) : (loopAttribute? ev id name).Keeps L := by
  unfold loopAttribute?
  refine .bind_loopAt fun l hl => ?_
  split <;> grind

omit hev in
@[grind ←] theorem objectAttribute?_keeps (id : CellId) (name : String) : (objectAttribute? id name).Keeps L := by
  unfold objectAttribute?
  refine .bind_cell fun c hc => ?_
  split <;> grind

@[grind ←] theorem attribute?_keeps (v : Value) (name : String) : (attribute? ev v name).Keeps L := by
  unfold attribute?
  grind

/-! ## Items -/

@[grind ←] theorem noKey_keeps (key : Value) : (noKey ev key).Keeps L := by
  unfold noKey
  grind

omit hev in
@[grind ←] theorem bound?_keeps (v : Value) : (bound? v).Keeps L := by
  unfold bound?
  grind

omit hev in
@[grind ←] theorem sliceBounds_keeps (length : Nat) (start stop step : Value) :
    (sliceBounds length start stop step).Keeps L := by
  unfold sliceBounds
  refine Keeps.bind (bound?_keeps _) fun step => ?_
  grind

omit hev in
@[grind ←] theorem sliced_keeps (items : Array α) (start stop step : Value) :
    (sliced items start stop step).Keeps L := by
  unfold sliced
  grind

omit hev in
@[grind ←] theorem within_badIndex (v key : Value) {ok : FaultKind → String → Nat → Prop} : (badIndex v key).Within ok := by
  unfold badIndex
  grind

omit hev in
@[grind ←] theorem itemAt_keeps (v : Value) (i : Int) : (itemAt v i).Keeps L := by
  unfold itemAt
  grind

omit hev in
@[grind ←] theorem slicePart_keeps (v start stop step : Value) : (slicePart v start stop step).Keeps L := by
  unfold slicePart
  grind

@[grind ←] theorem subscript_keeps (v key : Value) : (subscript ev v key).Keeps L := by
  unfold subscript
  split
  · exact .throw trivial
  · grind
  · refine .bind_cell fun c _ => ?_
    split <;> grind
  · grind

/-! ## With a fallback -/

@[grind ←] theorem lacking_keeps (v key : Value) : (lacking ev v key).Keeps L := by
  unfold lacking
  grind

@[grind ←] theorem getAttribute_keeps (v : Value) (name : String) : (getAttribute ev v name).Keeps L := by
  unfold getAttribute
  grind

@[grind ←] theorem getItem_keeps (v key : Value) : (getItem ev v key).Keeps L := by
  unfold getItem
  refine .bind_attempt (subscript_keeps hev v key) (fun x => .pure x) fun f hf => ?_
  grind

@[grind ←] theorem getPart_keeps (parts : List Value) (default v : Value) :
    (getPart ev parts default v).Keeps L := by
  unfold getPart
  grind

end

/-! ## Variables -/

@[grind ←] theorem lookIn_keeps (r : Ref) (id : CellId) : (lookIn r id).Keeps L := by
  unfold lookIn
  grind

@[grind ←] theorem readVariable_keeps (site : Site) (r : Ref) : (readVariable site r).Keeps L := by
  unfold readVariable
  grind

@[grind ←] theorem setVariable_keeps (site : Site) (r : Ref) (v : Option Value) : (setVariable site r v).Keeps L :=
  modifyScope_keeps _ _

@[grind ←] theorem useVariable_keeps (site : Site) (r : Ref) : (useVariable site r).Keeps L := by
  unfold useVariable
  grind

@[grind ←] theorem enterWith_keeps (site : Site) (loads : List (Ref × Load)) : (enterWith site loads).Keeps L := by
  induction loads with
  | nil => exact .pure _
  | cons e loads ih => unfold enterWith; grind

@[grind ←] theorem leaveWith_keeps (site : Site) (refs : List Ref) : (leaveWith site refs).Keeps L := by
  unfold leaveWith
  grind

/-- A scope inside another belongs to the same file. -/
theorem innerSite_gives (site : Site) : (innerSite site).Gives L none (·.file = site.file) := by
  unfold innerSite
  exact Gives.bind (alloc_keeps (c := .scope _) trivial) fun _ _ => .pure rfl

@[grind ←] theorem parentIn_keeps (id : CellId) : (parentIn id).Keeps L := by
  unfold parentIn
  grind

@[grind ←] theorem parentOf_keeps (site : Site) : (parentOf site).Keeps L := by
  unfold parentOf
  grind

/-! ## Assignment -/

@[grind ←] theorem setField_keeps (v : Option Value) (field : String) (new : Value) :
    (setField v field new).Keeps L := by
  unfold setField
  grind

section

variable (hev : ev.Keeps L)

include hev

@[grind ←] theorem pullUpTo_keeps (id : CellId) (n : Nat) : (pullUpTo ev id n).Keeps L := by
  induction n with
  | zero => exact .pure _
  | succ n ih => unfold pullUpTo; grind

@[grind ←] theorem unpack_keeps (n : Nat) (v : Value) : (unpack ev n v).Keeps L := by
  unfold unpack
  refine .bind_attempt (iterate_keeps v) (fun id => ?_) fun f hf => ?_ <;> grind

end

mutual

@[grind ←] theorem bindTarget_keeps (hev : ev.Keeps L) (site : Site) :
    ∀ (t : Target Ref) (v : Value), (bindTarget ev site t v).Keeps L
  | .name _ r, v => setVariable_keeps site r (some v)
  | .field _ r field, v => Keeps.bind (readVariable_keeps site r) fun x => setField_keeps x field v
  | .tuple _ ts, v => Keeps.bind (unpack_keeps hev _ v) (bindTargets_keeps hev site ts)

@[grind ←] theorem bindTargets_keeps (hev : ev.Keeps L) (site : Site) :
    ∀ (ts : List (Target Ref)) (vs : List Value), (bindTargets ev site ts vs).Keeps L
  | t :: ts, v :: vs => Keeps.bind (bindTarget_keeps hev site t v) fun _ => bindTargets_keeps hev site ts vs
  | [], [] | [], _ :: _ | _ :: _, [] => .pure ()

end

mutual

@[grind ←] theorem targetValue_keeps (site : Site) : ∀ t : Target Ref, (targetValue site t).Keeps L
  | .name _ r | .field _ r _ => useVariable_keeps site r
  | .tuple _ ts => Keeps.bind (targetValues_keeps site ts) fun _ => .pure _

@[grind ←] theorem targetValues_keeps (site : Site) : ∀ ts : List (Target Ref), (targetValues site ts).Keeps L
  | [] => .pure []
  | t :: ts =>
    Keeps.bind (targetValue_keeps site t) fun _ => Keeps.bind (targetValues_keeps site ts) fun _ => .pure _

end

end TemplateTree.Template
