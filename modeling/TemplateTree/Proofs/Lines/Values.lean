import TemplateTree.Proofs.Lines.Keeping

/-!
# Lines under operations on values

Going through sequences, comparing, sorting, looking things up and printing call back into evaluation, but add no
code and no place of their own. Where an operation makes or changes a cell, what it puts there has no line, or has
the line that was there.

* `loopAt_gives`: what the state of a loop refers to has lines of its file.
* `truth_keeps`, `ordered_keeps`, `sorted_keeps`, `contains_keeps`: comparisons.
* `shown_keeps`, `printed_keeps`: values as text.
-/

namespace TemplateTree.Template

open Eval

variable {L : Lines} {ev : Evaluator} {α β : Type}

attribute [grind =] Cell.Within Iter.Within

theorem LoopState.Within.of_recursion {l l' : LoopState} (h : l.Within L) (heq : l'.recursion = l.recursion) :
    (Cell.loop l').Within L :=
  fun r hr => h r (heq ▸ hr)

grind_pattern LoopState.Within.of_recursion => l.Within L, (Cell.loop l').Within L

/-! ## Sequences -/

@[grind ←] theorem items?_keeps (v : Value) : (items? v).Keeps L := by
  unfold items?
  grind

@[grind ←] theorem iterate_keeps (v : Value) : (iterate v).Keeps L := by
  unfold iterate
  grind

theorem loopAt_gives (id : CellId) : (loopAt id).Gives L none (·.Within L) := by
  unfold loopAt
  refine (cell_gives id).bind fun c hc => ?_
  split
  · exact .pure hc
  · exact .pure nofun

/-- The state of a loop has the lines that its cell has. -/
@[grind ←] theorem Eval.Keeps.bind_loopAt {id : CellId} {f : LoopState → Eval α}
    (h : ∀ l, l.Within L → (f l).Keeps L) : (loopAt id >>= f).Keeps L :=
  (loopAt_gives id).bind h

@[grind ←] theorem plainLength?_keeps (v : Value) : (plainLength? v).Keeps L := by
  unfold plainLength?
  grind

section

variable (hev : ev.Keeps L)

include hev

@[grind ←] theorem drain_keeps (id : CellId) : (drain ev id).Keeps L := by
  unfold drain
  grind

@[grind ←] theorem collect_keeps (v : Value) : (collect ev v).Keeps L := by
  unfold collect
  grind

@[grind ←] theorem loopLength_keeps (id : CellId) : (loopLength ev id).Keeps L := by
  unfold loopLength
  refine .bind_loopAt fun l hl => ?_
  split
  · exact .pure _
  · refine Keeps.bind (plainLength?_keeps _) fun n => ?_
    cases n <;> grind

@[grind ←] theorem length?_keeps (v : Value) : (length? ev v).Keeps L := by
  unfold length?
  grind

@[grind ←] theorem length_keeps (v : Value) : (length ev v).Keeps L := by
  unfold length
  grind

end

/-! ## Truth and equality -/

@[grind ←] theorem truth_keeps (hev : ev.Keeps L) (v : Value) : (truth ev v).Keeps L := by
  unfold truth
  grind

section

variable {step : α → β → Eval Bool} {less : α → α → Eval Bool}

@[grind ←] theorem allBoth_keeps (h : ∀ a b, (step a b).Keeps L) (as : List α) (bs : List β) :
    (allBoth step as bs).Keeps L := by
  induction as generalizing bs with
  | nil => cases bs <;> exact .pure _
  | cons a as ih => cases bs <;> unfold allBoth <;> grind

@[grind ←] theorem firstOf_keeps {step : α → Eval (Option β)} (h : ∀ a, (step a).Keeps L) (as : List α) :
    (firstOf step as).Keeps L := by
  induction as with
  | nil => exact .pure _
  | cons a as ih => unfold firstOf; grind

@[grind ←] theorem allOf_keeps {step : α → Eval Bool} (h : ∀ a, (step a).Keeps L) (as : List α) :
    (allOf step as).Keeps L := by
  induction as with
  | nil => exact .pure _
  | cons a as ih => unfold allOf; grind

@[grind ←] theorem anyOf_keeps {step : α → Eval Bool} (h : ∀ a, (step a).Keeps L) (as : List α) :
    (anyOf step as).Keeps L := by
  induction as with
  | nil => exact .pure _
  | cons a as ih => unfold anyOf; grind

end

@[grind ←] theorem identical_keeps (a b : Value) : (identical a b).Keeps L := by
  unfold identical
  split <;> grind

@[grind ←] theorem sameWithin_keeps (fuel : Nat) (a b : Value) : (sameWithin fuel a b).Keeps L := by
  induction fuel generalizing a b with
  | zero => exact .throw trivial
  | succ fuel ih =>
    unfold sameWithin
    extract_lets within
    have hwithin : ∀ x y, (within x y).Keeps L := fun x y => by grind
    clear_value within
    split <;> grind

@[grind ←] theorem same_keeps (a b : Value) : (same a b).Keeps L :=
  sameWithin_keeps _ a b

@[grind ←] theorem sameItem_keeps (a b : Value) : (sameItem a b).Keeps L := by
  unfold sameItem
  grind

@[grind ←] theorem orderedItems_keeps {step : Value → Value → Eval Bool} (h : ∀ a b, (step a b).Keeps L)
    (op : OrderOp) (as bs : List Value) : (orderedItems step op as bs).Keeps L := by
  induction as generalizing bs with
  | nil => cases bs <;> exact .pure _
  | cons a as ih => cases bs <;> unfold orderedItems <;> grind

@[grind ←] theorem orderedWithin_keeps (op : OrderOp) (fuel : Nat) (a b : Value) :
    (orderedWithin op fuel a b).Keeps L := by
  induction fuel generalizing a b with
  | zero => exact .throw trivial
  | succ fuel ih => unfold orderedWithin; grind [noOrder]

@[grind ←] theorem ordered_keeps (op : OrderOp) (a b : Value) : (ordered op a b).Keeps L :=
  orderedWithin_keeps op _ a b

@[grind ←] theorem placeFor_keeps {less : α → α → Eval Bool} (h : ∀ a b, (less a b).Keeps L) (items : Array α)
    (x : α) (fuel low high : Nat) : (placeFor less items x fuel low high).Keeps L := by
  induction fuel generalizing low high with
  | zero => exact .pure _
  | succ fuel ih => unfold placeFor; grind

@[grind ←] theorem leadingRun_keeps {less : α → α → Eval Bool} (h : ∀ a b, (less a b).Keeps L) (items : List α) :
    (leadingRun less items).Keeps L := by
  unfold leadingRun
  split
  · refine Keeps.bind (h _ _) fun descending => Keeps.bind (.repeatUntil (fun s => ?_) _) fun r => .pure _
    grind
  · exact .pure _

@[grind ←] theorem sortBy_keeps {less : α → α → Eval Bool} (h : ∀ a b, (less a b).Keeps L) (items : List α) :
    (sortBy less items).Keeps L := by
  unfold sortBy
  grind

@[grind ←] theorem sorted_keeps (reversed : Bool) (items : List (Value × Value)) :
    (sorted reversed items).Keeps L := by
  unfold sorted
  grind

@[grind ←] theorem checkKey_keeps (fuel : Nat) (v : Value) : (checkKey fuel v).Keeps L := by
  induction fuel generalizing v with
  | zero => exact .pure _
  | succ fuel ih => unfold checkKey; grind

@[grind ←] theorem lookup_keeps (entries : List (Value × Value)) (key : Value) : (lookup entries key).Keeps L := by
  unfold lookup
  grind

@[grind ←] theorem storeIn_keeps (key value : Value) (entries : List (Value × Value)) :
    (storeIn key value entries).Keeps L := by
  induction entries with
  | nil => exact .pure _
  | cons e entries ih => unfold storeIn; grind

@[grind ←] theorem store_keeps (entries : List (Value × Value)) (key value : Value) :
    (store entries key value).Keeps L := by
  unfold store
  grind

@[grind ←] theorem storeAll_keeps (entries pairs : List (Value × Value)) : (storeAll entries pairs).Keeps L := by
  unfold storeAll
  grind

@[grind ←] theorem remove_keeps (entries : List (Value × Value)) (key : Value) : (remove entries key).Keeps L := by
  unfold remove
  grind

@[grind ←] theorem contains_keeps (hev : ev.Keeps L) (item container : Value) :
    (contains ev item container).Keeps L := by
  unfold contains
  split <;> grind

/-! ## Values as text -/

@[grind ←] theorem integerText_keeps (n : Int) : (integerText n).Keeps L := by
  unfold integerText
  grind

section

variable (hev : ev.Keeps L)

include hev

@[grind ←] theorem shownObject_keeps {inner : Value → Eval String} (h : ∀ v, (inner v).Keeps L) (kind : ObjectKind)
    (id : CellId) : (shownObject ev inner kind id).Keeps L := by
  unfold shownObject
  grind

@[grind ←] theorem shownWithin_keeps (fuel : Nat) (above : List CellId) (v : Value) :
    (shownWithin ev fuel above v).Keeps L := by
  induction fuel generalizing above v with
  | zero => exact .throw trivial
  | succ fuel ih =>
    unfold shownWithin
    split <;> grind

@[grind ←] theorem shown_keeps (v : Value) : (shown ev v).Keeps L :=
  shownWithin_keeps hev _ _ v

@[grind ←] theorem printed_keeps (v : Value) : (printed ev v).Keeps L := by
  unfold printed
  grind

@[grind ←] theorem escaped_keeps (v : Value) : (escaped ev v).Keeps L := by
  unfold escaped
  grind

@[grind ←] theorem asText_keeps (v : Value) : (asText ev v).Keeps L := by
  unfold asText
  grind

@[grind ←] theorem outputText_keeps (escapes : Bool) (v : Value) : (outputText ev escapes v).Keeps L := by
  unfold outputText
  grind

end

end TemplateTree.Template
