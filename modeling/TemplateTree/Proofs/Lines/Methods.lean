import TemplateTree.Proofs.Lines.Formats

/-!
# Lines under methods

The methods of texts, lists, tuples and maps.

* `TextMethods.call_keeps`: a method of a text.
* `callMethod_keeps`: a method of any value.
-/

namespace TemplateTree.Template

open Eval

variable {L : Lines} {ev : Evaluator} {α β : Type}

/-! ## Texts -/

namespace TextMethods

@[grind ←] theorem chars_keeps (fault : String) (v : Value) : (chars fault v).Keeps L := by
  unfold chars
  grind

@[grind ←] theorem plainChars_keeps (v : Value) : (plainChars v).Keeps L :=
  chars_keeps _ v

@[grind ←] theorem window_keeps (s : List Char) (bounds : List Value) : (window s bounds).Keeps L := by
  unfold window
  grind

@[grind ←] theorem position_keeps (fromRight : Bool) (s : List Char) (args : List Value) :
    (position fromRight s args).Keeps L := by
  unfold position
  grind

@[grind ←] theorem split_keeps (fromRight : Bool) (s : List Char) (separator : Value) (limit : Int) :
    (split fromRight s separator limit).Keeps L := by
  unfold split
  grind

@[grind ←] theorem splitArguments_keeps (name : String) (args : Arguments) : (splitArguments name args).Keeps L := by
  unfold splitArguments
  grind

@[grind ←] theorem results_keeps (r : Receiver) (pieces : List (List Char)) : (results r pieces).Keeps L :=
  newList_keeps _

@[grind ←] theorem stripped_keeps (name : String) (r : Receiver) (args : List Value) :
    (stripped name r args).Keeps L := by
  unfold stripped
  grind

@[grind ←] theorem hasEnd_keeps (name : String) (s : List Char) (args : List Value) :
    (hasEnd name s args).Keeps L := by
  unfold hasEnd
  split
  · grind
  · dsimp only
    split <;> refine Keeps.bind (by grind) fun _ => ?_ <;> grind

@[grind ←] theorem aligned_keeps (name : String) (r : Receiver) (args : List Value) :
    (aligned name r args).Keeps L := by
  unfold aligned
  grind

@[grind ←] theorem partitioned_keeps (fromRight : Bool) (r : Receiver) (v : Value) :
    (partitioned fromRight r v).Keeps L := by
  unfold partitioned
  grind

@[grind ←] theorem replaced_keeps (r : Receiver) (args : List Value) : (replaced r args).Keeps L := by
  unfold replaced
  grind

@[grind ←] theorem withoutAffix_keeps (name : String) (r : Receiver) (v : Value) :
    (withoutAffix name r v).Keeps L := by
  unfold withoutAffix
  grind

section

variable (hev : ev.Keeps L)

include hev

@[grind ←] theorem joined_keeps (r : Receiver) (v : Value) : (joined ev r v).Keeps L := by
  unfold joined
  grind

@[grind ←] theorem linesOf_keeps (r : Receiver) (args : Arguments) : (linesOf r ev args).Keeps L := by
  unfold linesOf
  grind

@[grind ←] theorem call_keeps (r : Receiver) (name : String) (args : Arguments) : (call ev r name args).Keeps L := by
  unfold call
  grind

end

end TextMethods

/-! ## Lists, tuples and maps -/

@[grind ←] theorem indexOf_keeps (items args : List Value) {absent : Eval Nat} (h : absent.Keeps L) :
    (indexOf items args absent).Keeps L := by
  unfold indexOf
  dsimp only
  refine Keeps.bind (by grind) fun _ => Keeps.bind (by grind) fun _ => Keeps.bind (by grind) fun _ => ?_
  split <;> grind

@[grind ←] theorem countOf_keeps (items : List Value) (v : Value) : (countOf items v).Keeps L := by
  unfold countOf
  grind

@[grind ←] theorem popFrom_keeps (id : CellId) (items args : List Value) : (popFrom id items args).Keeps L := by
  unfold popFrom
  dsimp only
  split <;> refine Keeps.bind (by grind) fun _ => ?_ <;> split <;> grind

section

variable (hev : ev.Keeps L)

include hev

@[grind ←] theorem callListMethod_keeps (id : CellId) (name : String) (args : Arguments) :
    (callListMethod ev id name args).Keeps L := by
  unfold callListMethod
  refine Keeps.bind (listItems_keeps id) fun _ => ?_
  dsimp only
  split <;> grind

@[grind ←] theorem callTupleMethod_keeps (v : Value) (name : String) (args : Arguments) :
    (callTupleMethod ev v name args).Keeps L := by
  unfold callTupleMethod
  grind

@[grind ←] theorem pairsOf_keeps (v : Value) : (pairsOf ev v).Keeps L := by
  unfold pairsOf
  split
  · grind
  · refine Keeps.bind (collect_keeps hev v) fun _ => .mapM (fun _ => .bind_attempt ?_ ?_ ?_) _ <;> grind

@[grind ←] theorem givenPairs_keeps (name : String) (args : Arguments) : (givenPairs ev name args).Keeps L := by
  unfold givenPairs
  grind

@[grind ←] theorem callDictMethod_keeps (id : CellId) (name : String) (args : Arguments) :
    (callDictMethod ev id name args).Keeps L := by
  unfold callDictMethod
  refine Keeps.bind (dictEntries_keeps id) fun _ => ?_
  dsimp only
  split <;> grind

end

/-! ## Paths -/

@[grind ←] theorem orSystem_keeps (x : Except SystemError α) : (orSystem x).Keeps L := by
  unfold orSystem
  grind

@[grind ←] theorem contentUnless_keeps (p : Path) (absent : α) (f : Option ByteArray → α) :
    (contentUnless p absent f).Keeps L := by
  unfold contentUnless
  grind

@[grind ←] theorem readText_keeps (p : Path) : (readText p).Keeps L := by
  unfold readText
  grind

@[grind ←] theorem callPathMethod_keeps (p : Path) (name : String) (args : Arguments) :
    (callPathMethod p name args).Keeps L := by
  unfold callPathMethod
  grind

/-! ## Loops and other objects -/

@[grind ←] theorem callLoopMethod_keeps (id : CellId) (name : String) (args : Arguments) :
    (callLoopMethod id name args).Keeps L := by
  unfold callLoopMethod
  grind

@[grind ←] theorem callCyclerMethod_keeps (id : CellId) (name : String) : (callCyclerMethod id name).Keeps L := by
  unfold callCyclerMethod
  grind

@[grind ←] theorem callRange_keeps (args : Arguments) : (callRange args).Keeps L := by
  unfold callRange
  grind

@[grind ←] theorem callJoiner_keeps (id : CellId) : (callJoiner id).Keeps L := by
  unfold callJoiner
  grind

section

variable (hev : ev.Keeps L)

include hev

@[grind ←] theorem callMethod_keeps (receiver : Value) (name : String) (args : Arguments) :
    (callMethod ev receiver name args).Keeps L := by
  unfold callMethod
  grind

@[grind ←] theorem callBuiltin_keeps (f : Builtin) (args : Arguments) : (callBuiltin ev f args).Keeps L := by
  unfold callBuiltin
  grind

end

end TemplateTree.Template
