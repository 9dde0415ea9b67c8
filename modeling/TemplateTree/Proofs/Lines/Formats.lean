import TemplateTree.Proofs.Lines.Access
import TemplateTree.Template.Methods

/-!
# Lines under arithmetic and formatting

What is found without the machine fails without a line; arithmetic and formats are such steps, and the printing of
what they are given.

* `FaultsWithin`: results found without the machine.
* `percent_keeps`, `fields_keeps`: the two kinds of formats.
-/

namespace TemplateTree.Template

open Eval

variable {L : Lines} {ev : Evaluator} {α β : Type} {ok : FaultKind → String → Nat → Prop}

/-! ## Results found without the machine -/

/-- A result found without the machine, or a fault that has one of some lines if it knows its line. -/
def FaultsWithin (ok : FaultKind → String → Nat → Prop) (x : Except Fault α) : Prop :=
  ∀ f, x = .error f → f.Within ok

namespace FaultsWithin

@[grind ←] theorem done (a : α) : FaultsWithin ok (.ok a : Except Fault α) := nofun

@[grind ←] theorem pure (a : α) : FaultsWithin ok (pure a : Except Fault α) := nofun

@[grind ←] theorem error {f : Fault} (h : f.Within ok) : FaultsWithin ok (.error f : Except Fault α) := by
  rintro _ ⟨⟩
  exact h

@[grind ←] theorem throw {f : Fault} (h : f.Within ok) : FaultsWithin ok (throw f : Except Fault α) :=
  error h

@[grind ←] theorem bind {x : Except Fault α} {f : α → Except Fault β} (h : FaultsWithin ok x)
    (hf : ∀ a, FaultsWithin ok (f a)) : FaultsWithin ok (x >>= f) := by
  cases x with
  | error e => exact error (h e rfl)
  | ok a => exact hf a

@[grind ←] theorem foldlM {step : β → α → Except Fault β} (h : ∀ b a, FaultsWithin ok (step b a)) (l : List α)
    (b : β) : FaultsWithin ok (l.foldlM step b) := by
  induction l generalizing b with
  | nil => exact .pure b
  | cons a l ih =>
    rw [List.foldlM_cons]
    exact (h b a).bind ih

end FaultsWithin

@[grind ←] theorem Formatting.lift_keeps {x : Except Fault α} (h : FaultsWithin L.inFault x) : (lift x).Keeps L := by
  cases x with
  | ok a => exact .pure a
  | error f => exact .throw (h f rfl)

@[grind ←] theorem Parameters.fill_within (p : Parameters) (args : Arguments) : FaultsWithin ok (p.fill args) := by
  unfold fill
  grind [tooMany, missing]

namespace Layout

@[grind ←] theorem takeGrouping_within (s : List Char) : FaultsWithin ok (takeGrouping s) := by
  unfold takeGrouping
  grind [badGrouping]

@[grind ←] theorem parse_within (kind : String) (isNumber : Bool) (s : List Char) :
    FaultsWithin ok (parse kind isNumber s) := by
  unfold parse
  dsimp only
  refine .bind (takeGrouping_within _) fun _ => ?_
  have hgrouping (mark type : Char) : (badGrouping mark type).Within ok := trivial
  split
  · split <;> refine .bind (by grind) fun _ => ?_
    all_goals split <;> refine .bind (by grind) fun _ => ?_ <;> grind
  · refine .bind (.pure _) fun _ => ?_
    split <;> refine .bind (by grind) fun _ => ?_ <;> grind

@[grind ←] theorem text_within (l : Layout) (s : String) : FaultsWithin ok (l.text s) := by
  unfold text
  grind [badGrouping, unknownType]

@[grind ←] theorem float_within (l : Layout) (x : Float) : FaultsWithin ok (l.float x) := by
  unfold float
  grind [unknownType]

@[grind ←] theorem integer_within (l : Layout) (n : Int) : FaultsWithin ok (l.integer n) := by
  unfold integer
  grind [unknownType]

end Layout

/-! ## Arithmetic -/

@[grind ←] theorem within_noOperation (op : String) (a b : Value) : (noOperation op a b).Within ok := trivial

@[grind ←] theorem defined_keeps (a b : Value) : (defined a b).Keeps L := by
  unfold defined
  grind

@[grind ←] theorem toFloat_keeps (n : Int ⊕ Float) : (toFloat n).Keeps L := by
  unfold toFloat
  grind

@[grind ←] theorem numeric_keeps {onInts : Int → Int → Eval Value} {onFloats : Float → Float → Eval Value}
    (hi : ∀ m n, (onInts m n).Keeps L) (hf : ∀ x y, (onFloats x y).Keeps L) (a b : Int ⊕ Float) :
    (numeric a b onInts onFloats).Keeps L := by
  unfold numeric
  grind

@[grind ←] theorem add_keeps (hev : ev.Keeps L) (a b : Value) : (add ev a b).Keeps L := by
  unfold add
  grind

@[grind ←] theorem subtract_keeps (a b : Value) : (subtract a b).Keeps L := by
  unfold subtract
  refine Keeps.bind (defined_keeps a b) fun _ => ?_
  split <;> grind

@[grind ←] theorem repeated_keeps (v : Value) (count : Int) : (repeated v count).Keeps L := by
  unfold repeated
  grind

@[grind ←] theorem multiply_keeps (a b : Value) : (multiply a b).Keeps L := by
  unfold multiply
  grind

@[grind ←] theorem byZero_keeps (message : String) : (byZero message : Eval α).Keeps L :=
  .throw trivial

@[grind ←] theorem divide_keeps (a b : Value) : (divide a b).Keeps L := by
  unfold divide
  refine Keeps.bind (defined_keeps a b) fun _ => ?_
  split
  · exact .pure _
  · refine numeric_keeps ?_ ?_ _ _ <;> grind
  · exact .throw trivial

@[grind ←] theorem floorDivide_keeps (a b : Value) : (floorDivide a b).Keeps L := by
  unfold floorDivide
  grind

@[grind ←] theorem modulo_keeps (a b : Value) : (modulo a b).Keeps L := by
  unfold modulo
  grind

@[grind ←] theorem floatPower_keeps (x y : Float) : (floatPower x y).Keeps L := by
  unfold floatPower
  grind

@[grind ←] theorem raise_keeps (a b : Value) : (raise a b).Keeps L := by
  unfold raise
  grind

@[grind ←] theorem signed_keeps (sign : String) (v : Value) (onInt : Int → Int) (onFloat : Float → Float) :
    (signed sign v onInt onFloat).Keeps L := by
  unfold signed
  grind

@[grind ←] theorem negate_keeps (v : Value) : (negate v).Keeps L :=
  signed_keeps _ v _ _

@[grind ←] theorem plus_keeps (v : Value) : (plus v).Keeps L :=
  signed_keeps _ v _ _

/-! ## Arguments by position -/

@[grind ←] theorem noNames_keeps (label : String) (args : Template.Arguments) : (noNames label args).Keeps L := by
  unfold noNames
  grind

@[grind ←] theorem nothing_keeps (label : String) (args : Template.Arguments) : (nothing label args).Keeps L := by
  unfold nothing
  grind

@[grind ←] theorem single_keeps (label : String) (args : Template.Arguments) : (single label args).Keeps L := by
  unfold single
  grind

@[grind ←] theorem between_keeps (label name : String) (low high : Nat) (args : Template.Arguments) :
    (between label name low high args).Keeps L := by
  unfold between
  grind

@[grind ←] theorem counted_keeps (label name : String) (low high : Nat) (args : Template.Arguments) :
    (counted label name low high args).Keeps L := by
  unfold counted
  grind

@[grind ←] theorem wanted_keeps (v : Value) : (wanted v).Keeps L := by
  unfold wanted
  grind

/-! ## Formatting -/

namespace Formatting

@[grind ←] theorem supplyTake_keeps (s : Supply) : s.take.Keeps L := by
  unfold Supply.take
  grind

@[grind ←] theorem within_noNumber (type : Char) (v : Value) : (noNumber type v).Within ok := trivial

@[grind ←] theorem wholeNumber_keeps (type : Char) (v : Value) : (wholeNumber type v).Keeps L := by
  unfold wholeNumber
  grind

@[grind ←] theorem realNumber_keeps (v : Value) : (realNumber v).Keeps L := by
  unfold realNumber
  grind

namespace Conversion

variable (c : Conversion)

@[grind ←] theorem integerForm_keeps (n : Int) : (c.integerForm n).Keeps L := by
  unfold integerForm
  grind

@[grind ←] theorem floatForm_keeps (x : Float) : (c.floatForm x).Keeps L := by
  unfold floatForm
  grind

@[grind ←] theorem charForm_keeps (v : Value) : (c.charForm v).Keeps L := by
  have hrefused : (throw (Fault.type "%c requires int or char") : Eval String).Keeps L := .throw trivial
  unfold charForm
  rcases v.text?.map String.toList with _ | _ | ⟨x, _ | ⟨y, rest⟩⟩
  · cases v.integer? with
    | none => exact hrefused
    | some n =>
      dsimp only
      split
      · exact .bind (.throw trivial) fun _ => .pure _
      · exact .pure _
  · cases v.integer? <;> exact hrefused
  · cases v.integer? <;> exact .pure _
  · cases v.integer? <;> exact hrefused

end Conversion

@[grind ←] theorem takeCount_keeps (s : List Char) (supply : Supply) : (takeCount s supply).Keeps L := by
  unfold takeCount
  grind

section

variable (hev : ev.Keeps L)

include hev

@[grind ←] theorem plain_keeps (escapes : Bool) (v : Value) : (plain ev escapes v).Keeps L :=
  outputText_keeps hev escapes v

@[grind ←] theorem quotedForm_keeps (escapes : Bool) (v : Value) : (quotedForm ev escapes v).Keeps L := by
  unfold quotedForm
  grind

@[grind ←] theorem asciiForm_keeps (escapes : Bool) (v : Value) : (asciiForm ev escapes v).Keeps L := by
  unfold asciiForm
  grind

@[grind ←] theorem conversionForm_keeps (escapes : Bool) (c : Conversion) (position : Nat) (v : Value) :
    (c.form ev escapes position v).Keeps L := by
  unfold Conversion.form
  grind

@[grind ←] theorem takeNamed_keeps (s : List Char) (supply : Supply) : (takeNamed ev s supply).Keeps L := by
  unfold takeNamed
  grind

@[grind ←] theorem conversion_keeps (escapes : Bool) (total : Nat) (s : List Char) (supply : Supply) :
    (conversion ev escapes total s supply).Keeps L := by
  unfold conversion
  refine Keeps.bind (takeNamed_keeps hev s supply) fun _ => Keeps.bind (takeCount_keeps _ _) fun _ => ?_
  dsimp only
  split <;> grind

@[grind ←] theorem percent_keeps (escapes : Bool) (format : String) (v : Value) :
    (percent ev escapes format v).Keeps L := by
  unfold percent
  grind

@[grind ←] theorem laidOut_keeps (escapes : Bool) (v : Value) (layout : List Char) :
    (laidOut ev escapes v layout).Keeps L := by
  unfold laidOut
  grind

omit hev in
@[grind ←] theorem firstValue_keeps (args : Template.Arguments) (name : List Char) (numbering : Numbering) :
    (firstValue args name numbering).Keeps L := by
  unfold firstValue
  grind

@[grind ←] theorem followPath_keeps (fuel : Nat) (s : List Char) (v : Value) :
    (followPath ev fuel s v).Keeps L := by
  induction fuel generalizing s v with
  | zero => exact .pure v
  | succ fuel ih => unfold followPath; grind

omit hev in
@[grind ←] theorem fieldParts_keeps (s : List Char) : (fieldParts s).Keeps L := by
  unfold fieldParts
  grind

@[grind ←] theorem converted_keeps (v : Value) (c : Option Char) : (converted ev v c).Keeps L := by
  unfold converted
  grind

@[grind ←] theorem fieldsWithin_keeps (escapes : Bool) (args : Template.Arguments) (depth : Nat) (s : List Char)
    (numbering : Numbering) : (fieldsWithin ev escapes args depth s numbering).Keeps L := by
  induction depth generalizing escapes s numbering with
  | zero => exact .throw trivial
  | succ depth ih =>
    refine .repeatUntil (fun s => ?_) _
    dsimp only
    split
    all_goals try grind
    next =>
      split
      · exact .throw trivial
      · refine Keeps.bind (fieldParts_keeps _) fun _ => Keeps.bind (firstValue_keeps _ _ _) fun _ => ?_
        refine Keeps.bind (followPath_keeps hev _ _ _) fun _ => Keeps.bind (converted_keeps hev _ _) fun _ => ?_
        grind

@[grind ←] theorem fields_keeps (escapes : Bool) (format : String) (args : Template.Arguments) :
    (fields ev escapes format args).Keeps L := by
  unfold fields
  grind

end

end Formatting

end TemplateTree.Template
