import TemplateTree.Proofs.Lines.Scanning
import TemplateTree.Template.Parser

/-!
# Lines of the syntax

* `Expr.Within`, `Target.Within`, `Stmt.Within`: the lines of a piece of a template are among some lines.
* `Lined`: the same for everything that the parser finds.
* `Parse.Keeps`: a step of the parser only finds lines of the tokens.
-/

namespace TemplateTree.Template

/-- All lines of an expression are among some lines. -/
inductive Expr.Within {ν : Type} (ok : Nat → Prop) : Expr ν → Prop
  | literal {l} (hl : ok l) value : Within ok (.literal l value)
  | data {l} (hl : ok l) text : Within ok (.data l text)
  | name {l} (hl : ok l) place : Within ok (.name l place)
  | tuple {l} (hl : ok l) {items} (hitems : ∀ e ∈ items, Within ok e) : Within ok (.tuple l items)
  | list {l} (hl : ok l) {items} (hitems : ∀ e ∈ items, Within ok e) : Within ok (.list l items)
  | dict {l} (hl : ok l) {pairs} (hkeys : ∀ p ∈ pairs, Within ok p.1) (hvalues : ∀ p ∈ pairs, Within ok p.2) :
      Within ok (.dict l pairs)
  | cond {l} (hl : ok l) {test yes no} (htest : Within ok test) (hyes : Within ok yes)
      (hno : ∀ e ∈ no, Within ok e) : Within ok (.cond l test yes no)
  | both {l} (hl : ok l) {a b} (ha : Within ok a) (hb : Within ok b) : Within ok (.both l a b)
  | either {l} (hl : ok l) {a b} (ha : Within ok a) (hb : Within ok b) : Within ok (.either l a b)
  | not {l} (hl : ok l) {e} (he : Within ok e) : Within ok (.not l e)
  | binary {l} (hl : ok l) op {a b} (ha : Within ok a) (hb : Within ok b) : Within ok (.binary l op a b)
  | negate {l} (hl : ok l) {e} (he : Within ok e) : Within ok (.negate l e)
  | plus {l} (hl : ok l) {e} (he : Within ok e) : Within ok (.plus l e)
  | concat {l} (hl : ok l) escapes {items} (hitems : ∀ e ∈ items, Within ok e) : Within ok (.concat l escapes items)
  | compare {l} (hl : ok l) {e rest} (he : Within ok e) (hrest : ∀ p ∈ rest, Within ok p.2) :
      Within ok (.compare l e rest)
  | attr {l} (hl : ok l) {e} (he : Within ok e) field : Within ok (.attribute l e field)
  | item {l} (hl : ok l) {e index} (he : Within ok e) (hindex : Within ok index) : Within ok (.item l e index)
  | slice {l} (hl : ok l) {a b c} (ha : ∀ e ∈ a, Within ok e) (hb : ∀ e ∈ b, Within ok e)
      (hc : ∀ e ∈ c, Within ok e) : Within ok (.slice l a b c)
  | call {l} (hl : ok l) {f args named star starStar} (hf : Within ok f) (hargs : ∀ e ∈ args, Within ok e)
      (hnamed : ∀ p ∈ named, Within ok p.2) (hstar : ∀ e ∈ star, Within ok e)
      (hstarStar : ∀ e ∈ starStar, Within ok e) : Within ok (.call l f args named star starStar)
  | filter {l} (hl : ok l) {e args named star starStar} (he : ∀ x ∈ e, Within ok x) name
      (hargs : ∀ e ∈ args, Within ok e) (hnamed : ∀ p ∈ named, Within ok p.2) (hstar : ∀ e ∈ star, Within ok e)
      (hstarStar : ∀ e ∈ starStar, Within ok e) : Within ok (.filter l e name args named star starStar)
  | test {l} (hl : ok l) {e args named star starStar} (he : Within ok e) name (hargs : ∀ e ∈ args, Within ok e)
      (hnamed : ∀ p ∈ named, Within ok p.2) (hstar : ∀ e ∈ star, Within ok e)
      (hstarStar : ∀ e ∈ starStar, Within ok e) : Within ok (.test l e name args named star starStar)

/-- All lines of a target are among some lines. -/
inductive Target.Within {ν : Type} (ok : Nat → Prop) : Target ν → Prop
  | name {l} (hl : ok l) place : Within ok (.name l place)
  | field {l} (hl : ok l) place field : Within ok (.field l place field)
  | tuple {l} (hl : ok l) {items} (hitems : ∀ t ∈ items, Within ok t) : Within ok (.tuple l items)

/-- All lines of a statement are among some lines. -/
inductive Stmt.Within (ok : Nat → Prop) : Stmt → Prop
  | output {l} (hl : ok l) {items} (hitems : ∀ e ∈ items, e.Within ok) : Within ok (.output l items)
  | forLoop {l} (hl : ok l) {target iter body otherwise test} (htarget : target.Within ok) (hiter : iter.Within ok)
      (hbody : ∀ s ∈ body, Within ok s) (hotherwise : ∀ s ∈ otherwise, Within ok s) (htest : ∀ e ∈ test, e.Within ok)
      recursive : Within ok (.forLoop l target iter body otherwise test recursive)
  | ifElse {l} (hl : ok l) {test body elifs otherwise} (htest : test.Within ok) (hbody : ∀ s ∈ body, Within ok s)
      (hlines : ∀ b ∈ elifs, ok b.1) (htests : ∀ b ∈ elifs, b.2.1.Within ok)
      (hbodies : ∀ b ∈ elifs, ∀ s ∈ b.2.2, Within ok s) (hotherwise : ∀ s ∈ otherwise, Within ok s) :
      Within ok (.ifElse l test body elifs otherwise)
  | withScope {l} (hl : ok l) {bindings body} (htargets : ∀ b ∈ bindings, b.1.Within ok)
      (hvalues : ∀ b ∈ bindings, b.2.Within ok) (hbody : ∀ s ∈ body, Within ok s) :
      Within ok (.withScope l bindings body)
  | autoescape {l} (hl : ok l) {option body} (hoption : option.Within ok) (hbody : ∀ s ∈ body, Within ok s) :
      Within ok (.autoescape l option body)
  | block {l} (hl : ok l) name isScoped isRequired {body} (hbody : ∀ s ∈ body, Within ok s) :
      Within ok (.block l name isScoped isRequired body)
  | extends {l} (hl : ok l) {template} (htemplate : template.Within ok) : Within ok (.extends l template)
  | inclusion {l} (hl : ok l) {template} (htemplate : template.Within ok) ignoreMissing withContext :
      Within ok (.inclusion l template ignoreMissing withContext)
  | importAs {l} (hl : ok l) {template} (htemplate : template.Within ok) target withContext :
      Within ok (.importAs l template target withContext)
  | importNames {l} (hl : ok l) {template} (htemplate : template.Within ok) names withContext :
      Within ok (.importNames l template names withContext)
  | macroDef {l} (hl : ok l) name params {defaults body} (hdefaults : ∀ e ∈ defaults, e.Within ok)
      (hbody : ∀ s ∈ body, Within ok s) : Within ok (.macroDef l name params defaults body)
  | callBlock {l} (hl : ok l) params {defaults call body} (hdefaults : ∀ e ∈ defaults, e.Within ok)
      (hcall : call.Within ok) (hbody : ∀ s ∈ body, Within ok s) :
      Within ok (.callBlock l params defaults call body)
  | filterBlock {l} (hl : ok l) {filter body} (hfilter : filter.Within ok) (hbody : ∀ s ∈ body, Within ok s) :
      Within ok (.filterBlock l filter body)
  | set {l} (hl : ok l) {target value} (htarget : target.Within ok) (hvalue : value.Within ok) :
      Within ok (.set l target value)
  | setBlock {l} (hl : ok l) {target filter body} (htarget : target.Within ok) (hfilter : ∀ e ∈ filter, e.Within ok)
      (hbody : ∀ s ∈ body, Within ok s) : Within ok (.setBlock l target filter body)

variable {α β ν : Type} {ok : Nat → Prop}

theorem Expr.Within.line {e : Expr ν} (h : e.Within ok) : ok e.line := by
  cases h <;> assumption

attribute [grind ←] Expr.Within.literal Expr.Within.data Expr.Within.name Expr.Within.both Expr.Within.either
  Expr.Within.not Expr.Within.binary Expr.Within.negate Expr.Within.plus Expr.Within.attr Expr.Within.item

attribute [grind ←] Target.Within.name Target.Within.field Stmt.Within.extends Stmt.Within.inclusion
  Stmt.Within.importAs Stmt.Within.importNames Stmt.Within.set

namespace Parser

/-! ## What the parser finds -/

/-- What the parser finds has lines, which may be among some lines. A number is a line. -/
class Lined (α : Type) where
  Within : (Nat → Prop) → α → Prop

namespace Lined

instance : Lined Nat := ⟨fun ok l => ok l⟩

instance : Lined Unit := ⟨fun _ _ => True⟩

instance : Lined Bool := ⟨fun _ _ => True⟩

instance : Lined String := ⟨fun _ _ => True⟩

instance : Lined TokenKind := ⟨fun _ _ => True⟩

instance : Lined CompareOp := ⟨fun _ _ => True⟩

instance : Lined Token := ⟨fun ok t => ok t.line⟩

instance : Lined (Expr ν) := ⟨Expr.Within⟩

instance : Lined (Target ν) := ⟨Target.Within⟩

instance : Lined Stmt := ⟨Stmt.Within⟩

instance [Lined α] [Lined β] : Lined (α × β) := ⟨fun ok p => Within ok p.1 ∧ Within ok p.2⟩

instance [Lined α] [Lined β] : Lined (α ⊕ β) := ⟨fun ok x => x.elim (Within ok) (Within ok)⟩

instance [Lined α] : Lined (Option α) := ⟨fun ok o => ∀ a ∈ o, Within ok a⟩

instance [Lined α] : Lined (List α) := ⟨fun ok l => ∀ a ∈ l, Within ok a⟩

instance : Lined Arguments :=
  ⟨fun ok a => Within ok a.args ∧ Within ok a.named ∧ Within ok a.star ∧ Within ok a.starStar⟩

instance : Lined Gathered := ⟨fun ok g => Within ok g.body ∧ Within ok g.items⟩

instance : Lined State := ⟨fun ok s => Within ok s.current ∧ Within ok s.rest ∧ ∀ f ∈ s.fault, f.On ok⟩

end Lined

open Lined (Within)

section

variable [Lined α] [Lined β]

@[grind =] theorem within_unit (u : Unit) : Within ok u ↔ True := Iff.rfl

@[grind =] theorem within_bool (b : Bool) : Within ok b ↔ True := Iff.rfl

@[grind =] theorem within_string (s : String) : Within ok s ↔ True := Iff.rfl

@[grind =] theorem within_kind (k : TokenKind) : Within ok k ↔ True := Iff.rfl

@[grind =] theorem within_compareOp (op : CompareOp) : Within ok op ↔ True := Iff.rfl

@[grind =] theorem within_line (l : Nat) : Within ok l ↔ ok l := Iff.rfl

@[grind =] theorem within_token (t : Token) : Within ok t ↔ ok t.line := Iff.rfl

@[grind =] theorem within_expr (e : Expr ν) : Within ok e ↔ e.Within ok := Iff.rfl

@[grind =] theorem within_target (t : Target ν) : Within ok t ↔ t.Within ok := Iff.rfl

@[grind =] theorem within_stmt (s : Stmt) : Within ok s ↔ s.Within ok := Iff.rfl

@[grind =] theorem within_prod (p : α × β) : Within ok p ↔ Within ok p.1 ∧ Within ok p.2 := Iff.rfl

@[grind =] theorem within_none : Within ok (none : Option α) ↔ True := by
  simp [Within]

@[grind =] theorem within_some (a : α) : Within ok (some a) ↔ Within ok a := by
  simp [Within]

@[grind =] theorem within_nil : Within ok ([] : List α) ↔ True := by
  simp [Within]

@[grind =] theorem within_cons (a : α) (l : List α) : Within ok (a :: l) ↔ Within ok a ∧ Within ok l :=
  List.forall_mem_cons

@[grind =] theorem within_append (l l' : List α) : Within ok (l ++ l') ↔ Within ok l ∧ Within ok l' :=
  List.forall_mem_append

@[grind =] theorem within_snoc (l : List α) (a : α) : Within ok (l ++ [a]) ↔ Within ok l ∧ Within ok a := by
  rw [within_append, within_cons]
  simp only [within_nil, and_true]

theorem within_snd {l : List (α × β)} (h : Within ok l) : ∀ p ∈ l, Within ok p.2 :=
  fun p hp => (h p hp).2

@[grind =] theorem within_arguments (a : Arguments) :
    Within ok a ↔ Within ok a.args ∧ Within ok a.named ∧ Within ok a.star ∧ Within ok a.starStar := Iff.rfl

@[grind =] theorem within_gathered (g : Gathered) : Within ok g ↔ Within ok g.body ∧ Within ok g.items := Iff.rfl

@[grind =] theorem within_state (s : State) :
    Within ok s ↔ Within ok s.current ∧ Within ok s.rest ∧ ∀ f ∈ s.fault, f.On ok := Iff.rfl

end

/-! ### Expressions made of parts that the parser has found -/

section

variable {l : Nat} {e : Expr ν} {es : List (Expr ν)} {named : List (String × Expr ν)} {a b c : Option (Expr ν)}

@[grind ←] theorem within_tuple (hl : ok l) (h : Within ok es) : (Expr.tuple l es).Within ok := .tuple hl h

@[grind ←] theorem within_list (hl : ok l) (h : Within ok es) : (Expr.list l es).Within ok := .list hl h

@[grind ←] theorem within_dict {ps : List (Expr ν × Expr ν)} (hl : ok l) (h : Within ok ps) :
    (Expr.dict l ps).Within ok := .dict hl (fun p hp => (h p hp).1) (within_snd h)

@[grind ←] theorem within_cond {test yes : Expr ν} (hl : ok l) (htest : test.Within ok) (hyes : yes.Within ok)
    (hno : Within ok a) : (Expr.cond l test yes a).Within ok := .cond hl htest hyes hno

@[grind ←] theorem within_concat (hl : ok l) (escapes : Bool) (h : Within ok es) :
    (Expr.concat l escapes es).Within ok := .concat hl escapes h

@[grind ←] theorem within_compare {rest : List (CompareOp × Expr ν)} (hl : ok l) (he : e.Within ok)
    (h : Within ok rest) : (Expr.compare l e rest).Within ok := .compare hl he (within_snd h)

@[grind ←] theorem within_slice (hl : ok l) (ha : Within ok a) (hb : Within ok b) (hc : Within ok c) :
    (Expr.slice l a b c).Within ok := .slice hl ha hb hc

@[grind ←] theorem within_call (hl : ok l) (he : e.Within ok) (hes : Within ok es) (hnamed : Within ok named)
    (ha : Within ok a) (hb : Within ok b) : (Expr.call l e es named a b).Within ok :=
  .call hl he hes (within_snd hnamed) ha hb

@[grind ←] theorem within_filter (hl : ok l) (hc : Within ok c) (name : String) (hes : Within ok es)
    (hnamed : Within ok named) (ha : Within ok a) (hb : Within ok b) : (Expr.filter l c name es named a b).Within ok :=
  .filter hl hc name hes (within_snd hnamed) ha hb

@[grind ←] theorem within_test (hl : ok l) (he : e.Within ok) (name : String) (hes : Within ok es)
    (hnamed : Within ok named) (ha : Within ok a) (hb : Within ok b) : (Expr.test l e name es named a b).Within ok :=
  .test hl he name hes (within_snd hnamed) ha hb

end

/-! ### Statements made of parts that the parser has found -/

section

variable {l : Nat} {target : Target String} {e : Expr String} {body otherwise : List Stmt} {o : Option (Expr String)}

@[grind ←] theorem within_forLoop (hl : ok l) (htarget : target.Within ok) (he : e.Within ok)
    (hbody : Within ok body) (hotherwise : Within ok otherwise) (ho : Within ok o) (recursive : Bool) :
    (Stmt.forLoop l target e body otherwise o recursive).Within ok :=
  .forLoop hl htarget he hbody hotherwise ho recursive

@[grind ←] theorem within_ifElse {elifs : List (Nat × Expr String × List Stmt)} (hl : ok l) (he : e.Within ok)
    (hbody : Within ok body) (helifs : Within ok elifs) (hotherwise : Within ok otherwise) :
    (Stmt.ifElse l e body elifs otherwise).Within ok :=
  .ifElse hl he hbody (fun b hb => (helifs b hb).1) (fun b hb => (helifs b hb).2.1) (fun b hb => (helifs b hb).2.2)
    hotherwise

@[grind ←] theorem within_withScope {bindings : List (Target String × Expr String)} (hl : ok l)
    (hbindings : Within ok bindings) (hbody : Within ok body) : (Stmt.withScope l bindings body).Within ok :=
  .withScope hl (fun b hb => (hbindings b hb).1) (within_snd hbindings) hbody

@[grind ←] theorem within_autoescape (hl : ok l) (he : e.Within ok) (hbody : Within ok body) :
    (Stmt.autoescape l e body).Within ok := .autoescape hl he hbody

@[grind ←] theorem within_macroDef {defaults : List (Expr String)} (hl : ok l) (name : String)
    (params : List (Nat × String)) (hdefaults : Within ok defaults) (hbody : Within ok body) :
    (Stmt.macroDef l name params defaults body).Within ok := .macroDef hl name params hdefaults hbody

@[grind ←] theorem within_callBlock {defaults : List (Expr String)} (hl : ok l) (params : List (Nat × String))
    (hdefaults : Within ok defaults) (he : e.Within ok) (hbody : Within ok body) :
    (Stmt.callBlock l params defaults e body).Within ok := .callBlock hl params hdefaults he hbody

@[grind ←] theorem within_filterBlock (hl : ok l) (he : e.Within ok) (hbody : Within ok body) :
    (Stmt.filterBlock l e body).Within ok := .filterBlock hl he hbody

@[grind ←] theorem within_setBlock (hl : ok l) (htarget : target.Within ok) (ho : Within ok o)
    (hbody : Within ok body) : (Stmt.setBlock l target o body).Within ok := .setBlock hl htarget ho hbody

end

/-! ## Steps of the parser -/

/-- A step of the parser finds no lines besides those of the tokens, and says no other in a fault. -/
def Keeps [Lined α] (ok : Nat → Prop) (x : Parse α) : Prop :=
  ∀ s : State, Within ok s →
    match x.run s with
    | .ok (a, t) => Within ok a ∧ Within ok t
    | .error f => f.On ok

namespace Keeps

variable [Lined α] [Lined β]

@[grind ←] theorem pure {a : α} (ha : Within ok a) : Keeps ok (pure a : Parse α) :=
  fun _ hs => ⟨ha, hs⟩

@[grind ←] theorem next {a : α} (ha : Within ok a) : Keeps ok (Pure.pure (.inl a) : Parse (α ⊕ β)) :=
  pure (a := (Sum.inl a : α ⊕ β)) ha

@[grind ←] theorem done {b : β} (hb : Within ok b) : Keeps ok (Pure.pure (.inr b) : Parse (α ⊕ β)) :=
  pure (a := (Sum.inr b : α ⊕ β)) hb

@[grind ←] theorem throw {f : Fault} (hf : f.On ok) : Keeps ok (throw f : Parse α) :=
  fun _ _ => hf

@[grind ←] theorem bind {x : Parse α} {f : α → Parse β} (h : Keeps ok x) (hf : ∀ a, Within ok a → Keeps ok (f a)) :
    Keeps ok (x >>= f) := by
  intro s hs
  have hx := h s hs
  rw [StateT.run_bind]
  cases hrun : x.run s with
  | error e =>
    simp only [hrun] at hx
    exact hx
  | ok r =>
    simp only [hrun] at hx
    exact hf r.1 hx.1 r.2 hx.2

@[grind ←] theorem map {x : Parse α} {f : α → β} (h : Keeps ok x) (hf : ∀ a, Within ok a → Within ok (f a)) :
    Keeps ok (f <$> x) := by
  rw [map_eq_pure_bind]
  exact h.bind fun a ha => .pure (hf a ha)

@[grind ←] theorem get : Keeps ok (get : Parse State) :=
  fun _ hs => ⟨hs, hs⟩

@[grind ←] theorem set {s : State} (hs : Within ok s) : Keeps ok (set s : Parse Unit) :=
  fun _ _ => ⟨trivial, hs⟩

@[grind ←] theorem modify {f : State → State} (hf : ∀ s, Within ok s → Within ok (f s)) :
    Keeps ok (modify f : Parse Unit) :=
  fun s hs => ⟨trivial, hf s hs⟩

end Keeps

@[grind ←] theorem on_raised (kind : FaultKind) (message : String) : (Fault.raised kind message).On ok := trivial

@[grind ←] theorem on_syntaxAt {l : Nat} (hl : ok l) (message : String) : (Fault.syntaxAt l message).On ok := hl

@[grind ←] theorem on_assertionAt {l : Nat} (hl : ok l) (message : String) : (Fault.assertionAt l message).On ok := hl

section

variable [Lined α] [Lined β]

@[grind ←] theorem current_keeps : Keeps ok current := by
  unfold current
  grind

@[grind ←] theorem kind_keeps : Keeps ok kind := by
  unfold kind
  grind

@[grind ←] theorem line_keeps : Keeps ok line := by
  unfold line
  grind

@[grind ←] theorem advance_keeps : Keeps ok advance := by
  unfold advance
  grind

@[grind ←] theorem ahead_keeps : Keeps ok ahead := by
  unfold ahead
  grind

@[grind ←] theorem failAt_keeps {l : Nat} (hl : ok l) (message : String) : Keeps ok (failAt l message : Parse α) :=
  .throw (on_syntaxAt hl message)

@[grind ←] theorem failHere_keeps (message : String) : Keeps ok (failHere message : Parse α) :=
  .bind line_keeps fun _ hl => failAt_keeps hl message

@[grind ←] theorem unexpected_keeps (expected : String) : Keeps ok (unexpected expected : Parse α) := by
  unfold unexpected
  grind

@[grind ←] theorem expectOp_keeps (o : Operator) : Keeps ok (expectOp o) := by
  unfold expectOp
  grind

@[grind ←] theorem expectWord_keeps (word : String) : Keeps ok (expectWord word) := by
  unfold expectWord
  grind

@[grind ←] theorem expectName_keeps : Keeps ok expectName := by
  unfold expectName
  grind

@[grind ←] theorem expectBlockEnd_keeps : Keeps ok expectBlockEnd := by
  unfold expectBlockEnd
  grind

@[grind ←] theorem expectVariableEnd_keeps : Keeps ok expectVariableEnd := by
  unfold expectVariableEnd
  grind

@[grind ←] theorem skipOp_keeps (o : Operator) : Keeps ok (skipOp o) := by
  unfold skipOp
  grind

@[grind ←] theorem skipWord_keeps (word : String) : Keeps ok (skipWord word) := by
  unfold skipWord
  grind

theorem loopWithin_keeps {step : α → Parse (α ⊕ β)} (h : ∀ a, Within ok a → Keeps ok (step a)) (fuel : Nat) {a : α}
    (ha : Within ok a) : Keeps ok (loopWithin step fuel a) := by
  induction fuel generalizing a with
  | zero => exact failHere_keeps _
  | succ fuel ih =>
    refine (h a ha).bind fun
      | .inl a, ha => ih ha
      | .inr b, hb => .pure hb

@[grind ←] theorem loop_keeps {step : α → Parse (α ⊕ β)} (h : ∀ a, Within ok a → Keeps ok (step a)) {a : α}
    (ha : Within ok a) : Keeps ok (loop step a) :=
  .bind .get fun _ _ => loopWithin_keeps h _ ha

end

end Parser

end TemplateTree.Template
