import TemplateTree.Proofs.Lines.Methods
import TemplateTree.Template.Test

/-!
# Lines under filters and tests

All entries of the tables of filters and tests leave lines as they are.

* `Filter.Keeps`, `Test.Keeps`: an entry of a table does.
* `filters_keeps`, `tests_keeps`: all of them do.
-/

namespace TemplateTree.Template

open Eval

variable {L : Lines} {ev : Evaluator} {α β : Type}

/-! ## Operators -/

section

variable (hev : ev.Keeps L)

include hev

@[grind ←] theorem remainder_keeps (a b : Value) : (remainder ev a b).Keeps L := by
  unfold remainder
  grind

@[grind ←] theorem binary_keeps (op : BinaryOp) (a b : Value) : (binary ev op a b).Keeps L := by
  unfold binary
  grind

@[grind ←] theorem comparison_keeps (op : CompareOp) (a b : Value) : (comparison ev op a b).Keeps L := by
  unfold comparison
  grind

@[grind ←] theorem concatenation_keeps (escapes : Bool) (vs : List Value) :
    (concatenation ev escapes vs).Keeps L := by
  unfold concatenation
  grind

/-! ## Parts of items -/

@[grind ←] theorem sortKey_keeps (caseMatters : Bool) (parts : List Value) (default v : Value) :
    (sortKey ev caseMatters parts default v).Keeps L := by
  unfold sortKey
  grind

@[grind ←] theorem itemStep_keeps (escapes : Bool) (step : ItemStep) (v : Value) :
    (itemStep ev escapes step v).Keeps L := by
  unfold itemStep
  grind

@[grind ←] theorem itemTest_keeps (test : ItemTest) (v : Value) : (itemTest ev test v).Keeps L := by
  unfold itemTest
  grind

end

/-! ## JSON -/

namespace JsonText

@[grind ←] theorem keyText_keeps (v : Value) : (keyText v).Keeps L := by
  unfold keyText
  grind

@[grind ←] theorem writeWithin_keeps (indent : Option String) (fuel depth : Nat) (above : List CellId) (v : Value) :
    (writeWithin indent fuel depth above v).Keeps L := by
  induction fuel generalizing depth above v with
  | zero => exact .throw trivial
  | succ fuel ih =>
    unfold writeWithin
    extract_lets items circular
    split
    case h_10 id =>
      extract_lets write
      have hwrite : ∀ u, (write u).Keeps L := by
        intro _
        refine Keeps.bind (dictEntries_keeps id) fun _ => Keeps.bind (sorted_keeps _ _) fun _ => ?_
        exact Keeps.bind (.mapM (fun p => by grind) _) fun _ => .pure _
      have hcircular : circular.Within L.inFault := trivial
      clear_value write
      grind
    all_goals grind

@[grind ←] theorem write_keeps (indent : Option String) (v : Value) : (write indent v).Keeps L :=
  writeWithin_keeps _ _ _ _ v

end JsonText

/-! ## Filters -/

namespace Filter

/-- A filter leaves the lines in a machine as they are to be, if the evaluator that it uses does. -/
def Keeps (L : Lines) (f : Filter) : Prop :=
  ∀ ev : Evaluator, ev.Keeps L → ∀ escapes v args, (f.apply ev escapes v args).Keeps L

theorem of_keeps {label : String} {hidden : Nat} {params : List (String × Option Value)}
    {body : Evaluator → Bool → List Value → Eval Value}
    (h : ∀ ev : Evaluator, ev.Keeps L → ∀ escapes vs, (body ev escapes vs).Keeps L) :
    (of label hidden params body).Keeps L := fun ev hev escapes _ _ =>
  Eval.Keeps.bind (Formatting.lift_keeps (Parameters.fill_within _ _)) (h ev hev escapes)

theorem plain_keeps {label parameter : String} {body : Evaluator → Value → Eval Value}
    (h : ∀ ev : Evaluator, ev.Keeps L → ∀ v, (body ev v).Keeps L) : (plain label parameter body).Keeps L :=
  of_keeps fun ev hev _ _ => h ev hev _

/-! ### Filters for markup -/

theorem escape_keeps : escape.Keeps L := by
  intro ev hev escapes v args
  dsimp only [escape]
  grind

section

variable (hev : ev.Keeps L)

include hev

@[grind ←] theorem addressText_keeps (inQuery : Bool) (v : Value) : (addressText ev inQuery v).Keeps L := by
  unfold addressText
  grind

end

theorem toJson_keeps : toJson.Keeps L := by
  refine of_keeps fun ev hev escapes vs => ?_
  grind

theorem urlEncode_keeps : urlEncode.Keeps L := by
  refine plain_keeps fun ev hev v => ?_
  extract_lets write rest
  have hwrite : ∀ items, (write items).Keeps L := fun items => by
    refine Eval.Keeps.bind (.mapM (fun item => ?_) _) fun _ => .pure _
    grind
  clear_value write
  have hrest : ∀ b, (rest b).Keeps L := by grind
  clear_value rest
  grind

theorem xmlAttributes_keeps : xmlAttributes.Keeps L := by
  refine of_keeps fun ev hev escapes vs => ?_
  extract_lets write
  have hwrite : ∀ entries, (write entries).Keeps L := fun entries => by
    refine Eval.Keeps.bind (.mapM (fun e => ?_) _) fun _ => ?_ <;> grind
  clear_value write
  grind

theorem ofMarkup_keeps : ∀ e ∈ ofMarkup, e.2.Keeps L := by
  simp only [ofMarkup, List.forall_mem_cons]
  refine ⟨escape_keeps, escape_keeps, ?_, ?_, ?_, toJson_keeps, urlEncode_keeps, xmlAttributes_keeps, nofun⟩
  all_goals exact plain_keeps fun ev hev v => by grind

/-! ### Filters on numbers -/

@[grind ←] theorem readFloat_keeps (v : Value) : (readFloat v).Keeps L := by
  unfold readFloat
  grind

@[grind ←] theorem wholeOf_keeps (x : Float) : (wholeOf x).Keeps L := by
  unfold wholeOf
  grind

@[grind ←] theorem readInt_keeps (v base : Value) : (readInt v base).Keeps L := by
  unfold readInt
  grind

@[grind ←] theorem nearest_keeps (v places : Value) : (nearest v places).Keeps L := by
  unfold nearest
  grind

@[grind ←] theorem wholeBeside_keeps (up : Bool) (v : Value) : (wholeBeside up v).Keeps L := by
  unfold wholeBeside
  grind

theorem absolute_keeps : absolute.Keeps L := by
  intro ev hev escapes v args
  dsimp only [absolute]
  grind

theorem toInt_keeps : toInt.Keeps L := by
  refine of_keeps fun ev hev escapes vs => ?_
  grind

theorem asFloat_keeps : asFloat.Keeps L := by
  refine of_keeps fun ev hev escapes vs => ?_
  grind

theorem rounded_keeps : rounded.Keeps L := by
  refine of_keeps fun ev hev escapes vs => ?_
  grind

theorem fileSize_keeps : fileSize.Keeps L := by
  refine of_keeps fun ev hev escapes vs => ?_
  grind

theorem ofNumber_keeps : ∀ e ∈ ofNumber, e.2.Keeps L := by
  simp only [ofNumber, List.forall_mem_cons]
  exact ⟨absolute_keeps, toInt_keeps, asFloat_keeps, rounded_keeps, fileSize_keeps, nofun⟩

/-! ### Filters on text -/

section

variable (hev : ev.Keeps L)

include hev

@[grind ←] theorem textMethod_keeps (v : Value) (name : String) (args : List Value) :
    (textMethod ev v name args).Keeps L := by
  unfold textMethod
  grind

@[grind ←] theorem bind_tooSmall_keeps {what : String} {least : Int} {given : Value} {k : Fault → Eval α}
    (h : ∀ f, f.Within L.inFault → (k f).Keeps L) : (tooSmall what least given ev >>= k).Keeps L := by
  unfold tooSmall
  rw [bind_assoc]
  refine Eval.Keeps.bind (printed_keeps hev given) fun _ => ?_
  rw [pure_bind]
  exact h _ trivial

end

theorem method_keeps (label parameter name : String) : (method label parameter name).Keeps L :=
  plain_keeps fun _ hev v => textMethod_keeps hev v name []

theorem replaced_keeps : replaced.Keeps L := by
  refine of_keeps fun ev hev escapes vs => ?_
  grind

theorem indented_keeps : indented.Keeps L := by
  refine of_keeps fun ev hev escapes vs => ?_
  extract_lets s finish
  have hfinish : ∀ indention, (finish indention).Keeps L := by
    intro indention
    simp -zeta only [finish]
    extract_lets write
    have hwrite : ∀ body, (write body).Keeps L := by grind
    clear_value write
    grind
  clear_value finish
  grind

theorem truncated_keeps : truncated.Keeps L := by
  refine of_keeps fun ev hev escapes vs => ?_
  extract_lets leeway
  refine Eval.Keeps.bind (length_keeps hev _) fun endLength => Eval.Keeps.bind (ordered_keeps _ _ _) fun isLong => ?_
  extract_lets cut check
  have hcut : ∀ u, (cut u).Keeps L := fun _ => by
    refine Eval.Keeps.bind (length_keeps hev _) fun n => Eval.Keeps.bind (add_keeps hev _ _) fun limit => ?_
    clear_value leeway
    grind
  clear_value cut
  have hcheck : ∀ u, (check u).Keeps L := by grind
  clear_value check
  grind

theorem wrapped_keeps : wrapped.Keeps L := by
  refine of_keeps fun ev hev escapes vs => ?_
  extract_lets finish
  have hfinish : ∀ s, (finish s).Keeps L := by
    intro s
    simp -zeta only [finish]
    extract_lets lines write
    have hwrite : ∀ mark, (write mark).Keeps L := by grind
    clear_value write
    grind
  clear_value finish
  grind

theorem formatted_keeps : formatted.Keeps L := by
  intro ev hev escapes v args
  dsimp only [formatted]
  grind

theorem ofText_keeps : ∀ e ∈ ofText, e.2.Keeps L := by
  simp only [ofText, List.forall_mem_cons]
  refine ⟨method_keeps _ _ _, method_keeps _ _ _, method_keeps _ _ _, ?_, ?_, ?_, replaced_keeps, indented_keeps,
    truncated_keeps, ?_, wrapped_keeps, formatted_keeps, ?_, nofun⟩
  all_goals exact of_keeps fun ev hev _ vs => by grind

/-! ### Filters on sequences -/

@[grind ←] theorem backwards?_keeps (v : Value) : (backwards? v).Keeps L := by
  unfold backwards?
  grind

@[grind ←] theorem runsOf_keeps (items : List (Value × Value)) : (runsOf items).Keeps L := by
  induction items with
  | nil => exact .pure []
  | cons e items ih => unfold runsOf; grind

@[grind ←] theorem batches_keeps (size fill : Value) (items : List Value) : (batches size fill items).Keeps L := by
  unfold batches
  grind

@[grind ←] theorem columns_keeps (number : Int) (fill : Value) (items : List Value) :
    (columns number fill items).Keeps L := by
  unfold columns
  grind

@[grind ←] theorem stepOf_keeps (args : Arguments) : (stepOf args).Keeps L := by
  unfold stepOf
  grind

@[grind ←] theorem testOf_keeps (byPart : Bool) (args : Arguments) : (testOf byPart args).Keeps L := by
  unfold testOf
  grind

theorem count_keeps : count.Keeps L := by
  intro ev hev escapes v args
  dsimp only [count]
  grind

theorem default_keeps : default.Keeps L := by
  refine of_keeps fun ev hev escapes vs => ?_
  grind

theorem reversed_keeps : reversed.Keeps L := by
  refine plain_keeps fun ev hev v => ?_
  grind

theorem sum_keeps : sum.Keeps L := by
  refine of_keeps fun ev hev escapes vs => ?_
  grind

theorem join_keeps : join.Keeps L := by
  refine of_keeps fun ev hev escapes vs => ?_
  grind

theorem attributeOf_keeps : attributeOf.Keeps L := by
  refine of_keeps fun ev hev escapes vs => ?_
  grind

theorem extreme_keeps (label : String) (op : OrderOp) : (extreme label op).Keeps L := by
  refine of_keeps fun ev hev escapes vs => ?_
  refine Eval.Keeps.bind (collect_keeps hev _) fun items => Eval.Keeps.bind (truth_keeps hev _) fun caseMatters => ?_
  refine Eval.Keeps.bind (.mapM (fun v => by grind) _) fun keyed => ?_
  grind

theorem sort_keeps : sort.Keeps L := by
  refine of_keeps fun ev hev escapes vs => ?_
  refine Eval.Keeps.bind (collect_keeps hev _) fun items => Eval.Keeps.bind (truth_keeps hev _) fun caseMatters => ?_
  refine Eval.Keeps.bind (.mapM (fun v => by grind) _) fun keyed => ?_
  grind

theorem dictSort_keeps : dictSort.Keeps L := by
  refine of_keeps fun ev hev escapes vs => ?_
  extract_lets sortBy
  have hsortBy : ∀ byValue, (sortBy byValue).Keeps L := by
    intro byValue
    simp -zeta only [sortBy]
    extract_lets write
    have hwrite : ∀ entries, (write entries).Keeps L := by grind
    clear_value write
    grind
  clear_value sortBy
  grind

theorem groupBy_keeps : groupBy.Keeps L := by
  refine of_keeps fun ev hev escapes vs => ?_
  refine Eval.Keeps.bind (truth_keeps hev _) fun caseMatters => Eval.Keeps.bind (collect_keeps hev _) fun items => ?_
  extract_lets key
  have hkey : ∀ v, (key v).Keeps L := fun v => sortKey_keeps hev _ _ _ v
  clear_value key
  have hpair : ∀ v, (key v >>= fun k => pure (k, v)).Keeps L := fun v => (hkey v).bind fun _ => .pure _
  refine (Eval.Keeps.mapM hpair _).bind fun keyed => Eval.Keeps.bind (sorted_keeps _ _) fun items => ?_
  refine (Eval.Keeps.mapM hpair _).bind fun pairs => Eval.Keeps.bind (runsOf_keeps _) fun runs => ?_
  refine Eval.Keeps.bind (.mapM (fun run => ?_) _) fun groups => newList_keeps _
  grind

theorem lazily_keeps (name label : String) (hidden : Nat) (params : List (String × Option Value)) :
    (lazily name label hidden params).Keeps L :=
  of_keeps fun _ _ _ _ => newIter_keeps trivial

theorem lazilyAny_keeps (name : String) : (lazilyAny name).Keeps L :=
  fun _ _ _ _ _ => newIter_keeps trivial

theorem ofSequence_keeps : ∀ e ∈ ofSequence, e.2.Keeps L := by
  simp only [ofSequence, List.forall_mem_cons]
  refine ⟨count_keeps, count_keeps, ?_, ?_, default_keeps, default_keeps, ?_, reversed_keeps, sum_keeps, join_keeps,
    attributeOf_keeps, extreme_keeps _ _, extreme_keeps _ _, sort_keeps, dictSort_keeps, groupBy_keeps,
    lazily_keeps _ _ _ _, lazily_keeps _ _ _ _, lazily_keeps _ _ _ _, lazily_keeps _ _ _ _, lazilyAny_keeps _,
    lazilyAny_keeps _, lazilyAny_keeps _, lazilyAny_keeps _, lazilyAny_keeps _, nofun⟩
  all_goals exact of_keeps fun ev hev _ vs => by grind

/-- The work of a filter that is an iterator begins with an iterator that tests no code. -/
theorem begin_gives (hev : ev.Keeps L) (name : String) (escapes : Bool) (v : Value) (args : Arguments) :
    (begin ev name escapes v args).Gives L none (·.Within L) := by
  unfold begin
  extract_lets lists arguments
  have hlists : ∀ rows, (lists rows).Gives L none (·.Within L) := fun rows =>
    Gives.bind (Eval.Keeps.mapM (fun row => newList_keeps row) rows) fun _ _ => .pure trivial
  clear_value lists
  have hdone : (Pure.pure Iter.done : Eval Iter).Gives L none (·.Within L) := .pure trivial
  split
  · exact Gives.bind (collect_keeps hev v) fun _ _ => Gives.bind (batches_keeps _ _ _) fun _ _ => hlists _
  · exact Gives.bind (collect_keeps hev v) fun _ _ => Gives.bind (wanted_keeps _) fun _ _ =>
      Gives.bind (columns_keeps _ _ _) fun _ _ => hlists _
  · split
    · exact hdone
    · exact Gives.bind (dictEntries_keeps _) fun _ _ => .pure trivial
    · exact .throw trivial
  · exact Gives.bind (truth_keeps hev _) fun _ _ => Gives.bind (iterate_keeps v) fun _ _ => .pure trivial
  · refine Gives.bind (truth_keeps hev v) fun _ _ => ?_
    split
    · exact hdone
    · exact Gives.bind (stepOf_keeps args) fun _ _ => Gives.bind (iterate_keeps v) fun _ _ => .pure trivial
  · refine Gives.bind (truth_keeps hev v) fun _ _ => ?_
    split
    · exact hdone
    · exact Gives.bind (testOf_keeps _ args) fun _ _ => Gives.bind (iterate_keeps v) fun _ _ => .pure trivial

end Filter

theorem filters_keeps : ∀ e ∈ filters, e.2.Keeps L := by
  simp only [filters, List.forall_mem_append]
  exact ⟨⟨⟨Filter.ofText_keeps, Filter.ofNumber_keeps⟩, Filter.ofMarkup_keeps⟩, Filter.ofSequence_keeps⟩

/-! ## Tests -/

namespace Test

/-- A test leaves the lines in a machine as they are to be, if the evaluator that it uses does. -/
def Keeps (L : Lines) (t : Answer) : Prop :=
  ∀ ev : Evaluator, ev.Keeps L → ∀ v args, (t ev v args).Keeps L

theorem question_keeps {name : String} {body : Evaluator → Value → Eval Bool}
    (h : ∀ ev : Evaluator, ev.Keeps L → ∀ v, (body ev v).Keeps L) : Keeps L (question name body) :=
  fun ev hev _ _ => Eval.Keeps.bind (Formatting.lift_keeps (Parameters.fill_within _ _)) fun _ =>
    Eval.Keeps.bind (h ev hev _) fun _ => .pure _

theorem kindOf_keeps (name : String) (body : Value → Bool) : Keeps L (kindOf name body) :=
  question_keeps fun _ _ _ => .pure _

theorem relation_keeps {name parameter : String} {body : Evaluator → Value → Value → Eval Bool}
    (h : ∀ ev : Evaluator, ev.Keeps L → ∀ v w, (body ev v w).Keeps L) : Keeps L (relation name parameter body) :=
  fun ev hev _ _ => Eval.Keeps.bind (Formatting.lift_keeps (Parameters.fill_within _ _)) fun _ =>
    Eval.Keeps.bind (h ev hev _ _) fun _ => .pure _

theorem compared_keeps (name : String) (op : CompareOp) : Keeps L (compared name op) := by
  intro ev hev v args
  unfold compared
  grind

@[grind ←] theorem isMultiple_keeps (hev : ev.Keeps L) (v n : Value) : (isMultiple ev v n).Keeps L := by
  unfold isMultiple
  grind

@[grind ←] theorem isIterable_keeps (v : Value) : (isIterable v).Keeps L := by
  unfold isIterable
  refine .bind_attempt (iterate_keeps v) (fun _ => .pure _) fun f hf => ?_
  grind

@[grind ←] theorem isOne_keeps (a b : Value) : (isOne a b).Keeps L := by
  unfold isOne
  grind

@[grind ←] theorem isEntry_keeps (entries : List (String × α)) (v : Value) : (isEntry entries v).Keeps L := by
  unfold isEntry
  grind

theorem base_keeps : ∀ e ∈ base, Keeps L e.2 := by
  simp only [base, List.forall_mem_cons]
  refine ⟨kindOf_keeps _ _, kindOf_keeps _ _, kindOf_keeps _ _, kindOf_keeps _ _, kindOf_keeps _ _, kindOf_keeps _ _,
    kindOf_keeps _ _, kindOf_keeps _ _, kindOf_keeps _ _, kindOf_keeps _ _, kindOf_keeps _ _, kindOf_keeps _ _,
    kindOf_keeps _ _, kindOf_keeps _ _, question_keeps fun _ _ v => isIterable_keeps v, ?_, ?_,
    relation_keeps fun _ hev v w => isMultiple_keeps hev v w, relation_keeps fun _ _ v w => isOne_keeps v w,
    relation_keeps fun _ hev v w => contains_keeps hev v w, ?_, ?_, question_keeps fun _ _ v => isEntry_keeps _ v, ?_⟩
  iterate 4 exact question_keeps fun ev hev v => by grind
  simp [compared_keeps]

end Test

theorem tests_keeps : ∀ e ∈ tests, Test.Keeps L e.2 :=
  List.forall_mem_cons.2 ⟨Test.question_keeps fun _ _ _ => Test.isEntry_keeps _ _, Test.base_keeps⟩

end TemplateTree.Template
