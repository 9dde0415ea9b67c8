import TemplateTree.Template.Formatting

/-!
# Operations of expressions

What the operators of the template language do with values. Operands have been evaluated; what is not
evaluated because an earlier operand decides is left to the evaluator.

* `binary`, `comparison`, `concatenation`: operators by their sign.
-/

namespace TemplateTree.Template

/-- The remainder of a division, or a text with values put in. -/
def remainder (ev : Evaluator) (a b : Value) : Eval Value := do
  match a with
  | .text s => return .text (← Formatting.percent ev false s b)
  | .markup s => return .markup (← Formatting.percent ev true s b)
  | a => modulo a b

/-- An operator between two values. -/
def binary (ev : Evaluator) (op : BinaryOp) (a b : Value) : Eval Value :=
  match op with
  | .add => add ev a b
  | .sub => subtract a b
  | .mul => multiply a b
  | .div => divide a b
  | .floordiv => floorDivide a b
  | .mod => remainder ev a b
  | .pow => raise a b

/-- Whether a comparison holds. -/
def comparison (ev : Evaluator) (op : CompareOp) (a b : Value) : Eval Bool := do
  match op with
  | .eq => same a b
  | .ne => return !(← same a b)
  | .lt => ordered .lt a b
  | .lteq => ordered .le a b
  | .gt => ordered .gt a b
  | .gteq => ordered .ge a b
  | .isIn => contains ev a b
  | .notIn => return !(← contains ev a b)

/-- Values as one text; where output is escaped, what follows and precedes markup is escaped, too. -/
def concatenation (ev : Evaluator) (escapes : Bool) (vs : List Value) : Eval Value := do
  let vs ← vs.mapM (asText ev)
  if escapes && vs.any isMarkup then
    return .markup (String.join (← vs.mapM (escaped ev)))
  return .text (String.join (← vs.mapM (printed ev)))

end TemplateTree.Template
