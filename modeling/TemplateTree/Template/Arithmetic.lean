import TemplateTree.Decimal.Division
import TemplateTree.Template.Comparison
import TemplateTree.Template.Printed

/-!
# Arithmetic

The operators on values: numbers, exact on integers; joining and repeating texts and lists; paths below
paths. When text is joined with markup, it is escaped first. The operator `%` on a text is formatting
and is defined elsewhere.

* `add`, `subtract`, `multiply`, `divide`, `floorDivide`, `modulo`, `raise`: two operands.
* `negate`, `plus`: one operand.
-/

namespace TemplateTree.Template

/-- The fault of an operator on values that do not have it. -/
def noOperation (op : String) (a b : Value) : Fault :=
  .type ("unsupported operand type(s) for " ++ op ++ ": '" ++ a.typeName ++ "' and '" ++ b.typeName
    ++ "'")

/-- Fails if one of two values is undefined. -/
def defined (a b : Value) : Eval Unit :=
  match a, b with
  | .undefined message _, _ | _, .undefined message _ => throw (.undefined message)
  | _, _ => return ()

/-- A number as a float, if it is not too large for one. -/
def toFloat : Int ⊕ Float → Eval Float
  | .inl n =>
    match Decimal.ofInt? n with
    | some x => return x
    | none => throw (.raised .overflow "int too large to convert to float")
  | .inr x => return x

/-- Two numbers under an operator on integers and one on floats. -/
def numeric (a b : Int ⊕ Float) (onInts : Int → Int → Eval Value)
    (onFloats : Float → Float → Eval Value) : Eval Value := do
  match a, b with
  | .inl m, .inl n => onInts m n
  | a, b =>
    let x ← toFloat a
    onFloats x (← toFloat b)

/-- Joins two values. -/
def add (ev : Evaluator) (a b : Value) : Eval Value := do
  defined a b
  match a, b with
  | .text s, .text t => return .text (s ++ t)
  | .markup s, .markup t => return .markup (s ++ t)
  | .markup s, .text t => return .markup (s ++ Text.escapeHtml t)
  | .text s, .markup t => return .markup (Text.escapeHtml s ++ t)
  | .markup s, .object .moduleOf id => return .markup (s ++ (← printed ev (.object .moduleOf id)))
  | .text _, _ => throw (.type ("can only concatenate str (not \"" ++ b.typeName ++ "\") to str"))
  | .bytes s, .bytes t => return .bytes (s ++ t)
  | .bytes _, _ => throw (.type ("can't concat " ++ b.typeName ++ " to bytes"))
  | .list x, .list y => newList ((← listItems x).toList ++ (← listItems y).toList)
  | .list _, _ => throw (.type ("can only concatenate list (not \"" ++ b.typeName ++ "\") to list"))
  | a, b =>
    match a.tuple?, b.tuple? with
    | some xs, some ys => return .tuple (xs ++ ys)
    | some _, none =>
      throw (.type ("can only concatenate tuple (not \"" ++ b.typeName ++ "\") to tuple"))
    | _, _ =>
      match a.number?, b.number? with
      | some m, some n =>
        numeric m n (fun m n => return .int (m + n)) (fun x y => return .float (x + y))
      | _, _ => throw (noOperation "+" a b)

/-- Takes a number or set from another. -/
def subtract (a b : Value) : Eval Value := do
  defined a b
  match a, b with
  | .set s, .set t => return .set (← s.filterM fun x => return !(← anyOf (sameItem x) t))
  | a, b =>
    match a.number?, b.number? with
    | some m, some n =>
      numeric m n (fun m n => return .int (m - n)) (fun x y => return .float (x - y))
    | _, _ => throw (noOperation "-" a b)

/-- A sequence that can be repeated: a text, a list or a tuple. -/
def isRepeatable : Value → Bool
  | .text _ | .markup _ | .list _ | .tuple _ | .group .. | .bytes _ => true
  | _ => false

/-- Repeats a text, list or tuple. -/
def repeated (v : Value) (count : Int) : Eval Value := do
  let n := count.toNat
  match v with
  | .text s => return .text (String.join (List.replicate n s))
  | .markup s => return .markup (String.join (List.replicate n s))
  | .bytes b => return .bytes (List.replicate n b).flatten
  | .list id =>
    let items := (← listItems id).toList
    newList (List.replicate n items).flatten
  | v => return .tuple (List.replicate n (v.tuple?.getD [])).flatten

/-- Multiplies numbers, or repeats a sequence. -/
def multiply (a b : Value) : Eval Value := do
  defined a b
  match a.number?, b.number? with
  | some m, some n =>
    numeric m n (fun m n => return .int (m * n)) (fun x y => return .float (x * y))
  | _, _ =>
    let (sequence, count) := if isRepeatable a then (a, b) else (b, a)
    if !isRepeatable sequence then throw (noOperation "*" a b)
    match count.integer? with
    | some n => repeated sequence n
    | none =>
      throw (.type ("can't multiply sequence by non-int of type '" ++ count.typeName ++ "'"))

/-- Fails because of a division by zero. -/
def byZero {α : Type} (message : String) : Eval α :=
  throw (.raised .zeroDivision message)

/-- A path below another. -/
def pathBelow? : Value → Value → Option Path
  | .path p, .path q => some (p.join q)
  | .path p, .text s | .path p, .markup s => some (p.join (Path.parse s))
  | .text s, .path q | .markup s, .path q => some ((Path.parse s).join q)
  | _, _ => none

/-- Divides numbers, or goes from a path to one below it. -/
def divide (a b : Value) : Eval Value := do
  defined a b
  match pathBelow? a b, a.number?, b.number? with
  | some p, _, _ => return .path p
  | _, some m, some n =>
    numeric m n
      (fun m n => do
        if n == 0 then byZero "division by zero"
        match Decimal.ofRatio? ((m < 0) != (n < 0) && m != 0) m.natAbs n.natAbs with
        | some x => return .float x
        | none => throw (.raised .overflow "integer division result too large for a float"))
      (fun x y => if y == 0 then byZero "float division by zero" else return .float (x / y))
  | _, _, _ => throw (noOperation "/" a b)

/-- Divides numbers and rounds down. -/
def floorDivide (a b : Value) : Eval Value := do
  defined a b
  match a.number?, b.number? with
  | some m, some n =>
    numeric m n
      (fun m n => if n == 0 then byZero "integer division or modulo by zero"
        else return .int (m.fdiv n))
      (fun x y => if y == 0 then byZero "float floor division by zero"
        else return .float (Decimal.flooredQuotient x y))
  | _, _ => throw (noOperation "//" a b)

/-- The remainder of dividing numbers, with the sign of the divisor. -/
def modulo (a b : Value) : Eval Value := do
  defined a b
  match a.number?, b.number? with
  | some m, some n =>
    numeric m n
      (fun m n => if n == 0 then byZero "integer modulo by zero" else return .int (m.fmod n))
      (fun x y => if y == 0 then byZero "float modulo"
        else return .float (Decimal.flooredRemainder x y))
  | _, _ => throw (noOperation "%" a b)

/-- A power of floats. -/
def floatPower (x y : Float) : Eval Value := do
  if x == 0 && y < 0 then byZero "0.0 cannot be raised to a negative power"
  let r := Float.pow x y
  if !Decimal.isFinite r && Decimal.isFinite x && Decimal.isFinite y then
    throw (.raised .overflow "(34, 'Numerical result out of range')")
  return .float r

/-- Raises a number to a power. -/
def raise (a b : Value) : Eval Value := do
  defined a b
  match a.number?, b.number? with
  | some m, some n =>
    numeric m n
      (fun m n => do
        if 0 ≤ n then return .int (Int.pow m n.toNat)
        let x ← toFloat (.inl m)
        floatPower x (← toFloat (.inl n)))
      floatPower
  | _, _ => throw (noOperation "** or pow()" a b)

/-- The number under a sign. -/
def signed (sign : String) (v : Value) (onInt : Int → Int) (onFloat : Float → Float) :
    Eval Value := do
  match v, v.number? with
  | .undefined message _, _ => throw (.undefined message)
  | _, some (.inl n) => return .int (onInt n)
  | _, some (.inr x) => return .float (onFloat x)
  | _, none => throw (.type ("bad operand type for unary " ++ sign ++ ": '" ++ v.typeName ++ "'"))

/-- The opposite of a number. -/
def negate (v : Value) : Eval Value :=
  signed "-" v (- ·) (- ·)

/-- A number under a plus sign. -/
def plus (v : Value) : Eval Value :=
  signed "+" v id id

end TemplateTree.Template
