import TemplateTree.Template.Filter.Basic

/-!
# Filters on numbers

Filters that read, round and print numbers.
-/

namespace TemplateTree.Template.Filter

/-- A float from a number or from a text that is one. -/
def readFloat (v : Value) : Eval Float := do
  match v, v.number?, v.text? with
  | .undefined message _, _, _ => throw (.undefined message)
  | _, some n, _ => toFloat n
  | _, none, some s =>
    match Decimal.readFloat? s.toList with
    | some x => return x
    | none => throw (.value ("could not convert string to float: " ++ Text.quoted s))
  | v, none, none =>
    throw (.type ("float() argument must be a string or a real number, not '" ++ v.typeName ++ "'"))

/-- The whole part of a float. -/
def wholeOf (x : Float) : Eval Int :=
  match Decimal.truncate? x with
  | some n => return n
  | none =>
    if x.isNaN then throw (.value "cannot convert float NaN to integer")
    else throw (.raised .overflow "cannot convert float infinity to integer")

/-- An integer from a number or from a text that is one in a base. -/
def readInt (v base : Value) : Eval Int := do
  match v, v.number?, v.text? with
  | .undefined message _, _, _ => throw (.undefined message)
  | _, some (.inl n), _ => return n
  | _, some (.inr x), _ => wholeOf x
  | _, none, some s =>
    let b ← wanted base
    if b != 0 && (b < 2 || 36 < b) then
      throw (.value "int() base must be >= 2 and <= 36, or 0")
    match Decimal.readInteger b.toNat s.toList with
    | .ok n => return n
    | .error _ => throw (.value "invalid literal for int()")
  | v, none, none => throw (.type ("int() argument must be a number, not '" ++ v.typeName ++ "'"))

/-- The absolute value. -/
def absolute : Filter :=
  ⟨true, fun _ _ v args => do
    let n := 1 + args.positional.length
    if !args.named.isEmpty then throw (.type "abs() takes no keyword arguments")
    if n != 1 then
      throw (.type ("abs() takes exactly one argument (" ++ toString n ++ " given)"))
    match v.number? with
    | some (.inl n) => return .int n.natAbs
    | some (.inr x) => return .float x.abs
    | none => throw (.type ("bad operand type for abs(): '" ++ v.typeName ++ "'"))⟩

/-- An integer, or a default for what is none. -/
def toInt : Filter :=
  of "do_int" 0 [needed "value", given "default" (.int 0), given "base" (.int 10)] fun _ _ vs => do
    let v := arg vs 0
    match ← attempt (readInt v (arg vs 2)) with
    | .ok n => return .int n
    | .error f =>
      if !f.isOf [.typeError, .valueError] then throw f
      match ← attempt (do wholeOf (← readFloat v)) with
      | .ok n => return .int n
      | .error f => if f.isOf [.typeError, .valueError, .overflow] then return arg vs 1 else throw f

/-- A float, or a default for what is none. -/
def asFloat : Filter :=
  of "do_float" 0 [needed "value", given "default" (.float 0)] fun _ _ vs => do
    match ← attempt (readFloat (arg vs 0)) with
    | .ok x => return .float x
    | .error f => if f.isOf [.typeError, .valueError] then return arg vs 1 else throw f

/-- A number rounded to decimal places, or to an integer if there is no number of places. -/
def nearest (v places : Value) : Eval Value := do
  match v.number?, places with
  | some (.inl n), .none => return .int n
  | some (.inl n), p =>
    let p ← wanted p
    return .int (if 0 ≤ p then n else Decimal.roundInt n (-p).toNat)
  | some (.inr x), .none =>
    match Decimal.nearestInt? x with
    | some n => return .int n
    | none => return .int (← wholeOf x)
  | some (.inr x), p =>
    match Decimal.roundFloat? x (← wanted p) with
    | some y => return .float y
    | none => throw (.raised .overflow "rounded value too large to represent")
  | none, _ => throw (.type ("type " ++ v.typeName ++ " doesn't define __round__ method"))

/-- The integer above or below a number. -/
def wholeBeside (up : Bool) (v : Value) : Eval Value := do
  match v.number? with
  | some (.inl n) => return .int n
  | some (.inr x) => return .int (← wholeOf (if up then x.ceil else x.floor))
  | none => throw (.type ("must be real number, not " ++ v.typeName))

/-- A number rounded: to the nearest, up or down. -/
def rounded : Filter :=
  of "do_round" 0 [needed "value", given "precision" (.int 0), given "method" (.text "common")]
    fun _ _ vs => do
      match (arg vs 2).text? with
      | some "common" => nearest (arg vs 0) (arg vs 1)
      | some "ceil" | some "floor" =>
        let scale ← raise (.int 10) (arg vs 1)
        let n ← wholeBeside ((arg vs 2).text? == some "ceil") (← multiply (arg vs 0) scale)
        divide n scale
      | _ =>
        checkKey comparedLimit (arg vs 2)
        throw (.raised .filterArgument "method must be common, ceil or floor")

/-- A number of bytes in the largest unit that it reaches. -/
def fileSize : Filter :=
  of "do_filesizeformat" 0 [needed "value", given "binary" (.bool false)] fun ev _ vs => do
    let bytes ← readFloat (arg vs 0)
    let isBinary ← truth ev (arg vs 1)
    let base : Nat := if isBinary then 1024 else 1000
    let one := fun (unit : Nat) (name : String) => do
      let x := Decimal.ofRatio false base 1 * bytes / Decimal.ofRatio false unit 1
      let s ← Formatting.lift (Layout.float ⟨' ', none, none, false, 0, none, some 1, some 'f'⟩ x)
      return Value.text (s ++ " " ++ name ++ (if isBinary then "iB" else "B"))
    let letters := [if isBinary then "K" else "k", "M", "G", "T", "P", "E", "Z", "Y"]
    if bytes == 1 then return .text "1 Byte"
    if bytes < Decimal.ofRatio false base 1 then
      return .text (toString (← wholeOf bytes) ++ " Bytes")
    let units := letters.zipIdx.map fun (name, i) => (Nat.pow base (i + 2), name)
    match units.find? fun (unit, _) => bytes < Decimal.ofRatio false unit 1 with
    | some (unit, name) => one unit name
    | none => one (Nat.pow base 9) "Y"

/-- The filters on numbers by name. -/
def ofNumber : List (String × Filter) :=
  [("abs", absolute),
    ("int", toInt),
    ("float", asFloat),
    ("round", rounded),
    ("filesizeformat", fileSize)]

end TemplateTree.Template.Filter
