import TemplateTree.Datum

/-!
# Checking named fields

A record is built from named fields that the user gave. Each field is checked on its own, and all
violations are reported together, in the order in which the record declares its fields. Fields that
the record does not know are ignored.

* `Fields.required`, `Fields.optional`: one field, read by a given reader.
* `both`: two checks, with the violations of either.
-/

namespace TemplateTree

/-- A step from a record to the part that is at fault. -/
inductive Place
  | field (name : String)
  | index (i : Int)
  deriving DecidableEq, Repr

/-- What is wrong with a field. -/
inductive Defect
  | missing
  | notText
  | notTuple
  | notPath
  | notBool
  | unreadableBool
  | notChoice (choices : String)
  | refused (reason : String)
  deriving DecidableEq, Repr

/-- A defect and where it is. -/
structure Violation where
  place : List Place
  defect : Defect
  deriving DecidableEq, Repr

namespace Defect

/-- The short name of the kind of defect. -/
def label : Defect → String
  | .missing => "missing"
  | .notText => "string_type"
  | .notTuple => "tuple_type"
  | .notPath => "path_type"
  | .notBool => "bool_type"
  | .unreadableBool => "bool_parsing"
  | .notChoice _ => "enum"
  | .refused _ => "value_error"

/-- The defect in words. -/
def message : Defect → String
  | .missing => "Field required"
  | .notText => "Input should be a valid string"
  | .notTuple => "Input should be a valid tuple"
  | .notPath => "Input is not a valid path for <class 'pathlib.Path'>"
  | .notBool => "Input should be a valid boolean"
  | .unreadableBool => "Input should be a valid boolean, unable to interpret input"
  | .notChoice choices => "Input should be " ++ choices
  | .refused reason => "Value error, " ++ reason

end Defect

/-- A checked value, or everything that is wrong. -/
abbrev Checked (α : Type) := Except (List Violation) α

namespace Checked

/-- Two checks; the violations of the first come first. -/
def both {α β : Type} (a : Checked α) (b : Checked β) : Checked (α × β) :=
  match a, b with
  | .ok x, .ok y => .ok (x, y)
  | .ok _, .error es => .error es
  | .error es, .ok _ => .error es
  | .error es, .error fs => .error (es ++ fs)

/-- A check of every item of a list. -/
def all {α β : Type} (f : Nat → α → Checked β) : Nat → List α → Checked (List β)
  | _, [] => .ok []
  | i, x :: xs => (both (f i x) (all f (i + 1) xs)).map fun (y, ys) => y :: ys

end Checked

/-- Named fields with the values that the user gave. -/
abbrev Fields := List (String × Datum)

namespace Fields

/-- The value of a field. -/
def get? (fields : Fields) (name : String) : Option Datum :=
  (fields.find? fun f => f.1 == name).map (·.2)

/-- The violation of a single field. -/
def violation (name : String) (defect : Defect) : List Violation :=
  [⟨[.field name], defect⟩]

/-- A field that must be given. -/
def required {α : Type} (fields : Fields) (name : String) (read : Datum → Except Defect α) :
    Checked α :=
  match fields.get? name with
  | none => .error (violation name .missing)
  | some d => (read d).mapError (violation name)

/-- A field with a default. -/
def optional {α : Type} (fields : Fields) (name : String) (default : α)
    (read : Datum → Except Defect α) : Checked α :=
  match fields.get? name with
  | none => .ok default
  | some d => (read d).mapError (violation name)

end Fields

/-! ## Readers of single values -/

namespace Read

/-- A text. -/
def text : Datum → Except Defect String
  | .scalar (.text s) => .ok s
  | _ => .error .notText

/-- A text or the absent value. -/
def text? : Datum → Except Defect (Option String)
  | .scalar .none => .ok none
  | d => (text d).map some

/-- A path, given as text. -/
def path : Datum → Except Defect Path
  | .scalar (.text s) => .ok (Path.parse s)
  | _ => .error .notPath

/-- The words for true and false. -/
def boolWord? (s : String) : Option Bool :=
  let word := String.ofList (s.toList.map Char.toLower)
  if ["1", "on", "t", "true", "y", "yes"].contains word then some true
  else if ["0", "off", "f", "false", "n", "no"].contains word then some false
  else none

/-- Whether an integer fits a signed word of 64 bits. -/
def fitsWord (n : Int) : Bool :=
  -(Int.pow 2 63) ≤ n && n < Int.pow 2 63

/-- The truth value that an integer stands for. -/
def boolOfInt (n : Int) : Except Defect Bool :=
  if n == 0 then .ok false else if n == 1 then .ok true else .error .unreadableBool

/-- A truth value: itself, one of its words, or the numbers zero and one. -/
def bool : Datum → Except Defect Bool
  | .scalar (.bool b) => .ok b
  | .scalar (.text s) =>
    match boolWord? s with
    | some b => .ok b
    | none => .error .unreadableBool
  | .scalar (.int n) => if fitsWord n then boolOfInt n else .error .notBool
  | .scalar (.float x) =>
    match Decimal.truncate? x with
    | some n => if Decimal.isIntegral x && fitsWord n then boolOfInt n else .error .notBool
    | none => .error .notBool
  | _ => .error .notBool

end Read

end TemplateTree
