import TemplateTree.Datum
import TemplateTree.Template.Code
import TemplateTree.Template.Fault

/-!
# Values of templates

The values that expressions have. Values that can change, or that are told apart by identity, live in
cells; a value refers to its cell by number.
-/

namespace TemplateTree.Template

/-- The number of a cell. -/
abbrev CellId := Nat

/-- The number of the cell of a loaded template. -/
abbrev TemplateId := CellId

/-- The functions that every template knows. -/
inductive Builtin
  | range
  | dict
  | namespaceOf
  | cycler
  | joiner
  deriving DecidableEq, Repr, Inhabited

/-- The views of a map. -/
inductive DictPart
  | keys
  | values
  | items
  deriving DecidableEq, Repr, Inhabited

/-- The kinds of objects that have no literal. -/
inductive ObjectKind
  | namespaceOf
  | cycler
  | joiner
  | procedure
  | moduleOf
  | loop
  | iterator
  | block
  | blocks
  deriving DecidableEq, Repr, Inhabited

/-- The values of expressions. An undefined value knows what to say when it is used, and whether almost
    every use is a fault. A group is a pair of a key and a list whose parts have names. -/
inductive Value
  | none
  | bool (b : Bool)
  | int (n : Int)
  | float (x : Float)
  | text (s : String)
  | markup (s : String)
  | bytes (b : List UInt8)
  | date (d : Date)
  | dateTime (t : DateTime)
  | undefined (message : String) (isStrict : Bool)
  | tuple (items : List Value)
  | group (key members : Value)
  | set (members : List Value)
  | range (start stop step : Int)
  | slice (start stop step : Value)
  | project (p : Project)
  | path (p : Path)
  | list (id : CellId)
  | dict (id : CellId)
  | view (part : DictPart) (id : CellId)
  | object (kind : ObjectKind) (id : CellId)
  | builtin (f : Builtin)
  | method (receiver : Value) (name : String)
  deriving Inhabited

/-- The arguments of a call. -/
structure Arguments where
  positional : List Value
  named : List (String × Value)
  deriving Inhabited

namespace Value

/-- A truth value, an integer or a float as a number. -/
def number? : Value → Option (Int ⊕ Float)
  | .bool b => some (.inl (if b then 1 else 0))
  | .int n => some (.inl n)
  | .float x => some (.inr x)
  | _ => Option.none

/-- A truth value or an integer as an integer. -/
def integer? : Value → Option Int
  | .bool b => some (if b then 1 else 0)
  | .int n => some n
  | _ => Option.none

/-- The text of a text, escaped or not. -/
def text? : Value → Option String
  | .text s | .markup s => some s
  | _ => Option.none

/-- The parts of a tuple or group. -/
def tuple? : Value → Option (List Value)
  | .tuple items => some items
  | .group key members => some [key, members]
  | _ => Option.none

/-- Whether a value is undefined. -/
def isUndefined : Value → Bool
  | .undefined .. => true
  | _ => false

/-- Whether a value is the absent value. -/
def isNone : Value → Bool
  | .none => true
  | _ => false

/-! ## Names of types -/

/-- The type of a value in messages. -/
def typeName : Value → String
  | .none => "NoneType"
  | .bool _ => "bool"
  | .int _ => "int"
  | .float _ => "float"
  | .text _ => "str"
  | .markup _ => "Markup"
  | .bytes _ => "bytes"
  | .date _ => "datetime.date"
  | .dateTime _ => "datetime.datetime"
  | .undefined _ isStrict => if isStrict then "StrictUndefined" else "Undefined"
  | .tuple _ => "tuple"
  | .group .. => "_GroupTuple"
  | .set _ => "set"
  | .range .. => "range"
  | .slice .. => "slice"
  | .project _ => "ProjectInfo"
  | .path _ => "PosixPath"
  | .list _ => "list"
  | .dict _ => "dict"
  | .view .keys _ => "dict_keys"
  | .view .values _ => "dict_values"
  | .view .items _ => "dict_items"
  | .object .namespaceOf _ => "Namespace"
  | .object .cycler _ => "Cycler"
  | .object .joiner _ => "Joiner"
  | .object .procedure _ => "Macro"
  | .object .moduleOf _ => "TemplateModule"
  | .object .loop _ => "LoopContext"
  | .object .iterator _ => "generator"
  | .object .block _ => "BlockReference"
  | .object .blocks _ => "TemplateReference"
  | .builtin _ => "type"
  | .method .. => "builtin_function_or_method"

end Value

end TemplateTree.Template
