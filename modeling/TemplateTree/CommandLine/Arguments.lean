import TemplateTree.CommandLine.Mistake
import TemplateTree.Text.Similar

/-!
# Arguments

A list of arguments is read from left to right. An argument that starts with a dash holds switches: one
long name, with its value behind an equals sign if it has one there, or letters, of which the first that
takes a value has the rest of the argument as its value. Otherwise the value is the next argument,
whatever it looks like. All other arguments are operands; two dashes say that only operands follow.

* `Arguments.read`: the switches that were given, with their values, and the operands.
-/

namespace TemplateTree.CommandLine

/-- The switches in an argument list, in order, with their values, and the operands. A switch that takes
    no value has the empty one. -/
structure Arguments where
  switches : List (Switch × String)
  operands : List String
  deriving DecidableEq, Repr

/-- What one argument says: switches that are complete, and perhaps one, with the name under which it
    was given, that waits for its value. -/
structure Reading where
  complete : List (Switch × String)
  waiting : Option (Switch × String)

namespace Arguments

/-- More switches in front. -/
def withSwitches (given : List (Switch × String)) (a : Arguments) : Arguments :=
  { a with switches := given ++ a.switches }

/-- One more operand in front. -/
def withOperand (operand : String) (a : Arguments) : Arguments :=
  { a with operands := operand :: a.operands }

/-- Whether an argument holds switches. -/
def holdsSwitches (arg : String) : Bool :=
  match arg.toList with
  | '-' :: _ :: _ => true
  | _ => false

/-- The part of an argument up to an equals sign, and what stands behind it. -/
def cutAtEquals (arg : List Char) : String × Option String :=
  match arg.dropWhile (· != '=') with
  | _ :: value => (String.ofList (arg.takeWhile (· != '=')), some (String.ofList value))
  | [] => (String.ofList arg, none)

/-- Reads a switch under its long name. -/
def readLong (s : Switch) (value : Option String) : Except Mistake Reading :=
  match value, s.takesValue with
  | some value, true => .ok ⟨[(s, value)], none⟩
  | none, true => .ok ⟨[], some (s, s.long)⟩
  | some _, false => .error (.valueUnwanted s.long)
  | none, false => .ok ⟨[(s, "")], none⟩

/-- Reads the letters behind a dash. -/
def readLetters (known : List Switch) : List Char → Except Mistake Reading
  | [] => .ok ⟨[], none⟩
  | c :: rest =>
    let name := String.ofList ['-', c]
    match known.find? fun s => s.letter? == some c with
    | none => .error (.unknownSwitch name [])
    | some s =>
      if !s.takesValue then do
        let more ← readLetters known rest
        return { more with complete := (s, "") :: more.complete }
      else if rest.isEmpty then .ok ⟨[], some (s, name)⟩
      else .ok ⟨[(s, String.ofList rest)], none⟩

/-- Reads an argument that holds switches. -/
def readSwitches (known : List Switch) (arg : String) : Except Mistake Reading :=
  let (name, value) := cutAtEquals arg.toList
  match known.find? fun s => s.long == name with
  | some s => readLong s value
  | none =>
    match arg.toList with
    | '-' :: '-' :: _ => .error (.unknownSwitch name (Text.similar name (known.map Switch.long)))
    | letters => readLetters known letters.tail

/-- Reads arguments. Unless switches and operands are `mixed`, the first operand ends the switches. -/
def read (known : List Switch) (mixed : Bool) : List String → Except Mistake Arguments
  | [] => .ok ⟨[], []⟩
  | arg :: rest =>
    if arg == "--" then .ok ⟨[], rest⟩
    else if holdsSwitches arg then
      match readSwitches known arg with
      | .error m => .error m
      | .ok ⟨complete, none⟩ => (read known mixed rest).map (withSwitches complete)
      | .ok ⟨complete, some (s, name)⟩ =>
        match rest with
        | [] => .error (.valueMissing name)
        | value :: rest =>
          (read known mixed rest).map (withSwitches (complete ++ [(s, value)]))
    else if mixed then (read known mixed rest).map (withOperand arg)
    else .ok ⟨[], arg :: rest⟩

/-- Whether a switch was given. -/
def has (a : Arguments) (s : Switch) : Bool :=
  a.switches.any fun given => given.1 == s

/-- All values of a switch, in order. -/
def all (a : Arguments) (s : Switch) : List String :=
  a.switches.filterMap fun given => if given.1 == s then some given.2 else none

/-- The last value of a switch. -/
def last? (a : Arguments) (s : Switch) : Option String :=
  (a.all s).getLast?

end Arguments

end TemplateTree.CommandLine
