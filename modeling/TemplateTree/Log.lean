/-!
# Log records

What an operation reports while it runs: messages with a level, in order, and warnings.
-/

namespace TemplateTree

/-- The weight of a message. -/
inductive Level
  | debug
  | info
  | warning
  | error
  deriving DecidableEq, Repr

/-- The name of a level. -/
def Level.name : Level → String
  | .debug => "DEBUG"
  | .info => "INFO"
  | .warning => "WARNING"
  | .error => "ERROR"

/-- The order of levels: whether a message of level `l` is shown from level `least` on. -/
def Level.reaches (least l : Level) : Bool :=
  let rank : Level → Nat
    | .debug => 0
    | .info => 1
    | .warning => 2
    | .error => 3
  rank least ≤ rank l

/-- A message. -/
structure LogRecord where
  level : Level
  message : String
  deriving DecidableEq, Repr

namespace LogRecord

/-- A message for those who look for causes. -/
def debug (message : String) : LogRecord := ⟨.debug, message⟩

/-- A message about the course of a run. -/
def info (message : String) : LogRecord := ⟨.info, message⟩

/-- A message about a failure. -/
def error (message : String) : LogRecord := ⟨.error, message⟩

end LogRecord

end TemplateTree
