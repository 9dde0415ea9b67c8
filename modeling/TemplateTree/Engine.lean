import TemplateTree.Options
import TemplateTree.Output
import TemplateTree.Text.Search

/-!
# Template engines

What a run needs from a template engine. An engine is a state machine: it is configured once, and then
evaluates one template after the other, reading files but writing only what it returns. Values are of
the engine's own type.

* `Engine`: the interface.
* `recorder`: an engine that writes down what it is asked and answers in a fixed way.
-/

namespace TemplateTree

/-- One template to evaluate: the values, the source text or why it cannot be decoded, and the name
    under which failures are reported. -/
structure Request (α : Type) where
  context : Entries α
  source : Except Text.Utf8Fault String
  name : String

/-- A template engine with values of type `α` and states of type `σ` (`TemplateEngine`). -/
structure Engine (α σ : Type) where
  ofText : String → α
  configure : EngineConfig → σ → σ × List LogRecord
  evaluate : FileSystem → Request α → σ → Output.Written σ

/-! ## An engine that records -/

/-- A call of an engine. -/
inductive Call
  | configure (config : EngineConfig)
  | evaluate (name : String) (context : Entries Datum)

/-- The text that is found under a key, for values that are texts. -/
def textUnder (context : Entries Datum) (key : String) : String :=
  match context.get? (.text key) with
  | some (.scalar (.text s)) => s
  | _ => ""

/-- How the recorder fails on a text, if a word in it asks for that. -/
def recorderFailure (name text : String) : Option Failure :=
  let has := fun word : String => Text.occursIn word.toList text.toList
  if has "FAIL" then some (.template name "double failed" (some 7))
  else if has "OSERROR" then some (.system (.failed .denied "denied" (some name) none))
  else if has "CRASH" then some (.crash "RuntimeError" "double crashed")
  else none

/-- An engine that writes the package, the class and the source, and keeps a list of its calls, the
    last one first. Words in the source make it fail. -/
def recorder : Engine Datum (List Call) where
  ofText := Datum.text
  configure config calls := (.configure config :: calls, [])
  evaluate _ request calls :=
    let calls := .evaluate request.name request.context :: calls
    match request.source with
    | .error fault => ⟨calls, "", some (.undecodable fault)⟩
    | .ok text =>
      let written := textUnder request.context "package" ++ "|"
        ++ textUnder request.context "class" ++ "|" ++ text
      ⟨calls, written, recorderFailure request.name text⟩

end TemplateTree
