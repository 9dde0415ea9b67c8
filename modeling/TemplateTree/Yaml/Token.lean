/-!
# Tokens of YAML

What a YAML text consists of, and why it cannot be read. Blocks are marked by tokens of their own where
the indentation begins and ends. The last token ends the stream, or says why it cannot be read further.
-/

namespace TemplateTree.Yaml

/-- Why a text has no value. A text may not follow the rules, or a part that does may stand for a value
    that does not exist, or lead back to itself before a value is found. -/
inductive Fault
  | malformed
  | badValue (text : String)
  | badIndex (text : String)
  | badKey (text : String)
  | noMatch (text : String)
  | badType (text : String)
  | endless
  deriving DecidableEq, Repr, Inhabited

/-- What a directive says: the version of the language, what a handle of tags stands for, or something
    that is ignored. -/
inductive Directive
  | version (major : Nat)
  | handle (name tagStart : List Char)
  | other
  deriving DecidableEq, Repr, Inhabited

/-- A token. A scalar is plain if it stands without quotes and marks. -/
inductive Token
  | directive (d : Directive)
  | documentStart
  | documentEnd
  | flowSequenceStart
  | flowSequenceEnd
  | flowMappingStart
  | flowMappingEnd
  | flowEntry
  | blockSequenceStart
  | blockMappingStart
  | blockEnd
  | blockEntry
  | key
  | value
  | reference (name : List Char)
  | anchor (name : List Char)
  | tag (handle : Option (List Char)) (suffix : List Char)
  | scalar (text : List Char) (isPlain : Bool)
  | streamEnd
  | broken (fault : Fault)
  deriving DecidableEq, Repr, Inhabited

end TemplateTree.Yaml
