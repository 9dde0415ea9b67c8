import TemplateTree.Text.Newline
import TemplateTree.Text.Quoted

/-!
# Decoding UTF-8

A byte string either is the UTF-8 encoding of a text or has a first fault. The fault names the bytes
that cannot be decoded: the lead byte with those continuation bytes after it that were still good.

* `decode`: the text, or the first fault.
* `decodeFile`: the same with line breaks normalised, as text files are read.
-/

namespace TemplateTree.Text

/-- Why bytes cannot be decoded. -/
inductive Utf8Reason
  | startByte
  | continuationByte
  | endOfData
  deriving DecidableEq, Repr

/-- The first bytes of a byte string that are not UTF-8: `count` of them from `position` on, of which
    the first is `byte`. -/
structure Utf8Fault where
  position : Nat
  count : Nat
  byte : UInt8
  reason : Utf8Reason
  deriving DecidableEq, Repr

namespace Utf8Fault

/-- The reason in words. -/
def reasonText : Utf8Reason → String
  | .startByte => "invalid start byte"
  | .continuationByte => "invalid continuation byte"
  | .endOfData => "unexpected end of data"

/-- The fault in words. -/
def message (f : Utf8Fault) : String :=
  let what :=
    if f.count == 1 then
      "byte 0x" ++ String.ofList (hexDigits 2 f.byte.toNat) ++ " in position "
        ++ toString f.position
    else
      "bytes in position " ++ toString f.position ++ "-" ++ toString (f.position + f.count - 1)
  "'utf-8' codec can't decode " ++ what ++ ": " ++ reasonText f.reason

end Utf8Fault

/-- Whether a byte is one that continues a character. -/
def isContinuation (b : UInt8) : Bool :=
  0x80 ≤ b.toNat && b.toNat ≤ 0xBF

/-- How many continuation bytes a lead byte calls for, with the range of the first of them. -/
def leadByte? (b : UInt8) : Option (Nat × Nat × Nat) :=
  let n := b.toNat
  if 0xC2 ≤ n && n ≤ 0xDF then some (1, 0x80, 0xBF)
  else if n == 0xE0 then some (2, 0xA0, 0xBF)
  else if n == 0xED then some (2, 0x80, 0x9F)
  else if 0xE1 ≤ n && n ≤ 0xEF then some (2, 0x80, 0xBF)
  else if n == 0xF0 then some (3, 0x90, 0xBF)
  else if n == 0xF4 then some (3, 0x80, 0x8F)
  else if 0xF1 ≤ n && n ≤ 0xF3 then some (3, 0x80, 0xBF)
  else none

/-- How the bytes after a lead byte go on: `ok` if `count` good ones are there, and otherwise the
    reason with the number of good ones. -/
def continuationFault (low high : Nat) : Nat → List UInt8 → Nat → Except (Utf8Reason × Nat) Unit
  | 0, _, _ => .ok ()
  | _ + 1, [], good => .error (.endOfData, good)
  | count + 1, b :: rest, good =>
    if low ≤ b.toNat && b.toNat ≤ high then
      continuationFault 0x80 0xBF count rest (good + 1)
    else .error (.continuationByte, good)

/-- The first fault of a byte string, whose bytes stand from `position` on. `skip` of them belong to
    a character that has already been checked. -/
def firstFaultFrom (position skip : Nat) : List UInt8 → Option Utf8Fault
  | [] => none
  | b :: rest =>
    if 0 < skip then firstFaultFrom (position + 1) (skip - 1) rest
    else if b.toNat < 0x80 then firstFaultFrom (position + 1) 0 rest
    else
      match leadByte? b with
      | none => some ⟨position, 1, b, .startByte⟩
      | some (count, low, high) =>
        match continuationFault low high count rest 0 with
        | .ok () => firstFaultFrom (position + 1) count rest
        | .error (reason, good) => some ⟨position, good + 1, b, reason⟩

/-- The first fault of a byte string, if it is not UTF-8. -/
def firstFault (bytes : List UInt8) : Option Utf8Fault :=
  firstFaultFrom 0 0 bytes

/-- The text that the bytes encode, or the first fault. -/
def decode (bytes : ByteArray) : Except Utf8Fault String :=
  match String.fromUTF8? bytes with
  | some s => .ok s
  | none => .error ((firstFault bytes.toList).getD ⟨0, 1, 0, .startByte⟩)

/-- The text of a file: its bytes decoded, every line break turned into a line feed. -/
def decodeFile (bytes : ByteArray) : Except Utf8Fault String :=
  (decode bytes).map normalizeNewlines

end TemplateTree.Text
