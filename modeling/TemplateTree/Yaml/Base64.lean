/-!
# Base 64

Bytes written with sixty-four characters, six bits each. Characters that have no value are skipped. A
text that ends in the middle of a byte, without the marks that fill it up, is refused.

* `decode?`: the bytes of a text.
-/

namespace TemplateTree.Yaml.Base64

/-- The value of a character. -/
def value? (c : Char) : Option Nat :=
  if 'A' ≤ c && c ≤ 'Z' then some (c.toNat - 65)
  else if 'a' ≤ c && c ≤ 'z' then some (c.toNat - 71)
  else if '0' ≤ c && c ≤ '9' then some (c.toNat + 4)
  else if c == '+' then some 62
  else if c == '/' then some 63
  else none

/-- The byte that the character at a place of a group completes: `left` are the bits still open. -/
def byteAt (place left v : Nat) : List UInt8 :=
  if place == 1 then [UInt8.ofNat (left * 4 + v / 16)]
  else if place == 2 then [UInt8.ofNat (left * 16 + v / 4)]
  else if place == 3 then [UInt8.ofNat (left * 64 + v)]
  else []

/-- The bits of the character at a place of a group that belong to the next byte. -/
def bitsLeft (place v : Nat) : Nat :=
  if place == 0 then v else if place == 1 then v % 16 else if place == 2 then v % 4 else 0

/-- The bytes of the rest of a text, at a place of a group and after a number of filling marks. -/
def decodeFrom (place left fill : Nat) : List Char → Option (List UInt8)
  | [] => if place == 0 then some [] else none
  | c :: rest =>
    if c == '=' then
      if 2 ≤ place then
        if 4 ≤ place + fill + 1 then some [] else decodeFrom place left (fill + 1) rest
      else decodeFrom place left fill rest
    else
      match value? c with
      | none => decodeFrom place left fill rest
      | some v =>
        (decodeFrom ((place + 1) % 4) (bitsLeft place v) 0 rest).map (byteAt place left v ++ ·)

/-- The bytes of a text. -/
def decode? (s : List Char) : Option (List UInt8) :=
  decodeFrom 0 0 0 s

end TemplateTree.Yaml.Base64
