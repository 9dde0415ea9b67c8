/-!
# Similar texts

How much two texts have in common: the longest part that stands in both, what the texts have in common
before it, and what they have in common behind it. Texts are similar if at least six tenths of their
characters are in common.

* `common`: how many characters of each text are in common.
* `similar`: the texts of a list that are most similar to a text.
-/

namespace TemplateTree.Text

/-- A part that stands in two texts: where it begins in each of them, and its length. -/
structure CommonPart where
  left : Nat
  right : Nat
  length : Nat
  deriving DecidableEq, Repr

/-- The length of the common beginning of two texts. -/
def commonStart : List Char → List Char → Nat
  | a :: as, b :: bs => if a == b then commonStart as bs + 1 else 0
  | _, _ => 0

/-- The longest part that stands in both texts. Of several it is the one that begins first in the first
    text, and then first in the second. -/
def longestPart (a b : List Char) : CommonPart :=
  let places := (List.range a.length).flatMap fun i => (List.range b.length).map fun j => (i, j)
  places.foldl (fun best (i, j) =>
    let n := commonStart (a.drop i) (b.drop j)
    if best.length < n then ⟨i, j, n⟩ else best) ⟨0, 0, 0⟩

/-- How many characters two texts have in common, counting at most `depth` nested parts. -/
def commonWithin : Nat → List Char → List Char → Nat
  | 0, _, _ => 0
  | depth + 1, a, b =>
    let part := longestPart a b
    if part.length == 0 then 0
    else
      commonWithin depth (a.take part.left) (b.take part.right) + part.length
        + commonWithin depth (a.drop (part.left + part.length)) (b.drop (part.right + part.length))

/-- How many characters two texts have in common. -/
def common (a b : List Char) : Nat :=
  commonWithin a.length a b

/-- How similar a text is: the characters in common, out of all characters of both texts. -/
structure Likeness where
  text : String
  shared : Nat
  total : Nat

namespace Likeness

/-- The likeness of a text and a word. Texts whose lengths differ too much to be similar have nothing
    in common. -/
def of (text word : String) : Likeness :=
  let total := text.length + word.length
  if 10 * min text.length word.length < 3 * total then ⟨text, 0, total⟩
  else ⟨text, common text.toList word.toList, total⟩

/-- Whether the texts are similar. -/
def isEnough (l : Likeness) : Bool :=
  3 * l.total ≤ 10 * l.shared

/-- The order from the most similar to the least similar text, and of equally similar ones from the
    last to the first. -/
def precedes (l m : Likeness) : Bool :=
  m.shared * l.total < l.shared * m.total
    || (m.shared * l.total == l.shared * m.total && m.text ≤ l.text)

end Likeness

/-- The texts that are similar to a word, the most similar ones first, at most three. -/
def similar (word : String) (texts : List String) : List String :=
  ((((texts.map fun t => Likeness.of t word).filter Likeness.isEnough).mergeSort
    Likeness.precedes).take 3).map Likeness.text

end TemplateTree.Text
