import TemplateTree.Proofs.Text.Pieces
import TemplateTree.Proofs.Values.Merging

/-!
# Values written as entries

A context can be passed through the command line: when each of its entries is written as a key, an equals sign and
the text of the value, merging these entries gives the context back. The values are truth values, integers and
texts; the texts are those that are not typed as something else.

* `KeyValue.IsKey`: the keys that entries can have.
* `KeyValue.Written`: the texts that a value can be written as, and `KeyValue.coerce_written`: they have that value.
* `mergeValues_written`: writing and merging.
-/

namespace TemplateTree

namespace Text

theorem digitValue?_of_isDigit {c : Char} (h : c.isDigit = true) : digitValue? c = some (c.toNat - '0'.toNat) := by
  have hrange : 0x30 ≤ c.toNat ∧ c.toNat ≤ 0x39 := by
    simpa [Char.isDigit, UInt32.le_iff_toNat_le] using h
  unfold digitValue?
  simp [hrange]

/-- The decimal digits of a number denote it. -/
theorem placeValue_toDigits (n : Nat) : placeValue (Nat.toDigits 10 n) = n := by
  have hread : Nat.ofDigitChars 10 (Nat.toDigits 10 n) 0 = n := Nat.ofDigitChars_ten_toDigits
  rw [Nat.ofDigitChars_eq_foldl] at hread
  rw [← digitsValue_eq, digitsValue]
  refine Eq.trans (List.foldl_ext _ _ _ ?_) hread
  intro value c hc
  have hdigit : c.isDigit = true := Nat.isDigit_of_mem_toDigits (by omega) (by omega) hc
  rw [digitValue?_of_isDigit hdigit, Option.getD_some, Nat.mul_comm]

end Text

namespace KeyValue

open Text

variable {ν : Type} {key raw : String} {d : Tree ν}

/-- A key of an entry: it is not empty, has no equals sign, and neither begins nor ends with a blank. -/
structure IsKey (key : String) : Prop where
  ne_empty : key ≠ ""
  no_equals : '=' ∉ key.toList
  first : ∀ c ∈ key.toList.head?, isBlank c = false
  last : ∀ c ∈ key.toList.getLast?, isBlank c = false

/-- A text for a value: the word of a truth value in any case, the decimal digits of an integer behind its sign, and
    a text itself if that is not empty and stays a text. -/
inductive Written : Tree ν → String → Prop
  | truth {b : Bool} {raw : String} (h : Decimal.isWordText (word b) raw.toList = true) :
      Written (.scalar (.bool b)) raw
  | integer {n : Int} (hlimit : (Nat.toDigits 10 n.natAbs).length ≤ Decimal.digitLimit) :
      Written (.scalar (.int n)) (toString n)
  | text {raw : String} (hne : raw ≠ "") (h : coerce raw = .ok (.text raw)) : Written (.scalar (.text raw)) raw

theorem binds_written (h : IsKey key) (raw : String) : Binds (key ++ "=" ++ raw) key raw := by
  refine ⟨h.ne_empty, key.toList, h.no_equals, trim_eq_self h.first h.last, ?_⟩
  simp

theorem isDigits_toDigits (n : Nat) : IsDigits (Nat.toDigits 10 n) := by
  refine ⟨Nat.toDigits_ne_nil, fun c hc => ?_⟩
  have hdigit : c.isDigit = true := Nat.isDigit_of_mem_toDigits (by omega) (by omega) hc
  rw [isDigit, digitValue?_of_isDigit hdigit]
  rfl

theorem toList_toString (n : Int) :
    (toString n).toList = sign (decide (n < 0)) ++ Nat.toDigits 10 n.natAbs := by
  rw [Int.toString_eq_repr]
  cases n with
  | ofNat m =>
    change m.repr.toList = _
    simp [sign, Nat.toList_repr]
  | negSucc m =>
    change ("-" ++ (m + 1).repr).toList = _
    simp [sign, Nat.toList_repr]

theorem isInteger_toString (n : Int) : IsInteger (toString n) (decide (n < 0)) (Nat.toDigits 10 n.natAbs) :=
  ⟨isDigits_toDigits _, .inl (toList_toString n)⟩

theorem signedValue_toDigits (n : Int) : signedValue (decide (n < 0)) (Nat.toDigits 10 n.natAbs) = n := by
  unfold signedValue
  rw [placeValue_toDigits]
  split_ifs with hneg
  · have : n < 0 := of_decide_eq_true hneg
    omega
  · have : ¬ n < 0 := by simpa using hneg
    omega

theorem coerce_written (h : Written d raw) : ∃ s, coerce raw = .ok (.scalar s) ∧ d = .scalar s := by
  cases h with
  | truth h => exact ⟨_, coerce_of_word h, rfl⟩
  | @integer n hlimit =>
    refine ⟨.int n, ?_, rfl⟩
    rw [coerce_of_isInteger (isInteger_toString n), if_neg (by omega), signedValue_toDigits]
  | text _ h => exact ⟨_, h, rfl⟩

theorem Written.ne_empty (h : Written d raw) : raw ≠ "" := by
  intro hempty
  cases h with
  | @truth b _ hword =>
    rw [hempty] at hword
    cases b <;> cases hword
  | @integer n =>
    have hdigits := toList_toString n
    rw [hempty] at hdigits
    exact (isDigits_toDigits _).ne_nil (List.append_eq_nil_iff.1 hdigits.symm).2
  | text hne => exact hne hempty

/-- An entry is read as the key and the value that it has been written for. -/
theorem parse_written (hkey : IsKey key) (h : Written d raw) :
    ∃ s, parse (key ++ "=" ++ raw) = .ok (key, some (.scalar s)) ∧ d = .scalar s := by
  obtain ⟨s, hcoerce, hd⟩ := coerce_written h
  exact ⟨s, parse_eq_ok.2 ⟨raw, binds_written hkey raw, .something h.ne_empty hcoerce⟩, hd⟩

/-- A text is an entry of a context, written for the command line. -/
def WrittenFor (e : Scalar × Tree ν) (entry : String) : Prop :=
  ∃ key raw, e.1 = .text key ∧ IsKey key ∧ Written e.2 raw ∧ entry = key ++ "=" ++ raw

end KeyValue

/-- Entries written for keys that are not there yet come after those that are there, in order. -/
theorem addEntry_written {ν : Type} (entries : Entries (Tree ν)) {context : Entries (Tree ν)} {texts : List String}
    (h : List.Forall₂ KeyValue.WrittenFor context texts) (hmap : (entries ++ context).IsMap) :
    texts.foldlM addEntry entries = .ok (entries ++ context) := by
  induction h generalizing entries with
  | nil =>
    rw [List.append_nil]
    rfl
  | @cons e text context texts hentry _ ih =>
    obtain ⟨key, raw, hkey, hiskey, hraw, rfl⟩ := hentry
    obtain ⟨_, d⟩ := e
    cases hkey
    have hnew : entries.get? (.text key) = none := by
      rw [Entries.get?_eq_none]
      intro hmem
      rw [Entries.IsMap, List.map_append, List.pairwise_append] at hmap
      have hother := hmap.2.2 _ hmem (.text key) List.mem_cons_self
      exact Scalar.same_text_eq_false.1 hother rfl
    have hadd : addEntry entries (key ++ "=" ++ raw) = .ok (entries ++ [(.text key, d)]) := by
      rw [addEntry_eq_ok]
      obtain ⟨s, hparse, hd⟩ := KeyValue.parse_written hiskey hraw
      refine ⟨(key, some (.scalar s)), hparse, ?_⟩
      rw [show d = .scalar s from hd]
      exact (Entries.insert_new hnew).symm
    rw [List.append_cons] at hmap ⊢
    rw [List.foldlM_cons, hadd]
    exact ih _ hmap

/-- A context of truth values, integers and texts comes back from the entries that it is written as: the same keys
    in the same order, with the same values. -/
theorem mergeValues_written {ν : Type} [Vertices ν] (fs : FileSystem) {context : Entries (Tree ν)} {texts : List String}
    (hmap : context.IsMap) (h : List.Forall₂ KeyValue.WrittenFor context texts) :
    mergeValues fs [] texts = .ok context :=
  addEntry_written [] h hmap

/-- A text that looks like an entry, or like a number with a line feed in front, stays a text. -/
theorem mergeValues_written_three :
    mergeValues (ν := Graph.Vertex) (.empty []) [] ["on=TRUE", "a b=-42", "t=\n7 = é"] =
      .ok [(.text "on", .scalar (.bool true)), (.text "a b", .scalar (.int (-42))),
        (.text "t", .scalar (.text "\n7 = é"))] := by
  have hmap : Entries.IsMap [(Scalar.text "on", (.scalar (.bool true) : Object)),
      (.text "a b", .scalar (.int (-42))), (.text "t", .scalar (.text "\n7 = é"))] := by
    simp [Entries.IsMap, Scalar.same]
  have hon : KeyValue.IsKey "on" := ⟨by decide, by decide, by rintro _ ⟨⟩; rfl, by rintro _ ⟨⟩; rfl⟩
  have hab : KeyValue.IsKey "a b" := ⟨by decide, by decide, by rintro _ ⟨⟩; rfl, by rintro _ ⟨⟩; rfl⟩
  have ht : KeyValue.IsKey "t" := ⟨by decide, by decide, by rintro _ ⟨⟩; rfl, by rintro _ ⟨⟩; rfl⟩
  refine mergeValues_written _ hmap (.cons ?_ (.cons ?_ (.cons ?_ .nil)))
  · exact ⟨"on", "TRUE", rfl, hon, .truth (by decide), by decide⟩
  · exact ⟨"a b", "-42", rfl, hab, .integer (by decide), by decide⟩
  · exact ⟨"t", "\n7 = é", rfl, ht, .text (by decide) rfl, by decide⟩

end TemplateTree
