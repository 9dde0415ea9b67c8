import Mathlib.Data.List.TakeWhile
import Mathlib.Data.Nat.Digits.Defs
import Mathlib.Tactic.Ring
import Mathlib.Tactic.SplitIfs
import TemplateTree.KeyValue
import TemplateTree.Proofs.Values.Rounding

/-!
# Types of context values

The text of a context value is one of two words, an integer, a decimal, or anything else. Which of these it is
depends on the whole text, with one exception: a single line feed behind a number does not count.

* `Text.lower_eq_iff`: the texts whose lower case is a given word.
* `Text.digitsValue_eq`: digits denote a number by their places.
* `KeyValue.integerText?_eq_some`, `KeyValue.decimalText?_eq_some`: the texts of numbers.
* `KeyValue.Typed`: the value of a text, or why it has none.
* `KeyValue.coerce_typed`: texts are typed so.
-/

namespace TemplateTree

/-! ## Words in any case -/

namespace Text

variable {c : Char} {s w before rest : List Char}

/-- The small letters that are the lower case of ASCII letters only. The dotted capital I and the Kelvin sign
    have lower cases that begin with `i` and `k`. -/
def IsOwnLetter (c : Char) : Prop :=
  97 ≤ c.toNat ∧ c.toNat ≤ 122 ∧ c ≠ 'i' ∧ c ≠ 'k'

instance : DecidablePred IsOwnLetter :=
  fun c => inferInstanceAs (Decidable (97 ≤ c.toNat ∧ c.toNat ≤ 122 ∧ c ≠ 'i' ∧ c ≠ 'k'))

theorem toLower_of_not_upper (h : c.toNat < 65 ∨ 90 < c.toNat) : c.toLower = c := by
  unfold Char.toLower
  apply dif_neg
  rw [ge_iff_le, UInt32.le_iff_toNat_le, UInt32.le_iff_toNat_le]
  rintro ⟨hlow, hhigh⟩
  have hlow : 65 ≤ c.toNat := hlow
  have hhigh : c.toNat ≤ 90 := hhigh
  omega

theorem toLower_of_not_ascii (h : 0x80 ≤ c.toNat) : c.toLower = c :=
  toLower_of_not_upper (.inr (by omega))

theorem toNat_charOf (n : Nat) : (Char.ofNat n).toNat = if n.isValidChar then n else 0 := by
  unfold Char.ofNat
  by_cases h : n.isValidChar
  · rw [dif_pos h, if_pos h]
    rfl
  · rw [dif_neg h, if_neg h]
    rfl

/-- No run of the table but that of the Kelvin sign leads back to ASCII. -/
theorem lowerRuns_beyond : ∀ r ∈ lowerRuns,
    128 ≤ (r.first : Int) + r.distance ∨ (r.first = 8490 ∧ r.last = 8490 ∧ r.distance = -8383) := by
  decide +kernel

theorem not_isOwnLetter_of_mapByRuns {n : Nat} (h : mapByRuns lowerRuns n = some c) : ¬ IsOwnLetter c := by
  obtain ⟨r, hr, rfl⟩ := Option.map_eq_some_iff.1 h
  have hcovers : r.first ≤ n ∧ n ≤ r.last := by
    have := Array.find?_some hr
    simp only [CaseRun.covers, Bool.and_eq_true, decide_eq_true_eq] at this
    exact this.1
  rintro ⟨hlow, hhigh, -, hk⟩
  rcases lowerRuns_beyond r (Array.mem_of_find?_eq_some hr) with hbeyond | ⟨hfirst, hlast, hdistance⟩
  · rw [toNat_charOf] at hlow hhigh
    split_ifs at hlow hhigh <;> omega
  · have hn : n = 8490 := by omega
    subst hn
    rw [hdistance] at hk
    exact hk rfl

theorem lowerAt_ascii (h : c.toNat < 0x80) : lowerAt before c rest = [c.toLower] := by
  have hsigma : (c.toNat == 0x3A3) = false := by
    simp only [beq_eq_false_iff_ne]
    omega
  simp [lowerAt, lowerChar, hsigma, h]

theorem lowerAt_beyond (before rest : List Char) (h : 0x80 ≤ c.toNat) :
    ∃ x xs, lowerAt before c rest = x :: xs ∧ ¬ IsOwnLetter x := by
  unfold lowerAt lowerChar
  dsimp only
  rw [if_neg (by omega : ¬ c.toNat < 0x80)]
  split_ifs
  · exact ⟨_, _, rfl, by decide⟩
  · exact ⟨_, _, rfl, by decide⟩
  · exact ⟨_, _, rfl, by decide⟩
  · refine ⟨_, _, rfl, ?_⟩
    cases hrun : mapByRuns lowerRuns c.toNat with
    | none =>
      rintro ⟨-, hhigh, -⟩
      simp only [Option.getD_none] at hhigh
      omega
    | some x => exact not_isOwnLetter_of_mapByRuns hrun

theorem lowerFrom_eq_iff (hw : ∀ x ∈ w, IsOwnLetter x) :
    lowerFrom before s = w ↔ s.map Char.toLower = w := by
  induction s generalizing before w with
  | nil => rfl
  | cons c rest ih =>
    rw [lowerFrom, List.map_cons]
    by_cases hc : c.toNat < 0x80
    · rw [lowerAt_ascii hc, List.singleton_append]
      cases w with
      | nil => simp
      | cons x w =>
        rw [List.cons.injEq, List.cons.injEq, ih fun y hy => hw y (List.mem_cons_of_mem _ hy)]
    · -- Neither side begins with a letter of the word.
      have hbeyond : 0x80 ≤ c.toNat := by omega
      obtain ⟨x, xs, hlower, hx⟩ := lowerAt_beyond before rest hbeyond
      rw [hlower, toLower_of_not_ascii hbeyond]
      constructor
      · rintro rfl
        exact absurd (hw x List.mem_cons_self) hx
      · rintro rfl
        have hletter := (hw c List.mem_cons_self).2.1
        omega

/-- A word without `i` and `k` is the lower case of those texts only that differ from it in the case of ASCII
    letters. -/
theorem lower_eq_iff {word : String} (hword : ∀ x ∈ word.toList, IsOwnLetter x) :
    lower s = word.toList ↔ Decimal.isWordText word s = true := by
  rw [Decimal.isWordText, beq_iff_eq]
  exact lowerFrom_eq_iff hword

/-! ## Digits -/

/-- The number that digits denote, each by its value and its place. -/
def placeValue (ds : List Char) : Nat :=
  Nat.ofDigits 10 (ds.reverse.map fun c => (digitValue? c).getD 0)

theorem digitsValue_eq (ds : List Char) : digitsValue ds = placeValue ds := by
  rw [placeValue, Nat.ofDigits_eq_foldr, List.foldr_map, List.foldr_reverse, digitsValue]
  congr 1
  funext value c
  simp only [Nat.cast_id]
  ring

theorem isDigit_ascii (h : c.toNat < 0x80) : isDigit c = true ↔ 0x30 ≤ c.toNat ∧ c.toNat ≤ 0x39 := by
  unfold isDigit digitValue?
  dsimp only
  split_ifs with hdigit
  · simpa using hdigit
  · simpa using hdigit

theorem toLower_of_isDigit (h : isDigit c = true) : c.toLower = c := by
  by_cases hc : c.toNat < 0x80
  · have hdigit := (isDigit_ascii hc).1 h
    exact toLower_of_not_upper (.inl (by omega))
  · exact toLower_of_not_ascii (by omega)

/-! ## Cutting at a character -/

/-- A text is cut at the first place where a character stands. -/
theorem span_cut (after : List Char) (h : c ∉ before) :
    (before ++ c :: after).takeWhile (· != c) = before ∧
      (before ++ c :: after).dropWhile (· != c) = c :: after := by
  have hbefore : ∀ x ∈ before, (x != c) = true := by
    intro x hx
    exact bne_iff_ne.2 fun heq => h (heq ▸ hx)
  constructor
  · simp [List.takeWhile_append_of_pos hbefore]
  · simp [List.dropWhile_append_of_pos hbefore]

end Text

/-! ## The texts of numbers -/

namespace KeyValue

open Text

variable {raw : String} {s t ds whole fraction : List Char} {negative : Bool}

/-- One or more decimal digits of any script. -/
structure IsDigits (ds : List Char) : Prop where
  ne_nil : ds ≠ []
  digit : ∀ c ∈ ds, isDigit c = true

theorem isDigits_iff : (!ds.isEmpty && ds.all isDigit) = true ↔ IsDigits ds := by
  rw [Bool.and_eq_true, List.all_eq_true, Bool.not_eq_true', List.isEmpty_eq_false_iff]
  exact ⟨fun h => ⟨h.1, h.2⟩, fun h => ⟨h.ne_nil, h.digit⟩⟩

theorem IsDigits.not_mem (h : IsDigits ds) {c : Char} (hc : isDigit c = false) : c ∉ ds := by
  intro hmem
  rw [h.digit c hmem] at hc
  cases hc

theorem IsDigits.head?_append (h : IsDigits ds) (t : List Char) : (ds ++ t).head? ≠ some '-' := by
  cases ds with
  | nil => exact absurd rfl h.ne_nil
  | cons c ds =>
    intro hhead
    obtain rfl : c = '-' := by simpa using hhead
    exact h.not_mem (by decide) List.mem_cons_self

/-- The minus sign of a negative number, nothing for others. -/
def sign (negative : Bool) : List Char :=
  if negative then ['-'] else []

/-- What is left of a text when its sign is taken off. -/
theorem exists_sign (s : List Char) :
    ∃ negative body, s = sign negative ++ body ∧ (negative = false → body.head? ≠ some '-') := by
  cases s with
  | nil => exact ⟨false, [], rfl, fun _ => by simp⟩
  | cons c rest =>
    by_cases hc : c = '-'
    · exact ⟨true, rest, by rw [hc]; rfl, nofun⟩
    · exact ⟨false, c :: rest, rfl, fun _ => by simpa using hc⟩

theorem integerText?_sign (h : negative = false → t.head? ≠ some '-') :
    integerText? (sign negative ++ t) = if !t.isEmpty && t.all isDigit then some (negative, t) else none := by
  cases negative with
  | true => rfl
  | false =>
    unfold integerText?
    simp only [sign, Bool.false_eq_true, if_false, List.nil_append]
    split
    · exact absurd rfl (h rfl)
    · rfl

theorem decimalText?_sign (h : negative = false → t.head? ≠ some '-') :
    decimalText? (sign negative ++ t) =
      let whole := t.takeWhile (· != '.')
      let fraction := (t.dropWhile (· != '.')).drop 1
      if !whole.isEmpty && whole.all isDigit && !fraction.isEmpty && fraction.all isDigit then
        some (negative, whole, fraction)
      else none := by
  cases negative with
  | true => rfl
  | false =>
    unfold decimalText?
    simp only [sign, Bool.false_eq_true, if_false, List.nil_append]
    split
    · exact absurd rfl (h rfl)
    · rfl

theorem integerText?_eq_some : integerText? s = some (negative, ds) ↔ IsDigits ds ∧ s = sign negative ++ ds := by
  constructor
  · intro h
    obtain ⟨negative', body, rfl, hbody⟩ := exists_sign s
    rw [integerText?_sign hbody] at h
    split_ifs at h with hdigits
    cases h
    exact ⟨isDigits_iff.1 hdigits, rfl⟩
  · rintro ⟨hdigits, rfl⟩
    rw [integerText?_sign fun _ => by simpa using hdigits.head?_append []]
    exact if_pos (isDigits_iff.2 hdigits)

theorem decimalText?_eq_some : decimalText? s = some (negative, whole, fraction) ↔
    IsDigits whole ∧ IsDigits fraction ∧ s = sign negative ++ (whole ++ '.' :: fraction) := by
  constructor
  · intro h
    obtain ⟨negative', body, rfl, hbody⟩ := exists_sign s
    rw [decimalText?_sign hbody] at h
    dsimp only at h
    split_ifs at h with hdigits
    cases h
    rw [Bool.and_assoc, Bool.and_eq_true, isDigits_iff, isDigits_iff] at hdigits
    refine ⟨hdigits.1, hdigits.2, ?_⟩
    -- There is a point, because something stands behind it.
    have hpoint : '.' ∈ body := by
      by_contra hnone
      apply hdigits.2.ne_nil
      have hall : ∀ c ∈ body, (c != '.') = true := by
        intro c hc
        exact bne_iff_ne.2 fun heq => hnone (heq ▸ hc)
      rw [List.dropWhile_eq_nil_iff.2 hall, List.drop_nil]
    obtain ⟨before, after, hcut, hbefore⟩ := List.eq_append_cons_of_mem hpoint
    obtain ⟨htake, hdrop⟩ := span_cut after hbefore
    rw [hcut, htake, hdrop]
    rfl
  · rintro ⟨hwhole, hfraction, rfl⟩
    obtain ⟨htake, hdrop⟩ := span_cut fraction (hwhole.not_mem (c := '.') (by decide))
    rw [decimalText?_sign fun _ => hwhole.head?_append _]
    dsimp only
    rw [htake, hdrop]
    refine if_pos ?_
    rw [Bool.and_assoc, Bool.and_eq_true, isDigits_iff, isDigits_iff]
    exact ⟨hwhole, hfraction⟩

/-! ## Typing a text -/

/-- A text is another one, or that one and a line feed. -/
def EndsAs (s t : List Char) : Prop :=
  s = t ∨ s = t ++ ['\n']

theorem dropFinalBreak_eq (ht : t.getLast? ≠ some '\n') : dropFinalBreak s = t ↔ EndsAs s t := by
  unfold dropFinalBreak EndsAs
  split_ifs with hbreak
  · obtain ⟨body, rfl⟩ := List.getLast?_eq_some_iff.1 (beq_iff_eq.1 hbreak)
    rw [List.dropLast_concat]
    constructor
    · rintro rfl
      exact .inr rfl
    · rintro (rfl | h)
      · exact absurd (by simp) ht
      · exact List.append_cancel_right h
  · constructor
    · exact .inl
    · rintro (rfl | rfl)
      · rfl
      · exact absurd (by simp) hbreak

/-- The word of a truth value. -/
def word (b : Bool) : String :=
  if b then "true" else "false"

/-- A text is an optional minus sign and digits, up to a line feed at its end. -/
structure IsInteger (raw : String) (negative : Bool) (ds : List Char) : Prop where
  digits : IsDigits ds
  text : EndsAs raw.toList (sign negative ++ ds)

/-- A text is an optional minus sign and digits on both sides of a point, up to a line feed at its end. -/
structure IsDecimal (raw : String) (negative : Bool) (whole fraction : List Char) : Prop where
  before : IsDigits whole
  behind : IsDigits fraction
  text : EndsAs raw.toList (sign negative ++ (whole ++ '.' :: fraction))

/-- The number that a sign and digits denote. -/
def signedValue (negative : Bool) (ds : List Char) : Int :=
  if negative then -(placeValue ds : Int) else placeValue ds

/-- The value of a text: a truth value for its word in any case, an integer unless it has too many digits, for a
    decimal the float nearest to it, and for every other text the text itself. -/
inductive Typed (raw : String) : Except Decimal.IntegerFault Datum → Prop
  | word {b : Bool} (h : Decimal.isWordText (word b) raw.toList = true) : Typed raw (.ok (.bool b))
  | integer {negative : Bool} {ds : List Char} (h : IsInteger raw negative ds)
      (hlimit : ds.length ≤ Decimal.digitLimit) : Typed raw (.ok (.int (signedValue negative ds)))
  | tooLong {negative : Bool} {ds : List Char} (h : IsInteger raw negative ds)
      (hlimit : Decimal.digitLimit < ds.length) : Typed raw (.error (.tooLong ds.length))
  | decimal {negative : Bool} {whole fraction : List Char} (h : IsDecimal raw negative whole fraction) :
      Typed raw (.ok (.float (Decimal.ofRatio negative (placeValue (whole ++ fraction)) (10 ^ fraction.length))))
  | other (hword : ∀ b, Decimal.isWordText (KeyValue.word b) raw.toList = false)
      (hinteger : ∀ negative ds, ¬ IsInteger raw negative ds)
      (hdecimal : ∀ negative whole fraction, ¬ IsDecimal raw negative whole fraction) :
      Typed raw (.ok (.text raw))

theorem IsDigits.getLast?_append (h : IsDigits ds) (t : List Char) : (t ++ ds).getLast? ≠ some '\n' := by
  intro hlast
  rw [List.getLast?_append_of_ne_nil _ h.ne_nil] at hlast
  exact h.not_mem (by decide) (List.mem_of_getLast? hlast)

theorem integerText?_dropFinalBreak :
    integerText? (dropFinalBreak raw.toList) = some (negative, ds) ↔ IsInteger raw negative ds := by
  rw [integerText?_eq_some]
  constructor
  · rintro ⟨hdigits, hbody⟩
    exact ⟨hdigits, (dropFinalBreak_eq (hdigits.getLast?_append _)).1 hbody⟩
  · rintro ⟨hdigits, htext⟩
    exact ⟨hdigits, (dropFinalBreak_eq (hdigits.getLast?_append _)).2 htext⟩

theorem decimalText?_dropFinalBreak :
    decimalText? (dropFinalBreak raw.toList) = some (negative, whole, fraction) ↔
      IsDecimal raw negative whole fraction := by
  have hlast (hfraction : IsDigits fraction) :
      (sign negative ++ (whole ++ '.' :: fraction)).getLast? ≠ some '\n' := by
    have := hfraction.getLast?_append (sign negative ++ (whole ++ ['.']))
    simpa using this
  rw [decimalText?_eq_some]
  constructor
  · rintro ⟨hwhole, hfraction, hbody⟩
    exact ⟨hwhole, hfraction, (dropFinalBreak_eq (hlast hfraction)).1 hbody⟩
  · rintro ⟨hwhole, hfraction, htext⟩
    exact ⟨hwhole, hfraction, (dropFinalBreak_eq (hlast hfraction)).2 htext⟩

/-- A text that begins as a number does is no word. -/
theorem IsDigits.not_word (h : IsDigits ds) (hs : EndsAs s (sign negative ++ (ds ++ t))) (b : Bool) :
    Decimal.isWordText (word b) s = false := by
  have hfirst : ∃ c rest, sign negative ++ (ds ++ t) = c :: rest ∧ (c = '-' ∨ Text.isDigit c = true) := by
    cases negative with
    | true => exact ⟨'-', ds ++ t, rfl, .inl rfl⟩
    | false =>
      cases ds with
      | nil => exact absurd rfl h.ne_nil
      | cons c ds => exact ⟨c, ds ++ t, rfl, .inr (h.digit c List.mem_cons_self)⟩
  obtain ⟨c, rest, hc, hsigned⟩ := hfirst
  have hcons : ∃ rest', s = c :: rest' := by
    rcases hs with rfl | rfl
    · exact ⟨rest, hc⟩
    · exact ⟨rest ++ ['\n'], by rw [hc, List.cons_append]⟩
  obtain ⟨rest', rfl⟩ := hcons
  have hlower : c.toLower = c := by
    rcases hsigned with rfl | hdigit
    · rfl
    · exact toLower_of_isDigit hdigit
  have hne : c ≠ 't' ∧ c ≠ 'f' := by
    constructor
    all_goals
      rintro rfl
      revert hsigned
      decide
  cases b <;> simp [Decimal.isWordText, word, hlower, hne]

theorem isOwnLetter_word (b : Bool) : ∀ x ∈ (word b).toList, IsOwnLetter x := by
  intro x hx
  cases b with
  | true =>
    simp only [word, if_true, String.reduceToList, List.mem_cons, List.not_mem_nil, or_false] at hx
    rcases hx with rfl | rfl | rfl | rfl <;> decide
  | false =>
    simp only [word, Bool.false_eq_true, if_false, String.reduceToList, List.mem_cons, List.not_mem_nil,
      or_false] at hx
    rcases hx with rfl | rfl | rfl | rfl | rfl <;> decide

theorem coerce_of_word {b : Bool} (h : Decimal.isWordText (word b) raw.toList = true) :
    coerce raw = .ok (.bool b) := by
  have hlower : lower raw.toList = (word b).toList := (lower_eq_iff (isOwnLetter_word b)).2 h
  unfold coerce
  dsimp only
  rw [hlower]
  cases b <;> rfl

/-- A text that is no word is an integer, or else a decimal, or else a text. -/
theorem coerce_of_not_word (h : ∀ b, Decimal.isWordText (word b) raw.toList = false) :
    coerce raw =
      match integerText? (dropFinalBreak raw.toList) with
      | some (negative, ds) =>
        if Decimal.digitLimit < ds.length then .error (.tooLong ds.length)
        else .ok (.int (signedValue negative ds))
      | none =>
        match decimalText? (dropFinalBreak raw.toList) with
        | some (negative, whole, fraction) =>
          .ok (.float ((Decimal.DecimalText.mk whole fraction 0).toFloat negative))
        | none => .ok (.text raw) := by
  have hlower (b : Bool) : (lower raw.toList == (word b).toList) = false := by
    have hiff := lower_eq_iff (s := raw.toList) (isOwnLetter_word b)
    rw [beq_eq_false_iff_ne, ne_eq, hiff, h b]
    decide
  unfold coerce
  simp only [show (lower raw.toList == "true".toList) = false from hlower true,
    show (lower raw.toList == "false".toList) = false from hlower false, digitsValue_eq]
  rfl

theorem coerce_of_isInteger (h : IsInteger raw negative ds) :
    coerce raw = if Decimal.digitLimit < ds.length then .error (.tooLong ds.length)
      else .ok (.int (signedValue negative ds)) := by
  have hword := h.digits.not_word (t := []) (by simpa using h.text)
  rw [coerce_of_not_word hword, integerText?_dropFinalBreak.2 h]

/-- The digits of a decimal without its point, over the power of ten that the point stands for. -/
theorem toFloat_eq (hwhole : IsDigits whole) (hfraction : IsDigits fraction) :
    (Decimal.DecimalText.mk whole fraction 0).toFloat negative =
      Decimal.ofRatio negative (placeValue (whole ++ fraction)) (10 ^ fraction.length) := by
  have hdigits : ∀ c ∈ whole ++ fraction, isDigit c = true := by
    intro c hc
    rcases List.mem_append.1 hc with hmem | hmem
    · exact hwhole.digit c hmem
    · exact hfraction.digit c hmem
  rw [Decimal.DecimalText.toFloat, Decimal.ofDecimal_eq hdigits, digitsValue_eq]
  dsimp only
  rw [show (0 - (fraction.length : Int)).toNat = 0 by omega,
    show (-(0 - (fraction.length : Int))).toNat = fraction.length by omega, pow_zero, Nat.mul_one]

theorem coerce_of_isDecimal (h : IsDecimal raw negative whole fraction) :
    coerce raw =
      .ok (.float (Decimal.ofRatio negative (placeValue (whole ++ fraction)) (10 ^ fraction.length))) := by
  have hbody := decimalText?_dropFinalBreak.2 h
  have hnone : integerText? (dropFinalBreak raw.toList) = none := by
    rw [Option.eq_none_iff_forall_not_mem]
    rintro ⟨negative', ds⟩ hds
    obtain ⟨hdigits, hinteger⟩ := integerText?_eq_some.1 hds
    obtain ⟨-, -, hdecimal⟩ := decimalText?_eq_some.1 hbody
    have hpoint : '.' ∈ sign negative' ++ ds := by
      rw [← hinteger, hdecimal]
      simp
    rcases List.mem_append.1 hpoint with hsign | hmem
    · cases negative' <;> simp [sign] at hsign
    · exact hdigits.not_mem (by decide) hmem
  rw [coerce_of_not_word (h.before.not_word h.text), hnone, hbody]
  exact congrArg (fun x => Except.ok (Datum.float x)) (toFloat_eq h.before h.behind)

theorem coerce_of_other (hword : ∀ b, Decimal.isWordText (word b) raw.toList = false)
    (hinteger : ∀ negative ds, ¬ IsInteger raw negative ds)
    (hdecimal : ∀ negative whole fraction, ¬ IsDecimal raw negative whole fraction) :
    coerce raw = .ok (.text raw) := by
  have hnone : integerText? (dropFinalBreak raw.toList) = none := by
    rw [Option.eq_none_iff_forall_not_mem]
    rintro ⟨negative, ds⟩ hds
    exact hinteger negative ds (integerText?_dropFinalBreak.1 hds)
  have hnone' : decimalText? (dropFinalBreak raw.toList) = none := by
    rw [Option.eq_none_iff_forall_not_mem]
    rintro ⟨negative, whole, fraction⟩ hparts
    exact hdecimal negative whole fraction (decimalText?_dropFinalBreak.1 hparts)
  rw [coerce_of_not_word hword, hnone, hnone']

/-- Every text has the value that its type gives it, and no other. -/
theorem coerce_typed (raw : String) (result : Except Decimal.IntegerFault Datum) :
    coerce raw = result ↔ Typed raw result := by
  constructor
  · rintro rfl
    by_cases hword : ∃ b, Decimal.isWordText (word b) raw.toList = true
    · obtain ⟨b, hb⟩ := hword
      rw [coerce_of_word hb]
      exact .word hb
    by_cases hinteger : ∃ negative ds, IsInteger raw negative ds
    · obtain ⟨negative, ds, h⟩ := hinteger
      rw [coerce_of_isInteger h]
      split_ifs with hlimit
      · exact .tooLong h hlimit
      · exact .integer h (by omega)
    by_cases hdecimal : ∃ negative whole fraction, IsDecimal raw negative whole fraction
    · obtain ⟨negative, whole, fraction, h⟩ := hdecimal
      rw [coerce_of_isDecimal h]
      exact .decimal h
    simp only [not_exists, Bool.not_eq_true] at hword hinteger hdecimal
    rw [coerce_of_other hword hinteger hdecimal]
    exact .other hword hinteger hdecimal
  · rintro (hb | ⟨h, hlimit⟩ | ⟨h, hlimit⟩ | h | ⟨hword, hinteger, hdecimal⟩)
    · exact coerce_of_word hb
    · rw [coerce_of_isInteger h, if_neg (by omega)]
    · rw [coerce_of_isInteger h, if_pos hlimit]
    · exact coerce_of_isDecimal h
    · exact coerce_of_other hword hinteger hdecimal

-- One line feed at the end does not count, a second one and a blank do.
example : (coerce "42\n" matches .ok (.int 42)) = true ∧ (coerce "42\n\n" matches .ok (.text "42\n\n")) = true ∧
    (coerce "42 " matches .ok (.text "42 ")) = true := by
  decide +kernel

end KeyValue

end TemplateTree
