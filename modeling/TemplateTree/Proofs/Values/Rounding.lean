import Mathlib.Tactic.Positivity
import Mathlib.Tactic.Ring
import Mathlib.Tactic.SplitIfs
import TemplateTree.Decimal.Read

/-!
# The float of a decimal

The float of a decimal text is the one nearest to the fraction that the digits and the exponent denote. The texts
that are cut off before this fraction is computed are those whose number is above `10 ^ 400` or below `10 ^ -400`:
the nearest floats are infinity and zero there. How many zeros stand in front of the digits does not matter.

* `Text.digitsValue_lt`, `Text.le_digitsValue`: a number is bounded by the number of its digits.
* `Decimal.ratioBits_eq_none`, `Decimal.ratioBits_eq_zero`: fractions that are too large or too small.
* `Decimal.ofDecimal_eq`: the float of a decimal.
-/

namespace TemplateTree

/-! ## Digits and magnitude -/

namespace Text

variable {c : Char} {ds : List Char}

theorem digitValue?_lt {v : Nat} (h : digitValue? c = some v) : v < 10 := by
  unfold digitValue? at h
  dsimp only at h
  split_ifs at h with hascii
  · cases h
    simp only [Bool.and_eq_true, decide_eq_true_eq] at hascii
    omega
  · obtain ⟨z, hz, rfl⟩ := Option.map_eq_some_iff.1 h
    have hrange := Array.find?_some hz
    simp only [Bool.and_eq_true, decide_eq_true_eq] at hrange
    omega

theorem digitsValue_from (ds : List Char) (n : Nat) :
    ds.foldl (fun acc c => acc * 10 + (digitValue? c).getD 0) n = n * 10 ^ ds.length + digitsValue ds := by
  induction ds generalizing n with
  | nil => simp [digitsValue]
  | cons c ds ih =>
    rw [digitsValue, List.foldl_cons, List.foldl_cons, ih, ih (0 * 10 + _), List.length_cons, pow_succ]
    ring

theorem digitsValue_cons (c : Char) (ds : List Char) :
    digitsValue (c :: ds) = (digitValue? c).getD 0 * 10 ^ ds.length + digitsValue ds := by
  rw [digitsValue, List.foldl_cons, digitsValue_from, Nat.zero_mul, Nat.zero_add]

theorem digitsValue_lt (ds : List Char) : digitsValue ds < 10 ^ ds.length := by
  induction ds with
  | nil => exact Nat.one_pos
  | cons c ds ih =>
    have hdigit : (digitValue? c).getD 0 ≤ 9 := by
      cases hv : digitValue? c with
      | none => simp
      | some v => exact Nat.le_of_lt_succ (digitValue?_lt hv)
    calc digitsValue (c :: ds) = (digitValue? c).getD 0 * 10 ^ ds.length + digitsValue ds := digitsValue_cons c ds
      _ < 9 * 10 ^ ds.length + 10 ^ ds.length := Nat.add_lt_add_of_le_of_lt (Nat.mul_le_mul_right _ hdigit) ih
      _ = 10 ^ (c :: ds).length := by rw [List.length_cons, pow_succ]; ring

/-- A number whose first digit is not zero has as many places as digits. -/
theorem le_digitsValue (hc : isDigit c = true) (hzero : digitValue? c ≠ some 0) :
    10 ^ ds.length ≤ digitsValue (c :: ds) := by
  obtain ⟨v, hv⟩ := Option.isSome_iff_exists.1 hc
  have hpos : 0 < v := Nat.pos_of_ne_zero fun h => hzero (h ▸ hv)
  rw [digitsValue_cons, hv]
  calc 10 ^ ds.length ≤ v * 10 ^ ds.length := Nat.le_mul_of_pos_left _ hpos
    _ ≤ v * 10 ^ ds.length + digitsValue ds := Nat.le_add_right _ _

end Text

/-! ## Fractions out of range -/

namespace Decimal

open Text

variable {num den : Nat}

theorem div_le_roundDiv (num den : Nat) : num / den ≤ roundDiv num den := by
  unfold roundDiv
  dsimp only
  split_ifs <;> omega

theorem roundDiv_eq_zero {i j : Nat} (hij : i < j) (h : num * 2 ^ j < den) : roundDiv (num * Nat.pow 2 i) den = 0 := by
  have hhalf : 2 * (num * 2 ^ i) < den := by
    calc 2 * (num * 2 ^ i) = num * 2 ^ (i + 1) := by rw [Nat.mul_left_comm, ← pow_succ']
      _ ≤ num * 2 ^ j := Nat.mul_le_mul_left _ (Nat.pow_le_pow_right Nat.two_pos hij)
      _ < den := h
  rw [Nat.pow_eq]
  unfold roundDiv
  dsimp only
  rw [Nat.mod_eq_of_lt (by omega), if_pos hhalf]
  exact Nat.div_eq_of_lt (by omega)

theorem two_pow_le_ten_pow : 2 ^ 1328 ≤ 10 ^ 400 := by
  decide +kernel

/-- The last bit of a float near a large fraction: there are 53 significant bits above it. -/
theorem lastBit_of_large (hnum : num ≠ 0) (hden : den ≠ 0) (h : den.log2 + 1328 ≤ num.log2) :
    ∃ e : Nat, lastBit num den = e ∧ 1275 ≤ e ∧ 2 ^ 52 ≤ num / (den * 2 ^ e) := by
  obtain ⟨g, hg⟩ : ∃ g, num.log2 = den.log2 + 53 + g := ⟨num.log2 - den.log2 - 53, by omega⟩
  have hpos : 0 < den * 2 ^ g := Nat.mul_pos (Nat.pos_of_ne_zero hden) (Nat.two_pow_pos g)
  -- One place below the guess, the fraction has its 53 bits.
  have hbelow : 2 ^ 52 ≤ num / (den * 2 ^ g) := by
    rw [Nat.le_div_iff_mul_le hpos]
    calc 2 ^ 52 * (den * 2 ^ g) ≤ 2 ^ 52 * (2 ^ (den.log2 + 1) * 2 ^ g) := by
          exact Nat.mul_le_mul_left _ (Nat.mul_le_mul_right _ Nat.lt_log2_self.le)
      _ = 2 ^ num.log2 := by rw [hg, ← pow_add, ← pow_add]; congr 1; omega
      _ ≤ num := Nat.log2_self_le hnum
  have hguess : (num.log2 : Int) - (den.log2 : Int) - 52 = ((g + 1 : Nat) : Int) := by omega
  have hunits : inUnits num den ((g + 1 : Nat) : Int) = (num, den * 2 ^ (g + 1)) := by
    rw [inUnits, if_pos (Int.natCast_nonneg _), Int.toNat_natCast, Nat.pow_eq]
  unfold lastBit
  dsimp only
  rw [hguess, hunits]
  simp only [Nat.pow_eq]
  by_cases hover : 2 ^ 53 ≤ num / (den * 2 ^ (g + 1))
  · refine ⟨g + 2, ?_, by omega, ?_⟩
    · rw [if_pos hover, if_neg (by omega)]
      rfl
    · have hhalf : num / (den * 2 ^ (g + 2)) = num / (den * 2 ^ (g + 1)) / 2 := by
        rw [Nat.div_div_eq_div_mul, mul_assoc, ← pow_succ]
      omega
  · by_cases hunder : num / (den * 2 ^ (g + 1)) < 2 ^ 52
    · refine ⟨g, ?_, by omega, hbelow⟩
      rw [if_neg hover, if_pos hunder, if_neg (by omega)]
      omega
    · refine ⟨g + 1, ?_, by omega, by omega⟩
      rw [if_neg hover, if_neg hunder, if_neg (by omega)]

/-- No float is near a fraction above `10 ^ 400`. -/
theorem ratioBits_eq_none (hden : 0 < den) (h : 10 ^ 400 * den ≤ num) : ratioBits num den = none := by
  have hlarge : 2 ^ 1328 * den ≤ num := (Nat.mul_le_mul_right den two_pow_le_ten_pow).trans h
  have hnum : num ≠ 0 := by
    rintro rfl
    have := Nat.mul_pos (Nat.two_pow_pos 1328) hden
    omega
  have hlog : den.log2 + 1328 ≤ num.log2 := by
    rw [Nat.le_log2 hnum, pow_add, mul_comm]
    exact (Nat.mul_le_mul_left _ (Nat.log2_self_le hden.ne')).trans hlarge
  obtain ⟨e, he, hhigh, hbits⟩ := lastBit_of_large hnum hden.ne' hlog
  have hround : 2 ^ 52 ≤ roundDiv num (den * 2 ^ e) := hbits.trans (div_le_roundDiv _ _)
  unfold ratioBits
  rw [if_neg (by simpa using hnum)]
  dsimp only
  rw [he, inUnits, if_pos (Int.natCast_nonneg e), Int.toNat_natCast]
  simp only [Nat.pow_eq]
  by_cases htop : roundDiv num (den * 2 ^ e) = 2 ^ 53
  · rw [if_pos (beq_iff_eq.2 htop)]
    dsimp only
    rw [if_neg (Nat.lt_irrefl _), if_pos (by omega)]
  · rw [if_neg fun heq => htop (beq_iff_eq.1 heq)]
    dsimp only
    rw [if_neg (Nat.not_lt.2 hround), if_pos (by omega)]

/-- The last bit of a float near a small fraction is the least one there is. -/
theorem lastBit_of_small (h : num.log2 + 1328 ≤ den.log2) : lastBit num den = -((1074 : Nat) : Int) := by
  unfold lastBit
  dsimp only
  split_ifs <;> omega

theorem inUnits_neg {i : Nat} (hi : 0 < i) : inUnits num den (-(i : Int)) = (num * Nat.pow 2 i, den) := by
  rw [inUnits, if_neg (by omega), Int.neg_neg, Int.toNat_natCast]

/-- The float nearest to a fraction below `10 ^ -400` is zero. -/
theorem ratioBits_eq_zero (h : num * 10 ^ 400 < den) : ratioBits num den = some 0 := by
  unfold ratioBits
  by_cases hnum : num = 0
  · rw [if_pos (by simpa using hnum)]
  have hsmall : num * 2 ^ 1328 < den := (Nat.mul_le_mul_left num two_pow_le_ten_pow).trans_lt h
  have hlog : num.log2 + 1328 ≤ den.log2 := by
    rw [Nat.le_log2 (by omega), pow_add]
    exact (Nat.mul_le_mul_right _ (Nat.log2_self_le hnum)).trans hsmall.le
  have hround := roundDiv_eq_zero (show 1074 < 1328 by decide) hsmall
  rw [if_neg (by simpa using hnum)]
  dsimp only
  rw [lastBit_of_small hlog, inUnits_neg (show 0 < 1074 by decide)]
  dsimp only
  rw [hround]
  rfl

/-! ## Decimals -/

variable {negative : Bool} {ds : List Char} {e : Int}

theorem digitsValue_dropLeadingZeros (ds : List Char) : digitsValue (dropLeadingZeros ds) = digitsValue ds := by
  induction ds with
  | nil => rfl
  | cons c ds ih =>
    unfold dropLeadingZeros
    rw [List.dropWhile_cons]
    split_ifs with hzero
    · rw [digitsValue_cons, beq_iff_eq.1 hzero, Option.getD_some, Nat.zero_mul, Nat.zero_add]
      exact ih
    · rfl

/-- Leading zeros change nothing. -/
theorem ofDecimal_zero {z : Char} (hz : digitValue? z = some 0) :
    ofDecimal negative (z :: ds) e = ofDecimal negative ds e := by
  have hvalue : digitsValue (z :: ds) = digitsValue ds := by
    rw [digitsValue_cons, hz, Option.getD_some, Nat.zero_mul, Nat.zero_add]
  have hdrop : dropLeadingZeros (z :: ds) = dropLeadingZeros ds :=
    List.dropWhile_cons_of_pos (by rw [hz]; rfl)
  rw [ofDecimal, ofDecimal, hvalue, hdrop]

/-- A number other than zero is bounded by the number of its digits, leading zeros not counted. -/
theorem exists_magnitude (hds : ∀ c ∈ ds, isDigit c = true) (hn : digitsValue ds ≠ 0) :
    ∃ k, (dropLeadingZeros ds).length = k + 1 ∧ 10 ^ k ≤ digitsValue ds ∧ digitsValue ds < 10 ^ (k + 1) := by
  rw [← digitsValue_dropLeadingZeros] at hn ⊢
  cases hfirst : dropLeadingZeros ds with
  | nil =>
    rw [hfirst] at hn
    exact absurd rfl hn
  | cons c rest =>
    have hmem : c ∈ dropLeadingZeros ds := hfirst ▸ List.mem_cons_self
    have hzero : digitValue? c ≠ some 0 := by
      have := List.head?_dropWhile_not (fun c => digitValue? c == some 0) ds
      rw [← dropLeadingZeros, hfirst] at this
      simpa using this
    exact ⟨rest.length, List.length_cons,
      le_digitsValue (hds c ((List.dropWhile_sublist _).subset hmem)) hzero, digitsValue_lt _⟩

/-- The float of a decimal is the one nearest to the fraction that it denotes, for numbers of every magnitude. -/
theorem ofDecimal_eq (hds : ∀ c ∈ ds, isDigit c = true) :
    ofDecimal negative ds e = ofRatio negative (digitsValue ds * 10 ^ e.toNat) (10 ^ (-e).toNat) := by
  unfold ofDecimal
  dsimp only
  by_cases hn : digitsValue ds = 0
  · rw [if_pos (by simpa using hn), hn, Nat.zero_mul]
    rfl
  rw [if_neg (by simpa using hn)]
  obtain ⟨k, hk, hlow, hhigh⟩ := exists_magnitude hds hn
  rw [hk]
  by_cases hlarge : 400 < e + ((k + 1 : Nat) : Int)
  · rw [if_pos hlarge, ofRatio, ofRatio?, ratioBits_eq_none (Nat.pow_pos (by omega)) ?_]
    · rfl
    · calc 10 ^ 400 * 10 ^ (-e).toNat = 10 ^ (400 + (-e).toNat) := (pow_add _ _ _).symm
        _ ≤ 10 ^ (k + e.toNat) := Nat.pow_le_pow_right (by omega) (by omega)
        _ = 10 ^ k * 10 ^ e.toNat := pow_add _ _ _
        _ ≤ digitsValue ds * 10 ^ e.toNat := Nat.mul_le_mul_right _ hlow
  rw [if_neg hlarge]
  by_cases hsmall : e + ((k + 1 : Nat) : Int) < -400
  · have hplaces : k + 1 + e.toNat + 400 ≤ (-e).toNat := by omega
    rw [if_pos hsmall, ofRatio, ofRatio?, ratioBits_eq_zero ?_]
    · rfl
    · calc digitsValue ds * 10 ^ e.toNat * 10 ^ 400
          < 10 ^ (k + 1) * 10 ^ e.toNat * 10 ^ 400 := by
            exact Nat.mul_lt_mul_of_pos_right
              (Nat.mul_lt_mul_of_pos_right hhigh (by positivity)) (by positivity)
        _ = 10 ^ (k + 1 + e.toNat + 400) := by rw [← pow_add, ← pow_add]
        _ ≤ 10 ^ (-e).toNat := Nat.pow_le_pow_right (by omega) hplaces
  rw [if_neg hsmall]
  by_cases he : 0 ≤ e
  · rw [if_pos he, show (-e).toNat = 0 by omega]
    rfl
  · rw [if_neg he, show e.toNat = 0 by omega, pow_zero, Nat.mul_one]
    rfl

end Decimal

end TemplateTree
