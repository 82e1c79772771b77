import Mathlib.Algebra.Order.Field.Basic
import Mathlib.Data.Rat.Cast.Order
import Mathlib.Tactic.Linarith
import Mathlib.Tactic.Positivity
import Mathlib.Tactic.FieldSimp
import Mathlib.Tactic.GCongr
import Mathlib.Tactic.Ring
import Runbook.Number.Double

/-!
# Rounding

A double is nearest to a quotient, and this module says how near, as far as it matters for texts:
rounding adds at most half a unit of the last bit, and what is less than half a unit above the
greatest double is rounded to a double.

## Main definitions

* `Double.Proper`: the mantissa and the exponent are those of a double
* `Double.magnitude`: the absolute value of a double

## Main statements

* `Double.exists_unit`: the unit that a quotient is rounded to
* `Double.nearest_le`, `Double.le_nearest`: how near the nearest double is
* `Double.exists_mul`, `Double.exists_div`: products and quotients in the range of doubles
* `Double.magnitude_ofInt_le`: the double of an integer

## Design notes

`Double.nearest` mends its first guess of the exponent by one bit and the rounded mantissa by
another.  `Double.exists_unit` says once that there is one unit in which the quotient has its
fifty three bits, and what is said about the nearest double is said about that unit.
-/

namespace Runbook.Double

/-! ## Rounding to an integer -/

/-- Rounding changes a quotient by at most a half. -/
theorem roundHalfEven_half (num : Nat) {den : Nat} (positive : 0 < den) :
    2 * (roundHalfEven num den * den) ≤ 2 * num + den ∧
      2 * num ≤ 2 * (roundHalfEven num den * den) + den := by
  have whole := Nat.div_add_mod num den
  have less := Nat.mod_lt num positive
  have up : (num / den + 1) * den = den * (num / den) + den := by
    rw [Nat.add_mul, Nat.one_mul, Nat.mul_comm]
  have down : num / den * den = den * (num / den) := Nat.mul_comm _ _
  unfold roundHalfEven
  dsimp only
  -- the rest decides whether the quotient is rounded up or down
  split
  · rw [down]
    omega
  split
  · rw [up]
    omega
  split
  · rw [down]
    omega
  · rw [up]
    omega

/-- Rounding adds at most a half. -/
theorem roundHalfEven_le (num : Nat) {den : Nat} (positive : 0 < den) :
    (roundHalfEven num den : ℚ) ≤ num / den + 1 / 2 := by
  have half : 2 * ((roundHalfEven num den : ℚ) * den) ≤ 2 * num + den := by
    exact_mod_cast (roundHalfEven_half num positive).1
  have positive : (0 : ℚ) < den := by exact_mod_cast positive
  rw [div_add_div _ _ positive.ne' two_ne_zero, le_div_iff₀ (by positivity)]
  linarith

/-- Rounding takes away at most a half. -/
theorem le_roundHalfEven (num : Nat) {den : Nat} (positive : 0 < den) :
    (num / den - 1 / 2 : ℚ) ≤ roundHalfEven num den := by
  have half : 2 * (num : ℚ) ≤ 2 * ((roundHalfEven num den : ℚ) * den) + den := by
    exact_mod_cast (roundHalfEven_half num positive).2
  have positive : (0 : ℚ) < den := by exact_mod_cast positive
  rw [div_sub_div _ _ positive.ne' two_ne_zero, div_le_iff₀ (by positivity)]
  linarith

/-! ## Rounding to a unit -/

/-- A quotient in units of `2 ^ e` is a quotient again. -/
theorem exists_atUnit (num : Nat) {den : Nat} (positive : 0 < den) (e : ℤ) :
    ∃ n d : Nat, 0 < d ∧ (n / d : ℚ) = num / den / 2 ^ e ∧ roundAt num den e = roundHalfEven n d ∧
      (if 0 ≤ e then num / (den <<< e.toNat) else (num <<< (-e).toNat) / den) = n / d := by
  unfold roundAt
  by_cases above : 0 ≤ e
  · refine ⟨num, den <<< e.toNat, ?_, ?_, if_pos above, if_pos above⟩
    · rw [Nat.shiftLeft_eq]
      positivity
    · obtain ⟨k, rfl⟩ := Int.eq_ofNat_of_zero_le above
      rw [Nat.shiftLeft_eq, div_div]
      push_cast
      rfl
  · refine ⟨num <<< (-e).toNat, den, positive, ?_, if_neg above, if_neg above⟩
    obtain ⟨k, negated⟩ := Int.eq_ofNat_of_zero_le (show 0 ≤ -e by omega)
    obtain rfl : e = -(k : ℤ) := by omega
    rw [negated, Int.toNat_natCast, Nat.shiftLeft_eq, zpow_neg, zpow_natCast, div_inv_eq_mul]
    push_cast
    ring

theorem roundAt_le (num : Nat) {den : Nat} (positive : 0 < den) (e : ℤ) :
    (roundAt num den e : ℚ) ≤ num / den / 2 ^ e + 1 / 2 := by
  obtain ⟨n, d, above, value, same, -⟩ := exists_atUnit num positive e
  rw [same, ← value]
  exact roundHalfEven_le n above

theorem le_roundAt (num : Nat) {den : Nat} (positive : 0 < den) (e : ℤ) :
    (num / den / 2 ^ e - 1 / 2 : ℚ) ≤ roundAt num den e := by
  obtain ⟨n, d, above, value, same, -⟩ := exists_atUnit num positive e
  rw [same, ← value]
  exact le_roundHalfEven n above

/-! ## Rounding to a double -/

/-- A positive integer has its leading bit where its logarithm says. -/
theorem zpow_log2 {n : Nat} (positive : 0 < n) :
    (2 : ℚ) ^ (n.log2 : ℤ) ≤ n ∧ (n : ℚ) < 2 ^ (n.log2 + 1 : ℤ) := by
  constructor
  · rw [zpow_natCast]
    exact_mod_cast Nat.log2_self_le positive.ne'
  · rw [zpow_add_one₀ two_ne_zero, zpow_natCast, ← pow_succ]
    exact_mod_cast Nat.lt_log2_self

/-- A quotient has its leading bit where the logarithms say, or one place lower. -/
theorem zpow_log2_sub {num den : Nat} (nonzero : 0 < num) (positive : 0 < den) :
    (2 : ℚ) ^ ((num.log2 : ℤ) - den.log2 - 1) ≤ num / den ∧
      (num / den : ℚ) < 2 ^ ((num.log2 : ℤ) - den.log2 + 1) := by
  have two : (2 : ℚ) ≠ 0 := two_ne_zero
  have above : (0 : ℚ) < den := by exact_mod_cast positive
  obtain ⟨numLow, numHigh⟩ := zpow_log2 nonzero
  obtain ⟨denLow, denHigh⟩ := zpow_log2 positive
  constructor
  · rw [le_div_iff₀ above]
    calc (2 : ℚ) ^ ((num.log2 : ℤ) - den.log2 - 1) * den
        ≤ 2 ^ ((num.log2 : ℤ) - den.log2 - 1) * 2 ^ (den.log2 + 1 : ℤ) :=
          mul_le_mul_of_nonneg_left denHigh.le (zpow_nonneg zero_le_two _)
      _ = 2 ^ (num.log2 : ℤ) := by rw [← zpow_add₀ two]; congr 1; ring
      _ ≤ num := numLow
  · rw [div_lt_iff₀ above]
    calc (num : ℚ) < 2 ^ (num.log2 + 1 : ℤ) := numHigh
      _ = 2 ^ ((num.log2 : ℤ) - den.log2 + 1) * 2 ^ (den.log2 : ℤ) := by
        rw [← zpow_add₀ two]; congr 1; ring
      _ ≤ 2 ^ ((num.log2 : ℤ) - den.log2 + 1) * den :=
        mul_le_mul_of_nonneg_left denLow (zpow_nonneg zero_le_two _)

/-- The unit that `nearest` rounds to: the quotient has at most fifty three bits in it, and as many
unless it is the least unit. -/
theorem exists_unit {num den : Nat} (nonzero : 0 < num) (positive : 0 < den) :
    ∃ e : ℤ, minExponent ≤ e ∧ (e = minExponent ∨ (2 : ℚ) ^ (e + 52) ≤ num / den) ∧
      (num / den : ℚ) < 2 ^ (e + 53) ∧
      nearest num den =
        if roundAt num den e < 2 ^ 53 then (roundAt num den e, e) else (2 ^ 52, e + 1) := by
  have two : (2 : ℚ) ≠ 0 := two_ne_zero
  obtain ⟨low, high⟩ := zpow_log2_sub nonzero positive
  unfold nearest
  rw [if_neg nonzero.ne']
  dsimp only
  generalize guess : max ((num.log2 : ℤ) - den.log2 - 53) minExponent = g
  obtain ⟨n, d, small, value, -, floor⟩ := exists_atUnit num positive g
  rw [floor]
  have small : (0 : ℚ) < d := by exact_mod_cast small
  have unit : (0 : ℚ) < 2 ^ g := zpow_pos two_pos g
  -- the first guess of the unit is right, or the next greater unit is
  by_cases fits : n / d < 2 ^ 53
  · refine ⟨g, by omega, ?_, ?_, by rw [if_pos fits]⟩
    · rcases max_choice ((num.log2 : ℤ) - den.log2 - 53) minExponent with choice | choice
      · refine .inr ?_
        rw [← guess, choice]
        convert low using 2
        ring
      · exact .inl (guess.symm.trans choice)
    · have less : (n : ℚ) < 2 ^ 53 * d := by
        exact_mod_cast (Nat.div_lt_iff_lt_mul (by exact_mod_cast small)).1 fits
      rw [← div_lt_iff₀ small, value, div_lt_iff₀ unit] at less
      rwa [add_comm, zpow_add₀ two]
  · refine ⟨g + 1, by omega, .inr ?_, ?_, by rw [if_neg fits]⟩
    · have more : (2 ^ 53 * d : ℚ) ≤ n := by
        exact_mod_cast (Nat.le_div_iff_mul_le (by exact_mod_cast small)).1 (Nat.not_lt.1 fits)
      rw [← le_div_iff₀ small, value, le_div_iff₀ unit] at more
      rwa [show g + 1 + 52 = 53 + g by ring, zpow_add₀ two]
    · refine high.trans_le (zpow_le_zpow_right₀ one_le_two ?_)
      omega

/-- From the least double with a full mantissa on, the quotient has fifty three bits. -/
theorem exists_unit_of_normal {num den : Nat} (positive : 0 < den)
    (normal : (2 : ℚ) ^ (minExponent + 52) ≤ num / den) :
    ∃ e : ℤ, (2 : ℚ) ^ (e + 52) ≤ num / den ∧ (num / den : ℚ) < 2 ^ (e + 53) ∧
      nearest num den =
        if roundAt num den e < 2 ^ 53 then (roundAt num den e, e) else (2 ^ 52, e + 1) := by
  have nonzero : 0 < num := by
    refine Nat.pos_of_ne_zero fun zero => ?_
    rw [zero, Nat.cast_zero, zero_div] at normal
    exact absurd normal (not_le.2 (zpow_pos two_pos _))
  obtain ⟨e, -, low, high, same⟩ := exists_unit nonzero positive
  exact ⟨e, low.elim (fun least => least ▸ normal) id, high, same⟩

/-- The mantissa and the exponent of a double. -/
structure Proper (x : Double) : Prop where
  mantissa : x.mantissa < 2 ^ 53
  least : minExponent ≤ x.exponent
  greatest : x.exponent ≤ maxExponent

theorem nearest_proper (num : Nat) {den : Nat} (positive : 0 < den) :
    (nearest num den).1 < 2 ^ 53 ∧ minExponent ≤ (nearest num den).2 := by
  rcases Nat.eq_zero_or_pos num with rfl | nonzero
  · exact ⟨by norm_num [nearest], le_refl _⟩
  · obtain ⟨e, least, -, -, same⟩ := exists_unit nonzero positive
    rw [same]
    split
    · exact ⟨‹_›, least⟩
    · exact ⟨by norm_num, by dsimp only; omega⟩

/-- The nearest double is at most half a unit of its last bit above the quotient. -/
theorem nearest_le (num : Nat) {den : Nat} (positive : 0 < den)
    (normal : (2 : ℚ) ^ (minExponent + 52) ≤ num / den) :
    ((nearest num den).1 : ℚ) * 2 ^ (nearest num den).2 ≤ num / den * (1 + 1 / 2 ^ 53) := by
  have two : (2 : ℚ) ≠ 0 := two_ne_zero
  obtain ⟨e, low, -, same⟩ := exists_unit_of_normal positive normal
  have unit : (0 : ℚ) < 2 ^ e := zpow_pos two_pos e
  have rounded : (roundAt num den e : ℚ) * 2 ^ e ≤ num / den * (1 + 1 / 2 ^ 53) := by
    have round := roundAt_le num positive e
    rw [← sub_le_iff_le_add, le_div_iff₀ unit] at round
    rw [zpow_add₀ two] at low
    norm_num at low ⊢
    linarith
  rw [same]
  split
  · exact rounded
  · -- the mantissa overflowed, and what comes instead of it is less
    rename_i large
    refine le_trans ?_ rounded
    have large : (2 ^ 53 : ℚ) ≤ roundAt num den e := by exact_mod_cast Nat.not_lt.1 large
    dsimp only
    rw [zpow_add_one₀ two, mul_comm ((2 : ℚ) ^ e), ← mul_assoc]
    refine mul_le_mul_of_nonneg_right ?_ unit.le
    norm_num at large ⊢
    exact large

/-- The nearest double is not less than half the quotient. -/
theorem le_nearest (num : Nat) {den : Nat} (positive : 0 < den)
    (normal : (2 : ℚ) ^ (minExponent + 52) ≤ num / den) :
    (num / den / 2 : ℚ) ≤ (nearest num den).1 * 2 ^ (nearest num den).2 := by
  have two : (2 : ℚ) ≠ 0 := two_ne_zero
  obtain ⟨e, low, high, same⟩ := exists_unit_of_normal positive normal
  have unit : (0 : ℚ) < 2 ^ e := zpow_pos two_pos e
  rw [zpow_add₀ two] at low high
  rw [same]
  split
  · have round := le_roundAt num positive e
    rw [sub_le_iff_le_add, div_le_iff₀ unit] at round
    norm_num at low
    linarith
  · dsimp only
    rw [zpow_add_one₀ two]
    norm_num at high ⊢
    linarith

/-- Half a unit of the last bit above the greatest double. -/
def ceiling : ℚ := (2 ^ 53 - 1 / 2) * 2 ^ maxExponent

theorem ceiling_eq : ceiling = ((2 ^ 54 - 1) * 2 ^ 970 : ℕ) := by
  rw [ceiling, show maxExponent = (970 : ℕ) + 1 from rfl, zpow_add_one₀ two_ne_zero, zpow_natCast]
  push_cast
  ring

/-- A quotient less than half a unit above the greatest double is rounded to a double. -/
theorem nearest_le_maxExponent {num den : Nat} (positive : 0 < den)
    (small : (num / den : ℚ) < ceiling) :
    (nearest num den).2 ≤ maxExponent := by
  have two : (2 : ℚ) ≠ 0 := two_ne_zero
  rcases Nat.eq_zero_or_pos num with rfl | nonzero
  · exact (show minExponent ≤ maxExponent by decide)
  obtain ⟨e, -, low, -, same⟩ := exists_unit nonzero positive
  have high : e ≤ maxExponent := by
    rcases low with rfl | low
    · decide
    · have less : (2 : ℚ) ^ (e + 52) < 2 ^ (maxExponent + 53) := by
        refine low.trans_lt (small.trans ?_)
        rw [ceiling, zpow_add₀ two, mul_comm]
        refine mul_lt_mul_of_pos_left ?_ (zpow_pos two_pos _)
        norm_num
      rw [zpow_lt_zpow_iff_right₀ one_lt_two] at less
      omega
  rw [same]
  split
  · exact high
  · rename_i large
    rcases high.lt_or_eq with less | rfl
    · exact less
    · -- at the greatest exponent the mantissa cannot overflow
      have round := roundAt_le num positive maxExponent
      rw [ceiling, ← div_lt_iff₀ (zpow_pos two_pos _)] at small
      have large : (2 ^ 53 : ℚ) ≤ roundAt num den maxExponent := by
        exact_mod_cast Nat.not_lt.1 large
      linarith

/-! ## Operations -/

/-- The absolute value of a double. -/
def magnitude (x : Double) : ℚ := x.mantissa * 2 ^ x.exponent

theorem magnitude_nonneg (x : Double) : 0 ≤ x.magnitude :=
  mul_nonneg (Nat.cast_nonneg _) (zpow_nonneg zero_le_two _)

theorem Proper.magnitude_lt {x : Double} (proper : x.Proper) : x.magnitude < ceiling := by
  have mantissa : (x.mantissa : ℚ) ≤ 2 ^ 53 - 1 := by
    have mantissa := Nat.le_sub_one_of_lt proper.mantissa
    norm_num at mantissa ⊢
    exact_mod_cast mantissa
  calc x.magnitude ≤ (2 ^ 53 - 1) * 2 ^ maxExponent :=
        mul_le_mul mantissa (zpow_le_zpow_right₀ one_le_two proper.greatest)
          (zpow_nonneg zero_le_two _) (by norm_num)
    _ < ceiling := mul_lt_mul_of_pos_right (by norm_num) (zpow_pos two_pos _)

theorem Proper.neg {x : Double} (proper : x.Proper) : x.neg.Proper :=
  ⟨proper.mantissa, proper.least, proper.greatest⟩

theorem zero_proper (negative : Bool) : (zero negative).Proper :=
  ⟨by norm_num [zero], le_refl _, (show minExponent ≤ maxExponent by decide)⟩

/-- A quotient less than half a unit above the greatest double has a nearest double. -/
theorem exists_ofRatio (negative : Bool) {num den : Nat} (positive : 0 < den)
    (small : (num / den : ℚ) < ceiling) :
    ∃ z, ofRatio negative num den = some z ∧ z.Proper ∧
      z.magnitude = (nearest num den).1 * 2 ^ (nearest num den).2 := by
  have greatest := nearest_le_maxExponent positive small
  obtain ⟨mantissa, least⟩ := nearest_proper num positive
  refine ⟨⟨negative, (nearest num den).1, (nearest num den).2⟩, ?_,
    ⟨mantissa, least, greatest⟩, rfl⟩
  unfold ofRatio
  dsimp only
  rw [if_neg (not_lt.2 greatest)]

/-- The same for a quotient with a power of two, as products and quotients of doubles are. -/
theorem exists_ofRatio_shift (negative : Bool) (a : Nat) {b : Nat} (positive : 0 < b) (e : ℤ)
    (small : (a / b * 2 ^ e : ℚ) < ceiling) :
    ∃ z, (if 0 ≤ e then ofRatio negative (a <<< e.toNat) b
      else ofRatio negative a (b <<< (-e).toNat)) = some z ∧ z.Proper := by
  split
  · rename_i above
    obtain ⟨k, rfl⟩ := Int.eq_ofNat_of_zero_le above
    have value : ((a <<< k : ℕ) / b : ℚ) = a / b * 2 ^ (k : ℤ) := by
      rw [Nat.shiftLeft_eq, zpow_natCast]
      push_cast
      ring
    obtain ⟨z, found, proper, -⟩ := exists_ofRatio negative positive (value ▸ small)
    exact ⟨z, found, proper⟩
  · rename_i below
    obtain ⟨k, negated⟩ := Int.eq_ofNat_of_zero_le (show 0 ≤ -e by omega)
    obtain rfl : e = -(k : ℤ) := by omega
    have value : (a / (b <<< k : ℕ) : ℚ) = a / b * 2 ^ (-(k : ℤ)) := by
      rw [Nat.shiftLeft_eq, zpow_neg, zpow_natCast]
      push_cast
      rw [div_mul_eq_div_div, div_eq_mul_inv _ ((2 : ℚ) ^ k)]
    have positive : 0 < b <<< k := by
      rw [Nat.shiftLeft_eq]
      positivity
    rw [negated, Int.toNat_natCast]
    obtain ⟨z, found, proper, -⟩ := exists_ofRatio negative positive (value ▸ small)
    exact ⟨z, found, proper⟩

/-- A product in the range of doubles has a nearest double. -/
theorem exists_mul {x y : Double}
    (small : x.magnitude * y.magnitude < ceiling) :
    ∃ z, x.mul y = some z ∧ z.Proper := by
  have product : x.magnitude * y.magnitude =
      (x.mantissa * y.mantissa : ℕ) / (1 : ℕ) * 2 ^ (x.exponent + y.exponent) := by
    rw [zpow_add₀ two_ne_zero, magnitude, magnitude]
    push_cast
    ring
  exact exists_ofRatio_shift _ _ one_pos _ (product ▸ small)

/-- A quotient in the range of doubles has a nearest double. -/
theorem exists_div {x y : Double} (positive : 0 < y.mantissa)
    (small : x.magnitude / y.magnitude < ceiling) :
    ∃ z, x.div y = some z ∧ z.Proper := by
  have quotient : x.magnitude / y.magnitude =
      x.mantissa / y.mantissa * 2 ^ (x.exponent - y.exponent) := by
    rw [zpow_sub₀ two_ne_zero, magnitude, magnitude, mul_div_mul_comm]
  exact exists_ofRatio_shift _ _ positive _ (quotient ▸ small)

/-- Dividing by one or more stays in the range of doubles. -/
theorem Proper.exists_div {x y : Double} (proper : x.Proper) (large : 1 ≤ y.magnitude) :
    ∃ z, x.div y = some z ∧ z.Proper := by
  refine Double.exists_div (Nat.pos_of_ne_zero fun zero => ?_) ?_
  · rw [magnitude, zero, Nat.cast_zero, zero_mul] at large
    exact absurd large (by norm_num)
  · exact (div_le_self x.magnitude_nonneg large).trans_lt proper.magnitude_lt

/-- The double nearest to an integer in their range. -/
theorem ofInt_proper {n : ℤ} (small : (n.natAbs : ℚ) < ceiling) :
    (ofInt n).Proper := by
  obtain ⟨mantissa, least⟩ := nearest_proper n.natAbs one_pos
  exact ⟨mantissa, least, nearest_le_maxExponent one_pos (by rwa [Nat.cast_one, div_one])⟩

theorem magnitude_ofInt_le (n : ℕ) : (ofInt n).magnitude ≤ n * (1 + 1 / 2 ^ 53) := by
  rcases Nat.eq_zero_or_pos n with rfl | positive
  · norm_num [ofInt, magnitude, nearest]
  · have one : (1 : ℚ) ≤ n := by exact_mod_cast positive
    have le := nearest_le n one_pos (by
      rw [Nat.cast_one, div_one]
      refine le_trans (zpow_le_one_of_nonpos₀ one_le_two (by decide)) one)
    rwa [Nat.cast_one, div_one] at le

end Runbook.Double
