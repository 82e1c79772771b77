import Runbook.Proofs.Number.Rounding

/-!
# Order of doubles

Doubles are ordered by the numbers that they stand for.  An integer is compared by the double
nearest to it, and rounding to a double keeps the order: it may make two integers equal, but never
turns them round.  Two integers are rounded in the same unit, and then rounding to a whole number of
units is monotone, or in different ones, and then a power of two that is a double stands between
them.

## Main definitions

* `Double.value`: the number that a double stands for

## Main statements

* `Double.cmp_eq`: doubles are ordered by their values
* `Double.value_ofInt_mono`: rounding keeps the order of integers
* `Double.value_ofInt_of_le`: the integers up to `2 ^ 53` are doubles
* `Double.abs_value_ofInt_sub_le`: how far a 64-bit integer is from its double
-/

namespace Runbook.Double

/-- The number that a double stands for. -/
def value (x : Double) : ℚ := x.signed * 2 ^ x.exponent

/-- **Doubles are ordered by their values.** -/
theorem cmp_eq (x y : Double) : x.cmp y = compare x.value y.value := by
  -- both values are whole numbers of the smaller of the two units
  have whole (z : Double) (low : min x.exponent y.exponent ≤ z.exponent) :
      ((z.signed * 2 ^ (z.exponent - min x.exponent y.exponent).toNat : ℤ) : ℚ) *
        2 ^ min x.exponent y.exponent = z.value := by
    obtain ⟨k, same⟩ := Int.eq_ofNat_of_zero_le (sub_nonneg.2 low)
    rw [value, same, Int.toNat_natCast, ← sub_add_cancel z.exponent (min x.exponent y.exponent),
      same, zpow_add₀ two_ne_zero, zpow_natCast]
    push_cast
    ring
  have scaled : StrictMono fun n : ℤ => (n : ℚ) * 2 ^ min x.exponent y.exponent :=
    fun _ _ less => mul_lt_mul_of_pos_right (by exact_mod_cast less) (zpow_pos two_pos _)
  rw [← whole x (min_le_left _ _), ← whole y (min_le_right _ _), ← cmp_eq_compare]
  exact (cmp_eq_compare _ _).symm.trans (scaled.cmp_map_eq _ _).symm

/-! ## Rounding keeps the order -/

theorem roundHalfEven_mono {num num' den : Nat} (positive : 0 < den) (le : num ≤ num') :
    roundHalfEven num den ≤ roundHalfEven num' den := by
  by_contra turned
  have above := (roundHalfEven_half num positive).1
  have below := (roundHalfEven_half num' positive).2
  have apart := Nat.mul_le_mul_right den (Nat.succ_le_of_lt (Nat.not_le.1 turned))
  rw [Nat.succ_mul] at apart
  -- the two quotients could only be the same one, half way between two whole numbers
  obtain rfl : num = num' := by omega
  exact turned (le_refl _)

theorem roundAt_mono {num num' : Nat} (le : num ≤ num') (e : ℤ) :
    roundAt num 1 e ≤ roundAt num' 1 e := by
  unfold roundAt
  split
  · refine roundHalfEven_mono ?_ le
    rw [Nat.shiftLeft_eq]
    positivity
  · rw [Nat.shiftLeft_eq, Nat.shiftLeft_eq]
    exact roundHalfEven_mono one_pos (Nat.mul_le_mul_right _ le)

/-- The unit that a positive integer is rounded to, in which it has fifty three bits, and the number
of units that it is rounded to. -/
theorem exists_rounding {n : Nat} (positive : 0 < n) :
    ∃ e : ℤ, (2 : ℚ) ^ (e + 52) ≤ n ∧ (n : ℚ) < 2 ^ (e + 53) ∧
      (2 ^ 52 ≤ roundAt n 1 e ∧ roundAt n 1 e ≤ 2 ^ 53) ∧
      (ofInt n).magnitude = roundAt n 1 e * 2 ^ e := by
  have two : (2 : ℚ) ≠ 0 := two_ne_zero
  have one : (1 : ℚ) ≤ n := by exact_mod_cast positive
  have whole : ((n : ℕ) / (1 : ℕ) : ℚ) = n := by rw [Nat.cast_one, div_one]
  have normal : (2 : ℚ) ^ (minExponent + 52) ≤ (n : ℕ) / (1 : ℕ) := by
    rw [whole]
    exact (zpow_le_one_of_nonpos₀ one_le_two (by decide)).trans one
  obtain ⟨e, low, high, same⟩ := exists_unit_of_normal one_pos normal
  have unit : (0 : ℚ) < 2 ^ e := zpow_pos two_pos e
  have above := le_roundAt n one_pos e
  have below := roundAt_le n one_pos e
  rw [whole] at low high above below
  have least : 2 ^ 52 ≤ roundAt n 1 e := by
    have units : (2 ^ 52 : ℚ) ≤ n / 2 ^ e := by
      rw [le_div_iff₀ unit]
      rwa [add_comm, zpow_add₀ two] at low
    have less : ((2 ^ 52 : ℕ) : ℚ) < (roundAt n 1 e + 1 : ℕ) := by
      push_cast
      linarith
    exact Nat.le_of_lt_succ (by exact_mod_cast less)
  have most : roundAt n 1 e ≤ 2 ^ 53 := by
    have units : (n / 2 ^ e : ℚ) < 2 ^ 53 := by
      rw [div_lt_iff₀ unit]
      rwa [add_comm, zpow_add₀ two] at high
    have less : (roundAt n 1 e : ℚ) < (2 ^ 53 + 1 : ℕ) := by
      push_cast
      linarith
    exact Nat.le_of_lt_succ (by exact_mod_cast less)
  refine ⟨e, low, high, ⟨least, most⟩, ?_⟩
  show ((nearest n 1).1 : ℚ) * 2 ^ (nearest n 1).2 = _
  rw [same]
  split
  · rfl
  · -- the mantissa that does not fit is the next power of two
    obtain full : roundAt n 1 e = 2 ^ 53 := by omega
    rw [full, zpow_add_one₀ two]
    push_cast
    ring

/-- Rounding keeps the order of positive integers. -/
theorem magnitude_ofInt_mono {n m : Nat} (positive : 0 < n) (le : n ≤ m) :
    (ofInt n).magnitude ≤ (ofInt m).magnitude := by
  obtain ⟨e, low, -, ⟨-, most⟩, same⟩ := exists_rounding positive
  obtain ⟨e', -, high', ⟨least', -⟩, same'⟩ := exists_rounding (positive.trans_le le)
  have le' : (n : ℚ) ≤ m := by exact_mod_cast le
  have units : e ≤ e' := by
    have less := (low.trans le').trans_lt high'
    rw [zpow_lt_zpow_iff_right₀ one_lt_two] at less
    omega
  have unit : (0 : ℚ) < 2 ^ e := zpow_pos two_pos e
  rw [same, same']
  rcases units.eq_or_lt with rfl | less
  · exact mul_le_mul_of_nonneg_right (by exact_mod_cast roundAt_mono le e) unit.le
  · -- the greatest double of the smaller unit is at most the least one of the greater unit
    have most : (roundAt n 1 e : ℚ) ≤ 2 ^ 53 := by exact_mod_cast most
    have least' : (2 ^ 52 : ℚ) ≤ roundAt m 1 e' := by exact_mod_cast least'
    calc (roundAt n 1 e : ℚ) * 2 ^ e ≤ 2 ^ 53 * 2 ^ e :=
          mul_le_mul_of_nonneg_right most unit.le
      _ = 2 ^ 52 * 2 ^ (e + 1) := by rw [zpow_add_one₀ two_ne_zero]; ring
      _ ≤ 2 ^ 52 * 2 ^ e' :=
          mul_le_mul_of_nonneg_left (zpow_le_zpow_right₀ one_le_two (by omega)) (by norm_num)
      _ ≤ roundAt m 1 e' * 2 ^ e' :=
          mul_le_mul_of_nonneg_right least' (zpow_pos two_pos e').le

theorem magnitude_ofInt_zero : (ofInt 0).magnitude = 0 := by
  norm_num [ofInt, magnitude, nearest]

/-- The double of an integer has its sign. -/
theorem value_ofInt (n : ℤ) :
    (ofInt n).value =
      if n < 0 then -(ofInt n.natAbs).magnitude else (ofInt n.natAbs).magnitude := by
  unfold value signed magnitude ofInt
  dsimp only
  rw [Int.natAbs_natCast]
  by_cases negative : n < 0
  · rw [if_pos (decide_eq_true negative), if_pos negative]
    push_cast
    ring
  · rw [if_neg (by simpa using negative), if_neg negative]
    push_cast
    rfl

/-- **Rounding keeps the order of integers.** -/
theorem value_ofInt_mono {a b : ℤ} (le : a ≤ b) : (ofInt a).value ≤ (ofInt b).value := by
  have nonneg (n : ℕ) : 0 ≤ (ofInt n).magnitude := magnitude_nonneg _
  rw [value_ofInt, value_ofInt]
  split
  · split
    · -- of two negative integers the less one is the greater in magnitude
      exact neg_le_neg (magnitude_ofInt_mono (by omega) (by omega))
    · exact (neg_nonpos.2 (nonneg _)).trans (nonneg _)
  · rw [if_neg (by omega)]
    rcases Nat.eq_zero_or_pos a.natAbs with zero | positive
    · rw [zero, Nat.cast_zero, magnitude_ofInt_zero]
      exact nonneg _
    · exact magnitude_ofInt_mono positive (by omega)

/-! ## How far an integer is rounded -/

/-- Nothing is rounded in a unit that measures the integer exactly. -/
theorem roundAt_of_whole {n units : Nat} {e : ℤ} (whole : (n / 2 ^ e : ℚ) = units) :
    roundAt n 1 e = units := by
  have above := le_roundAt n one_pos e
  have below := roundAt_le n one_pos e
  rw [Nat.cast_one, div_one, whole] at above below
  have less : (units : ℚ) < (roundAt n 1 e + 1 : ℕ) := by
    push_cast
    linarith
  have more : (roundAt n 1 e : ℚ) < (units + 1 : ℕ) := by
    push_cast
    linarith
  have less : units < roundAt n 1 e + 1 := by exact_mod_cast less
  have more : roundAt n 1 e < units + 1 := by exact_mod_cast more
  omega

theorem magnitude_ofInt_of_le {n : Nat} (small : n ≤ 2 ^ 53) : (ofInt n).magnitude = n := by
  have two : (2 : ℚ) ≠ 0 := two_ne_zero
  rcases Nat.eq_zero_or_pos n with rfl | positive
  · rw [Nat.cast_zero, magnitude_ofInt_zero, Nat.cast_zero]
  obtain ⟨e, low, -, -, same⟩ := exists_rounding positive
  have unit : (2 : ℚ) ^ e ≠ 0 := (zpow_pos two_pos e).ne'
  -- only `2 ^ 53` itself has a unit greater than one
  obtain ⟨units, whole⟩ : ∃ units : ℕ, (n / 2 ^ e : ℚ) = units := by
    rcases le_or_gt e 0 with fine | coarse
    · obtain ⟨k, negated⟩ := Int.eq_ofNat_of_zero_le (neg_nonneg.2 fine)
      obtain rfl : e = -(k : ℤ) := by omega
      refine ⟨n * 2 ^ k, ?_⟩
      rw [zpow_neg, zpow_natCast, div_inv_eq_mul]
      push_cast
      rfl
    · have least : (2 : ℚ) ^ (53 : ℤ) ≤ 2 ^ (e + 52) := zpow_le_zpow_right₀ one_le_two (by omega)
      have full : (2 ^ 53 : ℕ) ≤ (n : ℚ) := by
        push_cast
        exact_mod_cast least.trans low
      obtain rfl : n = 2 ^ 53 := le_antisymm small (by exact_mod_cast full)
      have most : (2 : ℚ) ^ (e + 52) ≤ 2 ^ (53 : ℤ) := by exact_mod_cast low
      rw [zpow_le_zpow_iff_right₀ one_lt_two] at most
      obtain rfl : e = 1 := by omega
      exact ⟨2 ^ 52, by norm_num⟩
  rw [same, roundAt_of_whole whole, ← whole, div_mul_cancel₀ _ unit]

/-- **The integers up to `2 ^ 53`** are doubles. -/
theorem value_ofInt_of_le {n : ℤ} (small : n.natAbs ≤ 2 ^ 53) : (ofInt n).value = n := by
  rw [value_ofInt, magnitude_ofInt_of_le small]
  split
  · rw [Nat.cast_natAbs, abs_of_neg ‹_›]
    push_cast
    ring
  · rw [Nat.cast_natAbs, abs_of_nonneg (by omega)]

theorem abs_magnitude_ofInt_sub_le {n : Nat} (small : n < 2 ^ 64) :
    |(ofInt n).magnitude - n| ≤ 1024 := by
  rcases Nat.eq_zero_or_pos n with rfl | positive
  · rw [Nat.cast_zero, magnitude_ofInt_zero]
    norm_num
  obtain ⟨e, low, -, -, same⟩ := exists_rounding positive
  have unit : (0 : ℚ) < 2 ^ e := zpow_pos two_pos e
  have fine : (2 : ℚ) ^ e ≤ 2 ^ (11 : ℤ) := by
    have less : (2 : ℚ) ^ (e + 52) < 2 ^ (64 : ℤ) := low.trans_lt (by exact_mod_cast small)
    rw [zpow_lt_zpow_iff_right₀ one_lt_two] at less
    exact zpow_le_zpow_right₀ one_le_two (by omega)
  have above := le_roundAt n one_pos e
  have below := roundAt_le n one_pos e
  rw [Nat.cast_one, div_one] at above below
  rw [sub_le_iff_le_add, div_le_iff₀ unit] at above
  rw [← sub_le_iff_le_add, le_div_iff₀ unit] at below
  norm_num at fine
  rw [same, abs_le]
  constructor <;> linarith

/-- **How far a 64-bit integer is from its double.** -/
theorem abs_value_ofInt_sub_le {n : ℤ} (small : n.natAbs < 2 ^ 64) :
    |(ofInt n).value - n| ≤ 1024 := by
  have near := abs_magnitude_ofInt_sub_le small
  rw [value_ofInt]
  split
  · have size : (n.natAbs : ℚ) = -n := by
      rw [Nat.cast_natAbs, abs_of_neg ‹_›, Int.cast_neg]
    rw [size] at near
    rwa [neg_sub_left, add_comm, abs_neg, ← sub_neg_eq_add]
  · have size : (n.natAbs : ℚ) = n := by
      rw [Nat.cast_natAbs, abs_of_nonneg (by omega)]
    rwa [size] at near

end Runbook.Double
