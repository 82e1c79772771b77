import Runbook.Number.Shortest
import Runbook.Proofs.Number.Rounding
/-!
# The size of shortest digits

The digits by which a double is written read back as the double.  What is needed of that here is how
large the number is that they write, and how large its power of ten.

## Main statements

* `ReadBack.onGrid_bounds`: a multiple that reads back lies in the interval
* `Double.shortest_spec`: the number that the shortest digits write
-/

namespace Runbook

namespace ReadBack

/-- A multiple that reads back lies in the interval. -/
theorem onGrid_bounds {i : ReadBack} {k : ℤ} {digits : Nat} (found : i.onGrid k = some digits) :
    i.low * 10 ^ (-k).toNat ≤ digits * (i.den * 10 ^ k.toNat) ∧
      digits * (i.den * 10 ^ k.toNat) ≤ i.high * 10 ^ (-k).toNat := by
  have inside {j : ReadBack} {n : Nat} (reads : j.contains n = true) : j.low ≤ n ∧ n ≤ j.high := by
    unfold contains at reads
    split at reads
    · exact of_decide_eq_true reads
    · exact (of_decide_eq_true reads).imp Nat.le_of_lt Nat.le_of_lt
  unfold onGrid at found
  dsimp only at found
  split at found
  · rename_i below _
    obtain rfl := Option.some.inj found
    exact inside below
  · rename_i _ above
    obtain rfl := Option.some.inj found
    exact inside above
  · rename_i below above
    split at found
    · obtain rfl := Option.some.inj found
      exact inside below
    · obtain rfl := Option.some.inj found
      exact inside above
  · cases found

theorem search_spec {i : ReadBack} {fuel : Nat} {top : ℤ} {digits : Nat} {k : ℤ}
    (found : i.search fuel top = some (digits, k)) :
    i.onGrid k = some digits ∧ top - fuel < k ∧ k ≤ top := by
  induction fuel generalizing top with
  | zero => cases found
  | succ fuel ih =>
    unfold search at found
    split at found
    · rename_i here
      obtain ⟨rfl, rfl⟩ := Prod.mk.inj (Option.some.inj found)
      exact ⟨here, by omega, le_refl _⟩
    · obtain ⟨grid, low, high⟩ := ih found
      exact ⟨grid, by push_cast; omega, by omega⟩

end ReadBack

namespace Double

theorem zpow_mul_pow_toNat {b : ℚ} (nonzero : b ≠ 0) (k : ℤ) :
    b ^ k * b ^ (-k).toNat = b ^ k.toNat := by
  rcases le_total 0 k with above | below
  · obtain ⟨n, rfl⟩ := Int.eq_ofNat_of_zero_le above
    rw [Int.toNat_eq_zero.2 (by omega), pow_zero, mul_one, zpow_natCast, Int.toNat_natCast]
  · obtain ⟨n, negated⟩ := Int.eq_ofNat_of_zero_le (show 0 ≤ -k by omega)
    obtain rfl : k = -(n : ℤ) := by omega
    rw [negated, Int.toNat_natCast, Int.toNat_eq_zero.2 (by omega), pow_zero, zpow_neg,
      zpow_natCast, inv_mul_cancel₀ (pow_ne_zero n nonzero)]

/-- The digits by which a double is written are none at all for zero, and else they write a positive
number that is at most half a unit of the last bit above the double. -/
theorem shortest_spec {x : Double} (proper : x.Proper) :
    x.shortest = (0, 0) ∨
      0 < x.shortest.1 ∧ -347 ≤ x.shortest.2 ∧ x.shortest.2 ≤ 309 ∧
        (x.shortest.1 * 10 ^ x.shortest.2 : ℚ) ≤ (x.mantissa + 1 / 2) * 2 ^ x.exponent := by
  unfold shortest
  split
  · exact .inl rfl
  rename_i nonzero
  dsimp only
  generalize highest : ((x.mantissa.log2 : ℤ) + 1 + x.exponent) * 30103 / 100000 + 1 = top
  cases found : x.readBack.search 24 top with
  | none => exact .inl rfl
  | some result =>
    obtain ⟨digits, k⟩ := result
    obtain ⟨grid, low, high⟩ := ReadBack.search_spec found
    obtain ⟨above, below⟩ := ReadBack.onGrid_bounds grid
    have log : x.mantissa.log2 < 53 := (Nat.log2_lt nonzero).2 proper.mantissa
    have least : -1074 ≤ x.exponent := proper.least
    have greatest : x.exponent ≤ 971 := proper.greatest
    rw [Option.getD_some]
    refine .inr ⟨?_, by dsimp only; omega, by dsimp only; omega, ?_⟩
    · -- zero is below all that is read back as the double
      refine Nat.pos_of_ne_zero fun (zero : digits = 0) => ?_
      have gap : 0 < x.readBack.low := by
        refine Nat.mul_pos (Nat.sub_pos_of_lt ?_) (Nat.two_pow_pos _)
        split <;> omega
      rw [zero, Nat.zero_mul] at above
      exact absurd (Nat.mul_pos gap (Nat.pow_pos (by decide))) (Nat.not_lt.2 above)
    · -- the grid is one of integers: both sides were multiplied by powers of two and of ten
      have ten := zpow_mul_pow_toNat (b := 10) (by norm_num) k
      have two := zpow_mul_pow_toNat (b := 2) (by norm_num) (x.exponent - 2)
      rw [show -(x.exponent - 2) = 2 - x.exponent by ring] at two
      have below : (digits * (2 ^ (2 - x.exponent).toNat * 10 ^ k.toNat) : ℚ) ≤
          (4 * x.mantissa + 2) * 2 ^ (x.exponent - 2).toNat * 10 ^ (-k).toNat := by
        exact_mod_cast below
      rw [← ten, ← two] at below
      have fine : (0 : ℚ) < 2 ^ (2 - x.exponent).toNat * 10 ^ (-k).toNat := by positivity
      have below : (digits * 10 ^ k : ℚ) ≤ (4 * x.mantissa + 2) * 2 ^ (x.exponent - 2) := by
        refine le_of_mul_le_mul_right ?_ fine
        linarith
      refine below.trans_eq ?_
      rw [zpow_sub₀ two_ne_zero]
      ring

end Double

end Runbook
