import Runbook.Proofs.Json.Numeral
import Runbook.Proofs.Number.Shortest
/-!
# The text of a double

A double is written by its shortest digits and is read back in two roundings and a multiplication or
division, so it may come back as another one.  This module says that it always comes back as some
double: the detour does not leave the range of doubles.

## Main statements

* `Json.powerOfTen_spec`: the powers of ten by which digits are scaled
* `Json.exists_scale?_ofInt`: digits that can be scaled
* `Json.number_positional`, `Json.number_scientific`: the digits and the power that are read
* `Json.exists_numeral?_write`: a double comes back as a double

## Design notes

Three roundings can carry a double up by less than three units of its last bit.  So only the three
greatest doubles could be carried out of the range, and for these the reader is run.
-/

namespace Runbook.Json

open Runbook.Double

/-! ## Scaling by powers of ten -/

/-- The powers of ten up to `10 ^ 308` are doubles, and not far from the doubles nearest to them. -/
theorem powerOfTen_spec {k : Nat} (small : k ≤ 308) :
    (powerOfTen k).Proper ∧ 1 ≤ (powerOfTen k).magnitude ∧
      (powerOfTen k).magnitude ≤ 10 ^ k * (1 + 1 / 2 ^ 53) := by
  have range : ((10 ^ k : ℕ) / (1 : ℕ) : ℚ) < ceiling := by
    have top : 10 ^ 308 < (2 ^ 54 - 1) * 2 ^ 970 := by decide +kernel
    have less := (Nat.pow_le_pow_right (by decide) small).trans_lt top
    rw [Nat.cast_one, div_one, ceiling_eq]
    exact_mod_cast less
  obtain ⟨z, found, proper, value⟩ := exists_ofRatio false one_pos range
  have same : powerOfTen k = z := by
    have early : ¬ (400 : ℤ) < k := by omega
    have late : ¬ (k : ℤ) + (Nat.log2 1 : ℤ) < -1200 := by omega
    simp [powerOfTen, ofDecimal, early, late, found]
  have one : (1 : ℚ) ≤ 10 ^ k := one_le_pow₀ (by norm_num)
  have normal : (2 : ℚ) ^ (minExponent + 52) ≤ (10 ^ k : ℕ) / (1 : ℕ) := by
    rw [Nat.cast_one, div_one, Nat.cast_pow]
    exact le_trans (zpow_le_one_of_nonpos₀ one_le_two (by decide)) one
  have above := nearest_le (10 ^ k) one_pos normal
  have below := le_nearest (10 ^ k) one_pos normal
  rw [same, value]
  refine ⟨proper, ?_, by simpa using above⟩
  -- half of a power of ten is one or more, unless the power is one itself
  rcases Nat.eq_zero_or_pos k with rfl | positive
  · have exact : nearest (10 ^ 0) 1 = (2 ^ 52, -52) := by decide
    rw [exact]
    norm_num
  · refine le_trans ?_ below
    have ten : (10 : ℚ) ≤ 10 ^ k := le_self_pow₀ (by norm_num) positive.ne'
    rw [Nat.cast_one, div_one, Nat.cast_pow]
    push_cast
    linarith

theorem magnitude_powerOfTen_zero : (powerOfTen 0).magnitude = 1 := by
  have one : powerOfTen 0 = ⟨false, 2 ^ 52, -52⟩ := by decide
  rw [one, magnitude]
  norm_num

theorem exists_divide {x : Double} (proper : x.Proper) {k : ℤ} (down : k ≤ 0)
    (near : k.natAbs ≤ 308) :
    ∃ z, (if 0 ≤ k then x.mul (powerOfTen k.natAbs) else x.div (powerOfTen k.natAbs)) = some z ∧
      z.Proper := by
  split
  · obtain rfl : k = 0 := by omega
    refine exists_mul ?_
    rw [Int.natAbs_zero, magnitude_powerOfTen_zero, mul_one]
    exact proper.magnitude_lt
  · exact proper.exists_div (powerOfTen_spec near).2.1

/-- Scaling down stays in the range of doubles. -/
theorem exists_scale?_of_nonpos {fuel : Nat} {x : Double} (proper : x.Proper) {k : ℤ}
    (down : k ≤ 0) (enough : -308 * (fuel + 1 : ℤ) ≤ k) :
    ∃ z, scale? (fuel + 1) x k = some z ∧ z.Proper := by
  induction fuel generalizing x k with
  | zero =>
    have near : k.natAbs ≤ 308 := by omega
    unfold scale?
    rw [if_pos near]
    exact exists_divide proper down near
  | succ fuel ih =>
    -- each round takes off 308 places, so the rounds that are left are enough for the rest
    unfold scale?
    split
    · exact exists_divide proper down ‹_›
    split
    · exact ⟨x, rfl, proper⟩
    rw [if_neg (by omega)]
    obtain ⟨y, found, proper⟩ := proper.exists_div (powerOfTen_spec (le_refl 308)).2.1
    rw [found]
    exact ih proper (by omega) (by push_cast at enough; omega)

/-- The double nearest to a number of 64 bits is in their range. -/
theorem ofInt_proper_of_le {n : ℕ} (fits : n ≤ maxUnsigned) : (ofInt n).Proper := by
  have less : n < (2 ^ 54 - 1) * 2 ^ 970 := fits.trans_lt (by decide +kernel)
  refine ofInt_proper ?_
  rw [Int.natAbs_natCast, ceiling_eq]
  exact_mod_cast less

/-- Scaling a number of 64 bits up to what is less than the greatest double by a few units. -/
theorem exists_scale?_ofInt {n : ℕ} {k : ℤ} (fits : n ≤ maxUnsigned) (low : -1200 ≤ k)
    (small : k ≤ 0 ∨ (n * 10 ^ k : ℚ) ≤ (2 ^ 53 - 7 / 2) * 2 ^ Double.maxExponent) :
    ∃ z, scale? 4 (ofInt n) k = some z ∧ z.Proper := by
  have proper := ofInt_proper_of_le fits
  by_cases down : k ≤ 0
  · exact exists_scale?_of_nonpos proper down (by norm_num; omega)
  replace small := small.resolve_left down
  obtain ⟨k, rfl⟩ := Int.eq_ofNat_of_zero_le (le_of_not_ge down)
  rw [zpow_natCast] at small
  unfold scale?
  split
  · rename_i near
    rw [Int.natAbs_natCast] at near ⊢
    rw [if_pos (by omega)]
    obtain ⟨-, -, power⟩ := powerOfTen_spec near
    refine exists_mul ?_
    calc (ofInt n).magnitude * (powerOfTen k).magnitude
        ≤ (n * (1 + 1 / 2 ^ 53)) * (10 ^ k * (1 + 1 / 2 ^ 53)) :=
          mul_le_mul (magnitude_ofInt_le n) power (powerOfTen k).magnitude_nonneg (by positivity)
      _ = n * 10 ^ k * (1 + 1 / 2 ^ 53) ^ 2 := by ring
      _ ≤ (2 ^ 53 - 7 / 2) * 2 ^ Double.maxExponent * (1 + 1 / 2 ^ 53) ^ 2 :=
          mul_le_mul_of_nonneg_right small (by positivity)
      _ < ceiling := by
        rw [ceiling, mul_right_comm]
        exact mul_lt_mul_of_pos_right (by norm_num) (zpow_pos two_pos _)
  · -- no number but zero can be scaled up by more than 308 places
    rename_i far
    rcases Nat.eq_zero_or_pos n with rfl | positive
    · exact ⟨_, rfl, proper⟩
    · have far : 309 ≤ k := by
        rw [Int.natAbs_natCast] at far
        omega
      have top : (2 ^ 54 - 1) * 2 ^ 970 < 10 ^ 309 := by decide +kernel
      have less : (2 ^ 54 - 1) * 2 ^ 970 < n * 10 ^ k :=
        (top.trans_le (Nat.pow_le_pow_right (by decide) far)).trans_le
          (Nat.le_mul_of_pos_left _ positive)
      have less : ceiling < n * 10 ^ k := by
        rw [ceiling_eq]
        exact_mod_cast less
      refine absurd (less.trans_le small) (not_lt.2 ?_)
      exact mul_le_mul_of_nonneg_right (by norm_num) (zpow_nonneg zero_le_two _)

/-! ## Digits -/

/-- What is taken of some digits is a number of 64 bits, and the number that they write is not less
than what is taken with zeros in place of what is not. -/
theorem takeSignificand_spec (cs : List Char) {n : Nat} (fits : n ≤ maxUnsigned) :
    (takeSignificand n cs).1 ≤ maxUnsigned ∧ (takeSignificand n cs).2 ≤ cs.length ∧
      (takeSignificand n cs).1 * 10 ^ (takeSignificand n cs).2 ≤ Nat.ofDigitChars 10 cs n := by
  induction cs generalizing n with
  | nil => simpa [takeSignificand] using fits
  | cons c cs ih =>
    unfold takeSignificand
    dsimp only
    split
    · rename_i next
      obtain ⟨small, few, below⟩ := ih next
      refine ⟨small, few.trans (Nat.le_succ _), below.trans_eq ?_⟩
      rw [Nat.ofDigitChars_cons, Nat.mul_comm n 10]
      rfl
    · -- from the first digit that does not fit on, zeros are counted in place of digits
      exact ⟨fits, le_refl _, mul_pow_le_ofDigitChars (c :: cs) n⟩

/-! ## Texts of doubles -/

/-- The reader of exponents, on a written one. -/
theorem ending?_exponent (negative : Bool) (n : Nat) (k e : ℤ) (small : e.natAbs ≤ maxExponent) :
    ending? negative n k ('e' :: (if e < 0 then '-' else '+') :: (Nat.repr e.natAbs).toList) =
      (scaled? negative n (k + e)).map (·, []) := by
  have digits := digits_repr e.natAbs
  have run : takeDigits (Nat.repr e.natAbs).toList = ((Nat.repr e.natAbs).toList, []) := by
    simpa using takeDigits_append_of_stops [] digits.2 (by simp)
  have power (down : Bool) : power? negative n k down (Nat.repr e.natAbs).toList =
      (scaled? negative n (if down then k - e.natAbs else k + e.natAbs)).map (·, []) := by
    unfold power?
    rw [run]
    dsimp only
    rw [if_neg (by simp), digitsValue_repr, if_neg (not_lt.2 small)]
  show withExponent? negative n k _ = _
  rw [withExponent?_eq]
  by_cases below : e < 0
  · rw [if_pos below]
    refine (power true).trans ?_
    rw [if_pos rfl, show k - e.natAbs = k + e by omega]
  · rw [if_neg below]
    refine (power false).trans ?_
    rw [if_neg Bool.false_ne_true, show k + e.natAbs = k + e by omega]

/-- A number from after its whole part, on a fraction. -/
theorem afterWhole?_fraction (negative : Bool) {n : Nat} (fits : n ≤ maxUnsigned)
    {fraction exponent : List Char} (digits : Digits fraction) (ends : Exponent exponent) :
    ∃ dropped ≤ fraction.length,
      afterWhole? negative n 0 ('.' :: (fraction ++ exponent)) =
        ending? negative (takeSignificand n fraction).1
          (-(fraction.length - dropped : Nat)) exponent ∧
      (takeSignificand n fraction).1 * 10 ^ dropped ≤ Nat.ofDigitChars 10 fraction n := by
  obtain ⟨-, few, below⟩ := takeSignificand_spec fraction fits
  refine ⟨_, few, ?_, below⟩
  simp only [afterWhole?, takeDigits_append_of_stops _ digits.2 ends.stops]
  rw [if_neg (by simpa using digits.1)]
  simp

/-- A number from its start, on a whole part that fits. -/
theorem number_whole (negative : Bool) {whole tail : List Char} (digits : Digits whole)
    (proper : whole.head? = some '0' → whole = ['0']) (short : whole.length ≤ 19)
    (ends : Tail tail) :
    Nat.ofDigitChars 10 whole 0 ≤ maxUnsigned ∧
      number negative (whole ++ tail) =
        afterWhole? negative (Nat.ofDigitChars 10 whole 0) 0 tail := by
  have fits : Nat.ofDigitChars 10 whole 0 ≤ maxUnsigned := by
    have less := (ofDigitChars_lt digits.2).trans_le (Nat.pow_le_pow_right (by decide) short)
    exact less.le.trans (by decide)
  have leading : (whole.isEmpty || (whole.head? == some '0' && whole.length != 1)) = false := by
    rw [Bool.or_eq_false_iff]
    refine ⟨by simpa using digits.1, ?_⟩
    by_cases zero : whole.head? = some '0'
    · rw [proper zero]
      rfl
    · simp [zero]
  refine ⟨fits, ?_⟩
  rw [number_eq, takeDigits_append_of_stops _ digits.2 ends.stops]
  dsimp only
  rw [leading, takeSignificand_of_le 0 whole fits]
  rfl

/-- A number with a whole part that fits and a fraction is scaled down. -/
theorem number_fraction (negative : Bool) {whole fraction : List Char} (digits : Digits whole)
    (proper : whole.head? = some '0' → whole = ['0']) (short : whole.length ≤ 19)
    (more : Digits fraction) :
    ∃ n ≤ maxUnsigned, ∃ k : ℤ, -fraction.length ≤ k ∧ k ≤ 0 ∧
      number negative (whole ++ '.' :: fraction) = (scaled? negative n k).map (·, []) := by
  have ends : Tail ('.' :: (fraction ++ [])) := .inr ⟨fraction, [], more.2, .inl rfl, rfl⟩
  obtain ⟨fits, read⟩ := number_whole negative digits proper short ends
  obtain ⟨dropped, few, after, -⟩ := afterWhole?_fraction negative fits more (.inl rfl)
  rw [List.append_nil] at read after
  refine ⟨_, (takeSignificand_spec fraction fits).1, _, ?_, ?_, read.trans after⟩ <;> omega

/-- What is written positionally is scaled down. -/
theorem number_positional (negative : Bool) {d : Nat} {k : ℤ} (zero : d = 0 → k = 0)
    (short : k + (Nat.repr d).toList.length ≤ 16) (low : -1000 ≤ k) :
    ∃ n ≤ maxUnsigned, ∃ k' : ℤ, -1200 ≤ k' ∧ k' ≤ 0 ∧
      number negative (positional (Nat.repr d).toList k) =
        (scaled? negative n k').map (·, []) := by
  have digits := digits_repr d
  have leading (front : (Nat.repr d).toList.head? = some '0') : d = 0 ∧ k = 0 :=
    ⟨head?_repr front, zero (head?_repr front)⟩
  have alone (none : d = 0) : (Nat.repr d).toList = ['0'] := none ▸ rfl
  generalize (Nat.repr d).toList = ds at *
  have zeros (n : Nat) : ∀ c ∈ List.replicate n '0', c.isDigit = true :=
    fun c => isDigit_of_mem_replicate
  unfold positional
  split
  · -- zeros come behind the digits
    rename_i above
    have whole : Digits (ds ++ List.replicate k.toNat '0') := digits_append digits (zeros _)
    have more : Digits ['0'] := by simp [Digits]
    have proper (front : (ds ++ List.replicate k.toNat '0').head? = some '0') :
        ds ++ List.replicate k.toNat '0' = ['0'] := by
      obtain ⟨c, rest, rfl⟩ := List.exists_cons_of_ne_nil digits.1
      obtain ⟨rfl, rfl⟩ := leading front
      simp [alone rfl]
    have length : (ds ++ List.replicate k.toNat '0').length ≤ 19 := by
      rw [List.length_append, List.length_replicate]
      omega
    obtain ⟨n, fits, k', low', down, read⟩ := number_fraction negative whole proper length more
    rw [List.length_singleton] at low'
    refine ⟨n, fits, k', by omega, down, ?_⟩
    rw [← read, List.append_assoc]
  dsimp only
  split
  · -- the point comes among the digits
    rename_i below inside
    have whole : Digits (ds.take (ds.length - (-k).toNat)) := by
      refine ⟨?_, fun c member => digits.2 c (List.mem_of_mem_take member)⟩
      rw [Ne, List.take_eq_nil_iff, not_or]
      exact ⟨by omega, digits.1⟩
    have more : Digits (ds.drop (ds.length - (-k).toNat)) := by
      refine ⟨?_, fun c member => digits.2 c (List.mem_of_mem_drop member)⟩
      rw [Ne, List.drop_eq_nil_iff]
      omega
    have proper (front : (ds.take (ds.length - (-k).toNat)).head? = some '0') :
        ds.take (ds.length - (-k).toNat) = ['0'] := by
      rw [List.head?_take, if_neg (by omega)] at front
      exact absurd (leading front).2 (by omega)
    have length : (ds.take (ds.length - (-k).toNat)).length ≤ 19 := by
      rw [List.length_take]
      omega
    obtain ⟨n, fits, k', low', down, read⟩ := number_fraction negative whole proper length more
    rw [List.length_drop] at low'
    exact ⟨n, fits, k', by omega, down, read⟩
  · -- zeros come before the digits
    rename_i below outside
    have whole : Digits ['0'] := by simp [Digits]
    have more : Digits (List.replicate ((-k).toNat - ds.length) '0' ++ ds) := by
      refine ⟨List.append_ne_nil_of_right_ne_nil _ digits.1, ?_⟩
      rw [List.forall_mem_append]
      exact ⟨zeros _, digits.2⟩
    obtain ⟨n, fits, k', low', down, read⟩ :=
      number_fraction negative whole (fun _ => rfl) (by decide) more
    rw [List.length_append, List.length_replicate] at low'
    exact ⟨n, fits, k', by omega, down, read⟩

/-- What is written with an exponent is scaled from digits that write no more. -/
theorem number_scientific (negative : Bool) {d : Nat} {k e : ℤ} (positive : 0 < d)
    (leading : e = k + (Nat.repr d).toList.length - 1) (low : -1000 ≤ k) (high : e ≤ 1000) :
    ∃ n ≤ maxUnsigned, ∃ k' : ℤ, -1200 ≤ k' ∧ (n * 10 ^ k' : ℚ) ≤ d * 10 ^ k ∧
      number negative (scientific (Nat.repr d).toList e) =
        (scaled? negative n k').map (·, []) := by
  have digits := digits_repr d
  have value : Nat.ofDigitChars 10 (Nat.repr d).toList 0 = d := by
    rw [Nat.toList_repr, Nat.ofDigitChars_ten_toDigits]
  have front (zero : (Nat.repr d).toList.head? = some '0') : d = 0 := head?_repr zero
  generalize (Nat.repr d).toList = ds at *
  obtain ⟨first, rest, rfl⟩ := List.exists_cons_of_ne_nil digits.1
  have whole : Digits [first] := ⟨List.cons_ne_nil _ _, by simpa using digits.2 first (by simp)⟩
  have proper (zero : [first].head? = some '0') : [first] = ['0'] := by
    exact absurd (front zero) positive.ne'
  have exponent := exponent_written e
  rw [List.length_cons] at leading
  have small : e.natAbs ≤ maxExponent := by
    have large : 1000 ≤ maxExponent := by decide
    omega
  cases rest with
  | nil =>
    -- a single digit has no fraction after it
    obtain ⟨fits, read⟩ := number_whole negative whole proper (by simp) (.inl exponent)
    refine ⟨_, fits, e, by simp at leading; omega, ?_, ?_⟩
    · rw [value, leading]
      simp
    · refine read.trans ?_
      show ending? negative _ 0 ('e' :: _) = _
      rw [ending?_exponent negative _ _ _ small, zero_add]
  | cons second rest =>
    have more : Digits (second :: rest) :=
      ⟨List.cons_ne_nil _ _, fun c member => digits.2 c (List.mem_cons_of_mem _ member)⟩
    have ends : Tail ('.' :: ((second :: rest) ++
        'e' :: (if e < 0 then '-' else '+') :: (Nat.repr e.natAbs).toList)) :=
      .inr ⟨_, _, more.2, exponent, rfl⟩
    obtain ⟨fits, read⟩ := number_whole negative whole proper (by simp) ends
    obtain ⟨dropped, few, after, below⟩ := afterWhole?_fraction negative fits more exponent
    rw [← Nat.ofDigitChars_append, List.singleton_append, value] at below
    refine ⟨_, (takeSignificand_spec (second :: rest) fits).1,
      -((second :: rest).length - dropped : Nat) + e, by omega, ?_, ?_⟩
    · have shift : -(((second :: rest).length - dropped : Nat) : ℤ) + e = dropped + k := by omega
      rw [shift, zpow_add₀ (by norm_num), ← mul_assoc, zpow_natCast]
      refine mul_le_mul_of_nonneg_right ?_ (zpow_nonneg (by norm_num) k)
      exact_mod_cast below
    · refine (read.trans after).trans ?_
      exact ending?_exponent negative _ _ _ small

theorem exists_scaled? (negative : Bool) {n : ℕ} {k : ℤ} (fits : n ≤ maxUnsigned)
    (low : -1200 ≤ k)
    (small : k ≤ 0 ∨ (n * 10 ^ k : ℚ) ≤ (2 ^ 53 - 7 / 2) * 2 ^ Double.maxExponent) :
    ∃ y : Double, y.Proper ∧ scaled? negative n k = some (double y) := by
  obtain ⟨z, found, proper⟩ := exists_scale?_ofInt fits low small
  refine ⟨if negative then z.neg else z, ?_, ?_⟩
  · split
    · exact proper.neg
    · exact proper
  · rw [scaled?, found]
    rfl

/-- The three greatest doubles are read back as doubles. -/
theorem numeral?_write_greatest (negative : Bool) :
    numeral? (Double.write .compact ⟨negative, 2 ^ 53 - 1, 971⟩) =
        some (double ⟨negative, 2 ^ 53 - 1, 971⟩) ∧
      numeral? (Double.write .compact ⟨negative, 2 ^ 53 - 2, 971⟩) =
        some (double ⟨negative, 2 ^ 53 - 1, 971⟩) ∧
      numeral? (Double.write .compact ⟨negative, 2 ^ 53 - 3, 971⟩) =
        some (double ⟨negative, 2 ^ 53 - 3, 971⟩) := by
  cases negative <;> decide +kernel

/-- The first digit of what is written is worth no more than all of it. -/
theorem leading_le {d : Nat} {k e : ℤ} (positive : 0 < d)
    (leading : e = k + (Nat.repr d).toList.length - 1) : (10 ^ e : ℚ) ≤ d * 10 ^ k := by
  rw [Nat.toList_repr] at leading
  generalize length : (Nat.toDigits 10 d).length = l at leading
  have digits : 10 ^ (l - 1) ≤ d := by
    by_cases single : l - 1 = 0
    · rw [single]
      exact positive
    · refine Nat.not_lt.1 fun less => ?_
      have shorter := (Nat.length_toDigits_le_iff (by decide) (by omega)).2 less
      omega
  have some : 0 < l := length ▸ Nat.length_toDigits_pos
  obtain rfl : e = (l - 1 : ℕ) + k := by omega
  rw [zpow_add₀ (by norm_num), zpow_natCast]
  refine mul_le_mul_of_nonneg_right ?_ (zpow_nonneg (by norm_num) k)
  exact_mod_cast digits

/-- A double is read from digits with a power of ten, however they are written, if they write less
than the greatest doubles. -/
theorem exists_number {d : Nat} {k e : ℤ} (negative : Bool)
    (written : d = 0 ∧ k = 0 ∨ 0 < d ∧ -347 ≤ k ∧ k ≤ 309 ∧
      (d * 10 ^ k : ℚ) ≤ (2 ^ 53 - 7 / 2) * 2 ^ Double.maxExponent)
    (leading : e = k + (Nat.repr d).toList.length - 1) :
    ∃ y : Double, y.Proper ∧ number negative
      (if Style.compact.leastPositional ≤ e ∧ e < Style.compact.firstScientific then
        positional (Nat.repr d).toList k else scientific (Nat.repr d).toList e) =
      some (double y, []) := by
  have scales {n : ℕ} {k' : ℤ} {text : List Char} (fits : n ≤ maxUnsigned) (low : -1200 ≤ k')
      (range : k' ≤ 0 ∨ (n * 10 ^ k' : ℚ) ≤ (2 ^ 53 - 7 / 2) * 2 ^ Double.maxExponent)
      (read : number negative text = (scaled? negative n k').map (·, [])) :
      ∃ y : Double, y.Proper ∧ number negative text = some (double y, []) := by
    obtain ⟨y, proper, found⟩ := exists_scaled? negative fits low range
    refine ⟨y, proper, ?_⟩
    rw [read, found]
    rfl
  split
  · -- what is written positionally is only scaled down, so its size does not matter
    rename_i fixed
    have short : e < 16 := fixed.2
    have zero (none : d = 0) : k = 0 := by omega
    obtain ⟨n, fits, k', low, down, read⟩ :=
      number_positional negative zero (by omega) (by omega)
    exact scales fits low (.inl down) read
  · rename_i floating
    rcases written with ⟨rfl, rfl⟩ | ⟨positive, low, high, below⟩
    · obtain rfl : e = 0 := leading
      exact absurd (by decide) floating
    · have top : (2 ^ 53 - 7 / 2) * 2 ^ Double.maxExponent < (10 : ℚ) ^ (309 : ℤ) := by
        have top : (2 ^ 54 - 1) * 2 ^ 970 < 10 ^ 309 := by decide +kernel
        have less : ceiling < 10 ^ 309 := by
          rw [ceiling_eq]
          exact_mod_cast top
        refine lt_trans ?_ less
        exact mul_lt_mul_of_pos_right (by norm_num) (zpow_pos two_pos _)
      have high : e < 309 := by
        have less := ((leading_le positive leading).trans below).trans_lt top
        rwa [zpow_lt_zpow_iff_right₀ (by norm_num)] at less
      obtain ⟨n, fits, k', low, less, read⟩ :=
        number_scientific negative positive leading (by omega) (by omega)
      exact scales fits low (.inr (less.trans below)) read

/-- A double that is not among the three greatest is written by digits well in their range. -/
theorem below_greatest {x : Double} (proper : x.Proper)
    (lower : ¬ (x.exponent = Double.maxExponent ∧ 2 ^ 53 - 3 ≤ x.mantissa)) :
    ((x.mantissa + 1 / 2) * 2 ^ x.exponent : ℚ) ≤ (2 ^ 53 - 7 / 2) * 2 ^ Double.maxExponent := by
  rcases proper.greatest.lt_or_eq with less | same
  · have half : (2 : ℚ) ^ x.exponent ≤ 2 ^ Double.maxExponent / 2 := by
      rw [le_div_iff₀ two_pos, ← zpow_add_one₀ two_ne_zero]
      exact zpow_le_zpow_right₀ one_le_two less
    have mantissa : (x.mantissa : ℚ) ≤ 2 ^ 53 := by exact_mod_cast proper.mantissa.le
    calc ((x.mantissa + 1 / 2) * 2 ^ x.exponent : ℚ)
        ≤ (2 ^ 53 + 1 / 2) * (2 ^ Double.maxExponent / 2) :=
          mul_le_mul (by linarith) half (zpow_nonneg zero_le_two _) (by norm_num)
      _ = (2 ^ 53 + 1 / 2) / 2 * 2 ^ Double.maxExponent := by ring
      _ ≤ (2 ^ 53 - 7 / 2) * 2 ^ Double.maxExponent :=
          mul_le_mul_of_nonneg_right (by norm_num) (zpow_nonneg zero_le_two _)
  · rw [same]
    have mantissa : x.mantissa + 4 ≤ 2 ^ 53 := by
      have few := Nat.not_le.1 fun large => lower ⟨same, large⟩
      omega
    have mantissa : (x.mantissa + 4 : ℚ) ≤ 2 ^ 53 := by exact_mod_cast mantissa
    exact mul_le_mul_of_nonneg_right (by linarith) (zpow_nonneg zero_le_two _)

/-- **A double comes back as a double.** -/
theorem exists_numeral?_write {x : Double} (proper : x.Proper) :
    ∃ y : Double, y.Proper ∧ numeral? (x.write .compact) = some (double y) := by
  by_cases lower : x.exponent = Double.maxExponent ∧ 2 ^ 53 - 3 ≤ x.mantissa
  · -- the bounds are too coarse for the greatest doubles, and these are read one by one
    obtain ⟨negative, mantissa, exponent⟩ := x
    obtain ⟨rfl, large⟩ : exponent = Double.maxExponent ∧ 2 ^ 53 - 3 ≤ mantissa := lower
    have small : mantissa < 2 ^ 53 := proper.mantissa
    obtain ⟨first, second, third⟩ := numeral?_write_greatest negative
    obtain rfl | rfl | rfl :
        mantissa = 2 ^ 53 - 1 ∨ mantissa = 2 ^ 53 - 2 ∨ mantissa = 2 ^ 53 - 3 := by omega
    · exact ⟨_, proper, first⟩
    · have greatest : Proper ⟨negative, 2 ^ 53 - 1, 971⟩ :=
        ⟨by norm_num, proper.least, proper.greatest⟩
      exact ⟨_, greatest, second⟩
    · exact ⟨_, proper, third⟩
  have written : x.shortest.1 = 0 ∧ x.shortest.2 = 0 ∨ 0 < x.shortest.1 ∧ -347 ≤ x.shortest.2 ∧
      x.shortest.2 ≤ 309 ∧
      (x.shortest.1 * 10 ^ x.shortest.2 : ℚ) ≤ (2 ^ 53 - 7 / 2) * 2 ^ Double.maxExponent := by
    rcases shortest_spec proper with zero | ⟨positive, low, high, less⟩
    · exact .inl (Prod.mk.inj zero)
    · exact .inr ⟨positive, low, high, less.trans (below_greatest proper lower)⟩
  unfold Double.write
  generalize x.shortest = digits at written ⊢
  obtain ⟨d, k⟩ := digits
  dsimp only at written ⊢
  obtain ⟨y, proper, read⟩ := exists_number x.negative written rfl
  refine ⟨y, proper, ?_⟩
  split
  · rename_i negative
    rw [negative] at read
    rw [numeral?, read]
    rfl
  · rename_i positive
    rw [Bool.not_eq_true] at positive
    rw [positive] at read
    rw [(magnitude_ite _ d k _).numeral?_eq, read]
    rfl

end Runbook.Json
