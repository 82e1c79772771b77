import Runbook.Number.Digits
import Runbook.Proofs.Text.Pieces

/-!
# Values of digit runs

Numbers are written by their decimal digits everywhere, with zeros in front or with something behind
them.  This module relates the value of a run of digits to the one of the standard library and says
where a run ends.

## Main statements

* `digitsValue_repr`: the digits of a number write the number
* `ofDigitChars_lt`: so many digits write a number below that power of ten
* `takeDigits_append_of_stops`: a run of digits ends where no digit follows
-/

namespace Runbook

-- The core library's powers, also where another library declares powers of its own.
attribute [local instance (high)] instPowNat

theorem digitsValue_eq (cs : List Char) : digitsValue cs = Nat.ofDigitChars 10 cs 0 := by
  have step (cs : List Char) (n : Nat) :
      cs.foldl (fun n c => n * 10 + digitValue c) n = Nat.ofDigitChars 10 cs n := by
    induction cs generalizing n with
    | nil =>
      rw [Nat.ofDigitChars_nil]
      rfl
    | cons c cs ih =>
      rw [Nat.ofDigitChars_cons, List.foldl_cons, ih, Nat.mul_comm n 10]
      rfl
  exact step cs 0

theorem digitsValue_repr (n : Nat) : digitsValue (Nat.repr n).toList = n := by
  rw [digitsValue_eq, Nat.toList_repr, Nat.ofDigitChars_ten_toDigits]

theorem mul_pow_le_ofDigitChars (cs : List Char) (n : Nat) :
    n * 10 ^ cs.length ≤ Nat.ofDigitChars 10 cs n := by
  rw [Nat.ofDigitChars_eq_ofDigitChars_zero, Nat.mul_comm]
  exact Nat.le_add_right _ _

theorem le_ofDigitChars (cs : List Char) (n : Nat) : n ≤ Nat.ofDigitChars 10 cs n :=
  Nat.le_trans (Nat.le_mul_of_pos_right n (Nat.pow_pos (n := cs.length) (by decide)))
    (mul_pow_le_ofDigitChars cs n)

theorem ofDigitChars_lt {cs : List Char} (digits : ∀ c ∈ cs, c.isDigit = true) :
    Nat.ofDigitChars 10 cs 0 < 10 ^ cs.length := by
  induction cs with
  | nil => simp
  | cons c cs ih =>
    rw [List.forall_mem_cons] at digits
    have less := ih digits.2
    have nine : c.toNat - '0'.toNat ≤ 9 := by
      have high := (Char.isDigit_iff_toNat.1 digits.1).2
      simpa using high
    have step := Nat.mul_le_mul_left (10 ^ cs.length) nine
    rw [Nat.ofDigitChars_cons, Nat.ofDigitChars_eq_ofDigitChars_zero, List.length_cons,
      Nat.pow_succ, Nat.mul_zero, Nat.zero_add]
    omega

/-- A number that is written by digits has no zero in front, unless it is zero. -/
theorem head?_toDigits (n : Nat) (zero : (Nat.toDigits 10 n).head? = some '0') :
    n = 0 := by
  induction n using Nat.strongRecOn with
  | ind n ih =>
    by_cases small : n < 10
    · rw [Nat.toDigits_of_lt_base small] at zero
      have all : ∀ n < 10, [n.digitChar].head? = some '0' → n = 0 := by decide
      exact all n small zero
    · have large : 10 ≤ n := Nat.not_lt.1 small
      have front : (Nat.toDigits 10 (n / 10)).head? = some '0' := by
        obtain ⟨c, more, same⟩ := List.exists_cons_of_ne_nil (Nat.toDigits_ne_nil (n := n / 10)
          (b := 10))
        rw [Nat.toDigits_of_base_le (by decide) large, same] at zero
        rw [same]
        exact zero
      have none := ih (n / 10) (by omega) front
      omega

theorem head?_repr {d : Nat} (zero : (Nat.repr d).toList.head? = some '0') : d = 0 := by
  rw [Nat.toList_repr] at zero
  exact head?_toDigits d zero

theorem isDigit_of_mem_repr {n : Nat} {c : Char} (member : c ∈ (Nat.repr n).toList) :
    c.isDigit = true := by
  rw [Nat.toList_repr] at member
  exact Nat.isDigit_of_mem_toDigits (by decide) (by decide) member

/-- Zeros are digits. -/
theorem isDigit_of_mem_replicate {n : Nat} {c : Char} (member : c ∈ List.replicate n '0') :
    c.isDigit = true := by
  rw [(List.mem_replicate.1 member).2]
  rfl

/-- A run of digits ends where no digit follows. -/
theorem takeDigits_append_of_stops {cs : List Char} (tail : List Char)
    (digits : ∀ c ∈ cs, c.isDigit = true) (stops : ∀ c ∈ tail.head?, c.isDigit = false) :
    takeDigits (cs ++ tail) = (cs, tail) := by
  have ends := Text.span_of_stops tail digits stops
  rw [takeDigits, ends.1, ends.2]

end Runbook
