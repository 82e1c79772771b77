/-!
# Doubles

A finite IEEE 754 double is held as a sign, a mantissa and a power of two, so that every operation
on it is exact arithmetic on integers followed by one rounding.  Infinities and NaN are no
doubles here: an operation that leaves the finite range answers `none`.

## Main definitions

* `Double`: sign, mantissa below `2 ^ 53`, exponent at least `-1074`
* `Double.nearest`: the double nearest to a quotient, a tie going to the even mantissa
* `Double.ofRatio`: the same, refusing what is out of range
* `Double.mul`, `Double.div`: one exact operation and one rounding
* `Double.cmp`: the order of the values

## Design notes

`nearest` works on a quotient of natural numbers because every use has one: a decimal text is
`digits * 10 ^ k`, a product of doubles is a product of mantissas with a power of two.  The
exponent is first taken one too small and mended when the rounded mantissa does not fit, so that
no logarithm has to be exact.  The values built here are in normal form: the mantissa is at least
`2 ^ 52` unless the exponent is `-1074`, hence two doubles of equal value and sign are equal.
-/

namespace Runbook

-- The core library's powers, also where another library declares powers of its own.
attribute [local instance (high)] instPowNat

/-- A finite double: `± mantissa * 2 ^ exponent`. -/
structure Double where
  /-- The sign, which also tells the two zeros apart. -/
  negative : Bool
  /-- The significant bits. -/
  mantissa : Nat
  /-- The weight of the last bit. -/
  exponent : Int
deriving DecidableEq, Repr, Inhabited

namespace Double

/-- The least exponent of a double. -/
def minExponent : Int := -1074

/-- The greatest exponent of a double. -/
def maxExponent : Int := 971

/-- The zero of the given sign. -/
def zero (negative : Bool) : Double := ⟨negative, 0, minExponent⟩

/-- A quotient rounded to the nearest natural number, a tie going to the even one. -/
def roundHalfEven (num den : Nat) : Nat :=
  let q := num / den
  let r := num % den
  if 2 * r < den then q
  else if den < 2 * r then q + 1
  else if q % 2 = 0 then q else q + 1

/-- The quotient `num / den` in units of `2 ^ e`, rounded half to even. -/
def roundAt (num den : Nat) (e : Int) : Nat :=
  if 0 ≤ e then roundHalfEven num (den <<< e.toNat)
  else roundHalfEven (num <<< (-e).toNat) den

/-- The mantissa and exponent nearest to `num / den`.  The first guess of the exponent leaves the
mantissa below `2 ^ 55`; it grows by one until the mantissa fits into 53 bits. -/
def nearest (num den : Nat) : Nat × Int :=
  if num = 0 then (0, minExponent)
  else
    let e := max ((num.log2 : Int) - (den.log2 : Int) - 53) minExponent
    let floor := if 0 ≤ e then num / (den <<< e.toNat) else (num <<< (-e).toNat) / den
    let e := if floor < 2 ^ (53 : Nat) then e else e + 1
    let m := roundAt num den e
    if m < 2 ^ (53 : Nat) then (m, e) else (2 ^ (52 : Nat), e + 1)

/-- The double nearest to `num / den`, unless it lies beyond the greatest double. -/
def ofRatio (negative : Bool) (num den : Nat) : Option Double :=
  let (m, e) := nearest num den
  if maxExponent < e then none else some ⟨negative, m, e⟩

/-- The double nearest to an integer. -/
def ofInt (n : Int) : Double :=
  let (m, e) := nearest n.natAbs 1
  ⟨decide (n < 0), m, e⟩

/-- Both zeros are zero. -/
def isZero (x : Double) : Bool := x.mantissa == 0

/-- The mantissa with its sign. -/
def signed (x : Double) : Int := if x.negative then -x.mantissa else x.mantissa

/-- The same value with the other sign. -/
def neg (x : Double) : Double := { x with negative := !x.negative }

/-- The order of the values; the two zeros are equal. -/
def cmp (x y : Double) : Ordering :=
  let e := min x.exponent y.exponent
  compare (x.signed * 2 ^ (x.exponent - e).toNat) (y.signed * 2 ^ (y.exponent - e).toNat)

/-- The product, rounded. -/
def mul (x y : Double) : Option Double :=
  let e := x.exponent + y.exponent
  let m := x.mantissa * y.mantissa
  let negative := x.negative != y.negative
  if 0 ≤ e then ofRatio negative (m <<< e.toNat) 1 else ofRatio negative m (1 <<< (-e).toNat)

/-- The quotient, rounded; the divisor is a positive double. -/
def div (x y : Double) : Option Double :=
  let e := x.exponent - y.exponent
  let negative := x.negative != y.negative
  if 0 ≤ e then ofRatio negative (x.mantissa <<< e.toNat) y.mantissa
  else ofRatio negative x.mantissa (y.mantissa <<< (-e).toNat)

/-- The double nearest to `digits * 10 ^ k`.  A power of ten far outside the range is answered
without being computed. -/
def ofDecimal (negative : Bool) (digits : Nat) (k : Int) : Option Double :=
  if digits = 0 then some (zero negative)
  else if 400 < k then none
  else if k + (digits.log2 : Int) < -1200 then some (zero negative)
  else if 0 ≤ k then ofRatio negative (digits * 10 ^ k.toNat) 1
  else ofRatio negative digits (10 ^ (-k).toNat)

/-- The integer that a double is equal to, if it is one. -/
def toInt? (x : Double) : Option Int :=
  if 0 ≤ x.exponent then some (x.signed * 2 ^ x.exponent.toNat)
  else
    let unit := 2 ^ (-x.exponent).toNat
    if x.mantissa % unit = 0 then some (x.signed / (unit : Int)) else none

@[simp] theorem neg_neg (x : Double) : x.neg.neg = x := by
  simp [neg]

@[simp] theorem isZero_zero (negative : Bool) : (zero negative).isZero = true := rfl

end Double

end Runbook
