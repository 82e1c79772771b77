import Runbook.Number.Notation

/-!
# A fixed number of significant digits

A double rounded to a number of significant digits, a half away from zero, with the zeros at the
end dropped.  Small exponents are written positionally, always with a digit after the point; the
others with an exponent of at least two digits.

## Main definitions

* `Double.significant`: the digits and the power of ten they are counted in
* `Double.renderSignificant`: the text
-/

namespace Runbook.Double

-- The core library's powers, also where another library declares powers of its own.
attribute [local instance (high)] instPowNat

/-- A quotient rounded to the nearest natural number, a half upwards. -/
def roundHalfUp (num den : Nat) : Nat := (2 * num + den) / (2 * den)

/-- The magnitude of a double as a quotient. -/
def ratio (x : Double) : Nat × Nat :=
  if 0 ≤ x.exponent then (x.mantissa * 2 ^ x.exponent.toNat, 1)
  else (x.mantissa, 2 ^ (-x.exponent).toNat)

/-- The quotient in units of a power of ten, rounded. -/
def inUnits (num den : Nat) (k : Int) : Nat :=
  if 0 ≤ k then roundHalfUp num (den * 10 ^ k.toNat) else roundHalfUp (num * 10 ^ (-k).toNat) den

/-- Look for the power of ten in whose units the rounded quotient has at most `n` digits, from `k`
upwards. -/
def fitDigits (n num den : Nat) : Nat → Int → Nat × Int
  | 0, k => (inUnits num den k, k)
  | fuel + 1, k =>
    let d := inUnits num den k
    if d < 10 ^ n then (d, k) else fitDigits n num den fuel (k + 1)

/-- Drop the zeros at the end of a number. -/
def dropZeros : Nat → Nat × Int → Nat × Int
  | 0, d => d
  | fuel + 1, (d, k) => if d ≠ 0 ∧ d % 10 = 0 then dropZeros fuel (d / 10, k + 1) else (d, k)

/-- The magnitude of `x` rounded to `n` significant digits, with its power of ten.  The search for
the power starts below the double and goes up a few steps. -/
def significant (n : Nat) (x : Double) : Nat × Int :=
  if x.mantissa = 0 then (0, 0)
  else
    let (num, den) := x.ratio
    let bits : Int := x.mantissa.log2 + x.exponent
    let low := bits * 30103 / 100000 - n - 1
    dropZeros n (fitDigits n num den 8 low)

/-- The text of a double with fifteen significant digits. -/
def renderSignificant (x : Double) : String :=
  let (d, k) := x.significant 15
  let digits := (Nat.repr d).toList
  let e := k + digits.length - 1
  let magnitude :=
    if d = 0 then ['0', '.', '0']
    else if -4 ≤ e ∧ e ≤ 14 then positional digits k
    else
      let fraction := match digits with
        | first :: [] => [first, '.', '0']
        | first :: rest => first :: '.' :: rest
        | [] => []
      let exponent := (Nat.repr e.natAbs).toList
      fraction ++ 'e' :: (if e < 0 then '-' else '+') ::
        (List.replicate (2 - exponent.length) '0' ++ exponent)
  String.ofList (if x.negative ∧ d ≠ 0 then '-' :: magnitude else magnitude)

end Runbook.Double
