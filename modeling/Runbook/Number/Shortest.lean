import Runbook.Number.Double

/-!
# Shortest digits

The digits by which a double is written are the fewest that read back as the same double, and of
those the nearest to it.  All reals strictly inside half a unit of the last bit read back as the
double; the two ends do so when the mantissa is even, because ties go to the even mantissa.

## Main definitions

* `Double.readBack`: the interval of reals that round to a double
* `Double.shortest?`: the shortest digits with the power of ten they are counted in

## Design notes

A multiple of `10 ^ k` is also a multiple of `10 ^ (k - 1)`, so the grids with a point in the
interval are those up to some greatest `k`, and that `k` leaves the fewest digits.  The search
starts at a power of ten above the double and goes down; on each grid only the two neighbours of
the double have to be tried.
-/

namespace Runbook

-- The core library's powers, also where another library declares powers of its own.
attribute [local instance (high)] instPowNat

/-- The interval of reals that round to a positive double, over a common denominator. -/
structure ReadBack where
  /-- The lower end. -/
  low : Nat
  /-- The double itself. -/
  value : Nat
  /-- The upper end. -/
  high : Nat
  /-- The common denominator. -/
  den : Nat
  /-- Do the ends belong to the interval? -/
  closed : Bool

namespace ReadBack

/-- Does the real `n / den` round to the double? -/
def contains (i : ReadBack) (n : Nat) : Bool :=
  if i.closed then decide (i.low ≤ n ∧ n ≤ i.high) else decide (i.low < n ∧ n < i.high)

/-- The multiple of `10 ^ k` that reads back, the nearer one if both neighbours do. -/
def onGrid (i : ReadBack) (k : Int) : Option Nat :=
  -- in units of `1 / den`, times `10 ^ -k` when that is a whole number
  let scale := 10 ^ (-k).toNat
  let step := i.den * 10 ^ k.toNat
  let fine : ReadBack :=
    { i with low := i.low * scale, value := i.value * scale, high := i.high * scale }
  let below := fine.value / step
  let above := below + 1
  match fine.contains (below * step), fine.contains (above * step) with
  | true, false => some below
  | false, true => some above
  | true, true =>
    if fine.value - below * step ≤ above * step - fine.value then some below else some above
  | false, false => none

/-- The coarsest grid with a hit, among the `fuel` grids from `10 ^ k` down. -/
def search (i : ReadBack) : Nat → Int → Option (Nat × Int)
  | 0, _ => none
  | fuel + 1, k =>
    match i.onGrid k with
    | some digits => some (digits, k)
    | none => search i fuel (k - 1)

end ReadBack

namespace Double

/-- The reals that round to the magnitude of `x`, in quarters of its last bit.  Below a power of
two the doubles are twice as dense, so the lower end is then only a quarter away. -/
def readBack (x : Double) : ReadBack :=
  let v := 4 * x.mantissa
  let gap := if x.mantissa = 2 ^ (52 : Nat) ∧ minExponent < x.exponent then 1 else 2
  let up := 2 ^ (x.exponent - 2).toNat
  { low := (v - gap) * up
    value := v * up
    high := (v + 2) * up
    den := 2 ^ (2 - x.exponent).toNat
    closed := x.mantissa % 2 == 0 }

/-- The shortest digits that read back as the magnitude of `x`, with their power of ten.  The
search begins above `x`, and twenty four grids reach below its seventeenth digit. -/
def shortest (x : Double) : Nat × Int :=
  if x.mantissa = 0 then (0, 0)
  else
    let bits : Int := x.mantissa.log2 + 1 + x.exponent
    let top := bits * 30103 / 100000 + 1
    (x.readBack.search 24 top).getD (0, 0)

end Double

end Runbook
