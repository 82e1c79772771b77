import Runbook.Number.Shortest

/-!
# Decimal notation of doubles

How the shortest digits of a double become a text.  Between `10 ^ -5` and `10 ^ 16` the number is
written positionally with at least one digit after the point; outside, as one digit, the other
digits after the point, and an exponent that always has a sign.

## Main definitions

* `Double.Style`: the decisions of a notation
* `Double.Style.compact`: the notation of compact data texts
* `Double.render`: the text of a double
-/

namespace Runbook.Double

/-- Which powers of ten are written positionally. -/
structure Style where
  /-- The least exponent of the leading digit that is written positionally. -/
  leastPositional : Int
  /-- The first exponent of the leading digit that is not. -/
  firstScientific : Int

/-- Positional from `0.00001` up to, and not including, `10 ^ 16`. -/
def Style.compact : Style := ⟨-5, 16⟩

/-- A digit string written positionally, counted in units of `10 ^ k`. -/
def positional (digits : List Char) (k : Int) : List Char :=
  if 0 ≤ k then digits ++ List.replicate k.toNat '0' ++ ['.', '0']
  else
    let places := (-k).toNat
    if places < digits.length then
      digits.take (digits.length - places) ++ '.' :: digits.drop (digits.length - places)
    else '0' :: '.' :: (List.replicate (places - digits.length) '0' ++ digits)

/-- A digit string written with one digit before the point; `e` is the exponent of that digit. -/
def scientific (digits : List Char) (e : Int) : List Char :=
  let fraction :=
    match digits with
    | first :: [] => [first]
    | first :: rest => first :: '.' :: rest
    | [] => []
  let sign := if e < 0 then '-' else '+'
  fraction ++ 'e' :: sign :: (Nat.repr e.natAbs).toList

/-- The characters of a double in the given form. -/
def write (n : Style) (x : Double) : List Char :=
  let (d, k) := x.shortest
  let digits := (Nat.repr d).toList
  let e := k + digits.length - 1
  let magnitude :=
    if n.leastPositional ≤ e ∧ e < n.firstScientific then positional digits k
    else scientific digits e
  if x.negative then '-' :: magnitude else magnitude

/-- The compact text of a double. -/
def render (x : Double) : String := String.ofList (x.write .compact)

end Runbook.Double
