/-!
# Classes of characters given by ranges

A class of characters is listed as inclusive ranges of code points in increasing order, which is
how the Unicode tables publish it.  Membership walks the list and stops at the first range that
ends at or after the character.

## Main definitions

* `Ranges`: the list of ranges
* `Ranges.contains`: membership of a character
-/

namespace Runbook.Text

/-- Inclusive ranges of code points, in increasing order. -/
abbrev Ranges := List (Nat × Nat)

namespace Ranges

/-- A code point is in the class when some range holds it.  The walk may stop at the first range
whose upper end is not below the code point, because the ranges increase. -/
def containsPoint : Ranges → Nat → Bool
  | [], _ => false
  | (lo, hi) :: rest, n => if n ≤ hi then decide (lo ≤ n) else containsPoint rest n

/-- Membership of a character in the class. -/
def contains (ranges : Ranges) (c : Char) : Bool :=
  ranges.containsPoint c.toNat

@[simp] theorem containsPoint_nil (n : Nat) : containsPoint [] n = false := rfl

end Ranges

end Runbook.Text
