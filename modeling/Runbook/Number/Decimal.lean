import Runbook.Number.Digits
import Runbook.Number.Double

/-!
# Reading decimal numbers

A decimal number is a run of digits with an optional fraction and an optional power of ten; at
least one digit stands before or after the point.  Its double is the nearest one.

## Main definitions

* `Decimal`: sign, digits and power of ten
* `Decimal.ofChars?`: a whole text as a decimal number
* `Decimal.toDouble?`: the nearest double
-/

namespace Runbook

/-- A decimal number `± digits * 10 ^ exponent`. -/
structure Decimal where
  /-- The sign. -/
  negative : Bool
  /-- All written digits as one number. -/
  digits : Nat
  /-- The power of ten that the last written digit counts. -/
  exponent : Int
deriving DecidableEq, Repr

namespace Decimal

/-- The nearest double, unless the number is too large. -/
def toDouble? (d : Decimal) : Option Double := Double.ofDecimal d.negative d.digits d.exponent

/-- A sign at the front of a text. -/
def takeSign : List Char → Bool × List Char
  | '-' :: rest => (true, rest)
  | '+' :: rest => (false, rest)
  | rest => (false, rest)

/-- The exponent part of a text, which must be all of it. -/
def exponent? : List Char → Option Int
  | [] => some 0
  | c :: rest =>
    if c = 'e' ∨ c = 'E' then
      let (negative, digits) := takeSign rest
      if digits.isEmpty || !digits.all Char.isDigit then none
      else if negative then some (-(digitsValue digits : Int)) else some (digitsValue digits)
    else none

/-- A text without sign as a decimal number: digits, a point and digits, of which one run may be
missing, and an exponent. -/
def unsigned? (negative : Bool) (cs : List Char) : Option Decimal :=
  let (whole, rest) := takeDigits cs
  let (fraction, rest) :=
    match rest with
    | '.' :: rest => takeDigits rest
    | rest => ([], rest)
  if whole.isEmpty && fraction.isEmpty then none
  else (exponent? rest).map fun e =>
    ⟨negative, digitsValue (whole ++ fraction), e - fraction.length⟩

/-- A whole text as a decimal number with an optional sign. -/
def ofChars? (cs : List Char) : Option Decimal :=
  let (negative, rest) := takeSign cs
  unsigned? negative rest

end Decimal

end Runbook
