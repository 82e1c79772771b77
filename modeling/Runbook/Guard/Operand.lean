import Runbook.Guard.Address
import Runbook.Number.Decimal

/-!
# Operands

An operand of a guard is a literal or an address.  The literals are `true`, `false`, decimal
numbers without an exponent, and texts in single or double quotes; there are no escapes in them.

## Main definitions

* `Operand`: a literal value or an address
* `Operand.ofChars`: a written operand
* `Operand.value`: the value of an operand in a context
-/

namespace Runbook.Guard

-- The core library's powers, also where another library declares powers of its own.
attribute [local instance (high)] instPowNat

/-- What stands on one side of a comparison, or alone. -/
inductive Operand where
  | literal (value : Json)
  | address (path : Address)
deriving DecidableEq

namespace Operand

/-- Digits, possibly a sign before them, and possibly a point and digits after them.  The digits
may be those of any script. -/
def isNumeral (cs : List Char) : Bool :=
  let cs := match cs with
    | '-' :: rest => rest
    | rest => rest
  let whole := cs.takeWhile Text.isDigit
  if whole.isEmpty then false
  else
    match cs.dropWhile Text.isDigit with
    | [] => true
    | '.' :: fraction => !fraction.isEmpty && fraction.all Text.isDigit
    | _ => false

/-- The integer of a numeral without a point, if it fits 64 bits. -/
def integer? (d : Decimal) : Option Json :=
  let n : Int := if d.negative then -(d.digits : Int) else d.digits
  if -(2 ^ (63 : Nat)) ≤ n ∧ n < 2 ^ (63 : Nat) then some (.int n) else none

/-- The value of a numeral: an integer if it is written without a point and fits 64 bits, else the
nearest double.  A numeral out of range, or not in ASCII digits, has no value. -/
def numeral? (cs : List Char) : Option Json := do
  let d ← Decimal.ofChars? cs
  if cs.contains '.' then d.toDouble?.map .double
  else
    match integer? d with
    | some value => some value
    | none => d.toDouble?.map .double

/-- The text between two quotes of one kind. -/
def quoted? (mark : Char) : List Char → Option Json
  | first :: second :: rest =>
    if first = mark ∧ (second :: rest).getLast? = some mark then
      some (.str (.ofList (second :: rest).dropLast))
    else none
  | _ => none

/-- The value of a literal. -/
def literal? (cs : List Char) : Option Json :=
  if cs = ['t', 'r', 'u', 'e'] then some (.bool true)
  else if cs = ['f', 'a', 'l', 's', 'e'] then some (.bool false)
  else if isNumeral cs then numeral? cs
  else
    match quoted? '"' cs with
    | some value => some value
    | none => quoted? '\'' cs

/-- A written operand. -/
def ofChars (cs : List Char) : Operand :=
  match literal? cs with
  | some value => literal value
  | none => address (Address.ofChars cs)

/-- The value of an operand; an address that leads nowhere is null. -/
def value (operand : Operand) (context : Json.Object) : Json :=
  match operand with
  | literal v => v
  | address path => (path.find? context).getD .null

end Operand

end Runbook.Guard
