import Runbook.Hook.Basic
import Runbook.Number.Decimal
import Runbook.Number.Significant

/-!
# Cells of archive tables

A cell holds nothing, an integer, a real number or a text.  A column prefers one of the last three
and converts what is put into it where that loses nothing.

## Main definitions

* `Cell`: the content of a cell
* `Cell.ofJson`: a data value as a cell
* `Affinity`: what a column prefers
* `Affinity.convert`: a cell as it is stored in a column
-/

namespace Runbook

-- The core library's powers, also where another library declares powers of its own.
attribute [local instance (high)] instPowNat

/-- The content of a cell. -/
inductive Cell where
  | null
  | int (n : Int)
  | real (x : Double)
  /-- A real number beyond the finite ones. -/
  | infinite (negative : Bool)
  | text (s : String)
deriving DecidableEq, Repr, Inhabited

namespace Cell

/-- A real number as a cell; a zero has no sign there. -/
def ofDouble (x : Double) : Cell := real (if x.isZero then .zero false else x)

/-- A data value as a cell: booleans are integers, every number is real, and lists and objects are
their compact text. -/
def ofJson : Json → Cell
  | .null => null
  | .bool b => int (if b then 1 else 0)
  | .int n => ofDouble (.ofInt n)
  | .double x => ofDouble x
  | .str s => text s
  | value => text value.compress

/-- An integer that fits 64 bits. -/
def fits (n : Int) : Bool := decide (-(2 ^ (63 : Nat)) ≤ n ∧ n < 2 ^ (63 : Nat))

/-- A real number as an integer, if it is one and not one of the two extremes. -/
def integral? (x : Double) : Option Int :=
  x.toInt?.bind fun n => if -(2 ^ (63 : Nat)) < n ∧ n < 2 ^ (63 : Nat) - 1 then some n else none

/-- Blanks around a number that is written as text. -/
def isSpace (c : Char) : Bool := c == ' ' || (9 ≤ c.toNat && c.toNat ≤ 13)

/-- A text without the blanks around it. -/
def strip (cs : List Char) : List Char :=
  ((cs.dropWhile isSpace).reverse.dropWhile isSpace).reverse

/-- A number as a cell: an integer if it is one, else a real number. -/
def ofDecimal (d : Decimal) : Cell :=
  match d.toDouble? with
  | none => infinite d.negative
  | some x =>
    match integral? x with
    | some n => int n
    | none => ofDouble x

/-- The number that a text looks like. -/
def number? (s : String) : Option Cell :=
  let cs := strip s.toList
  (Decimal.ofChars? cs).map fun d =>
    let n : Int := if d.negative then -(d.digits : Int) else d.digits
    if cs.all (fun c => c.isDigit || c == '+' || c == '-') && fits n then int n else ofDecimal d

end Cell

/-- What a column prefers. -/
inductive Affinity where
  | real
  | integer
  | text
deriving DecidableEq, Repr, Inhabited

namespace Affinity

/-- The name of the column type. -/
def name : Affinity → String
  | real => "REAL"
  | integer => "INTEGER"
  | text => "TEXT"

/-- What the column of a field prefers. -/
def ofField : FieldType → Affinity
  | .number => real
  | .boolean => integer
  | .string | .stringList => text

/-- An integer in decimal. -/
def decimal (n : Int) : String := String.ofList (Json.writeInt n)

/-- A cell as it is stored in the column.  A number column takes text that looks like a number, a
text column turns numbers into text, and an integer column turns whole numbers into integers. -/
def convert : Affinity → Cell → Cell
  | real, .int n => .real (.ofInt n)
  | real, .text s =>
    match Cell.number? s with
    | some (.int n) => .real (.ofInt n)
    | some number => number
    | none => .text s
  | integer, .real x =>
    match Cell.integral? x with
    | some n => .int n
    | none => .real x
  | integer, .text s => (Cell.number? s).getD (.text s)
  | text, .int n => .text (decimal n)
  | text, .real x => .text x.renderSignificant
  | text, .infinite negative => .text (if negative then "-Inf" else "Inf")
  | _, cell => cell

@[simp] theorem convert_null (affinity : Affinity) : affinity.convert .null = .null := by
  cases affinity <;> rfl

end Affinity

end Runbook
