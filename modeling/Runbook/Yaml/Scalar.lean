import Runbook.Json.Basic
import Runbook.Number.Decimal

/-!
# Values of document texts

What a text of a document stands for.  A plain text may be null, a boolean, an integer or a
floating point number; a quoted text or block text is always a text.  A tag can force the kind,
and a text that does not fit its tag is refused.

## Main definitions

* `Scalar.isNull`, `Scalar.bool?`, `Scalar.integer?`, `Scalar.float?`: the readings of a plain text
* `Scalar.plain?`: the value of a plain text
* `Scalar.value?`: the value of a text with its tag

## Design notes

An integer that does not fit 64 bits but fits 128 is refused; a longer one is read as a floating
point number.  A run of digits that starts with zero is a text.  Infinities and NaN have no data
value and become null, and a finite notation whose value is out of range is a text.
-/

namespace Runbook.Yaml.Scalar

-- The core library's powers, also where another library declares powers of its own.
attribute [local instance (high)] instPowNat

/-- The spellings of null, apart from the empty text. -/
def isNull (cs : List Char) : Bool :=
  ["null", "Null", "NULL", "~"].contains (String.ofList cs)

/-- The spellings of booleans. -/
def bool? (cs : List Char) : Option Bool :=
  let s := String.ofList cs
  if ["true", "True", "TRUE"].contains s then some true
  else if ["false", "False", "FALSE"].contains s then some false
  else none

/-- A text without its sign, if it has one. -/
def unsigned (cs : List Char) : List Char :=
  match cs with
  | '-' :: rest => rest
  | '+' :: rest => rest
  | rest => rest

/-- Digits that start with a zero and are more than that zero. -/
def isPaddedDigits (cs : List Char) : Bool :=
  match unsigned cs with
  | '0' :: rest => !rest.isEmpty && rest.all Char.isDigit
  | _ => false

/-- The magnitude of an integer after its sign: hexadecimal, octal or binary after `0x`, `0o` or
`0b`, else decimal. -/
def magnitude? (cs : List Char) : Option Nat :=
  match cs with
  | '0' :: 'x' :: rest => digitsIn? 16 rest
  | '0' :: 'o' :: rest => digitsIn? 8 rest
  | '0' :: 'b' :: rest => digitsIn? 2 rest
  | rest => if isPaddedDigits rest then none else digitsIn? 10 rest

/-- The integer that a text writes, of any size. -/
def integer? (cs : List Char) : Option Int :=
  match cs with
  | '-' :: rest => (magnitude? rest).map fun n => -(n : Int)
  | '+' :: rest => (magnitude? rest).map fun n => (n : Int)
  | rest => (magnitude? rest).map fun n => (n : Int)

/-- Does an integer fit 64 bits, signed or unsigned? -/
def fits64 (n : Int) : Bool := decide (-(2 ^ (63 : Nat)) ≤ n ∧ n < 2 ^ (64 : Nat))

/-- Does an integer fit 128 bits, signed or unsigned? -/
def fits128 (n : Int) : Bool := decide (-(2 ^ (127 : Nat)) ≤ n ∧ n < 2 ^ (128 : Nat))

/-- The spellings of the infinities and of NaN. -/
def isNonFinite (cs : List Char) : Bool :=
  [".inf", ".Inf", ".INF", "+.inf", "+.Inf", "+.INF", "-.inf", "-.Inf", "-.INF",
    ".nan", ".NaN", ".NAN"].contains (String.ofList cs)

/-- The value of a floating point notation.  A plus sign is no sign of the number after it. -/
def float? (cs : List Char) : Option Json :=
  if isNonFinite cs then some .null
  else
    let number := match cs with
      | '+' :: '+' :: _ => none
      | '+' :: '-' :: _ => none
      | rest => Decimal.ofChars? rest
    (number.bind Decimal.toDouble?).map .double

/-- The value of a plain text without a tag. -/
def plain? (cs : List Char) : Option Json :=
  if cs.isEmpty || isNull cs then some .null
  else
    match bool? cs with
    | some b => some (.bool b)
    | none =>
      match integer? cs with
      | some n =>
        if fits64 n then some (.int n)
        else if fits128 n then none
        else some ((float? cs).getD (.str (.ofList cs)))
      | none =>
        if isPaddedDigits cs then some (.str (.ofList cs))
        else some ((float? cs).getD (.str (.ofList cs)))

/-- The stem of the tags that name the common kinds. -/
def commonStem : String := "tag:yaml.org,2002:"

/-- The value of a text with its tag.  A tag of one's own, which starts with `!`, is refused, and
a tag of an unknown kind makes a text of anything. -/
def value? (tag : Option String) (plain : Bool) (cs : List Char) : Option Json :=
  match tag with
  | none => if plain then plain? cs else some (.str (.ofList cs))
  | some tag =>
    if tag.startsWith "!" then none
    else if tag = commonStem ++ "bool" then (bool? cs).map .bool
    else if tag = commonStem ++ "int" then
      (integer? cs).bind fun n => if fits64 n then some (.int n) else none
    else if tag = commonStem ++ "float" then float? cs
    else if tag = commonStem ++ "null" then if isNull cs then some .null else none
    else some (.str (.ofList cs))

end Runbook.Yaml.Scalar
