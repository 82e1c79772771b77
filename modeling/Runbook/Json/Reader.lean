import Runbook.Json.Basic
import Runbook.Number.Digits

/-!
# Reading data texts

A data text is one value in the usual notation of objects, lists, quoted texts and numbers, with
blanks around it.  Containers may nest 127 deep.  A number without fraction and exponent that fits
64 bits, signed or unsigned, is an integer; every other number is a double, and one beyond the
range of doubles is refused.

## Main definitions

* `Json.scan?`: the value of a text, the fields of each object as they are written
* `Json.canonical`: the same value with the fields of each object in key order
* `Json.parse?`: a text as a value

## Design notes

`scan?` keeps repeated keys and the written order, because some stored texts are read as records
whose fields may not repeat, or as mappings that keep their order.

A double is computed from its digits in one multiplication or division: the digits are first
rounded to a double, as many as fit 64 bits, and then scaled by the double nearest to the power of
ten.  So a number of more than fifteen digits may come out one unit beside the nearest double.
-/

namespace Runbook.Json

-- The core library's powers, also where another library declares powers of its own.
attribute [local instance (high)] instPowNat

/-- The characters that may stand between the parts of a data text. -/
def isSpace (c : Char) : Bool := c == ' ' || c == '\n' || c == '\t' || c == '\r'

/-- A text without its leading blanks. -/
def skipSpace (cs : List Char) : List Char := cs.dropWhile isSpace

/-- The greatest unsigned integer of 64 bits. -/
def maxUnsigned : Nat := 2 ^ (64 : Nat) - 1

/-- The greatest exponent that is read exactly; a greater one counts as out of range. -/
def maxExponent : Nat := 2 ^ (31 : Nat) - 1

/-- The double nearest to a power of ten. -/
def powerOfTen (k : Nat) : Double := (Double.ofDecimal false 1 k).getD (Double.zero false)

/-- Digits scaled by a power of ten.  Powers up to `10 ^ 308` are doubles; below that the digits
are divided by `10 ^ 308` as often as needed, twice at the most before nothing is left. -/
def scale? : Nat → Double → Int → Option Double
  | 0, x, _ => if x.isZero then some x else none
  | fuel + 1, x, k =>
    if k.natAbs ≤ 308 then
      if 0 ≤ k then x.mul (powerOfTen k.natAbs) else x.div (powerOfTen k.natAbs)
    else if x.isZero then some x
    else if 0 ≤ k then none
    else (x.div (powerOfTen 308)).bind fun y => scale? fuel y (k + 308)

/-- The double written by a sign, at most 64 bits of digits, and a power of ten. -/
def scaled? (negative : Bool) (significand : Nat) (k : Int) : Option Json :=
  (scale? 4 (.ofInt significand) k).map fun x => double (if negative then x.neg else x)

/-- The digits of a significand: as many as fit 64 bits, and how many were left over. -/
def takeSignificand : Nat → List Char → Nat × Nat
  | n, [] => (n, 0)
  | n, c :: rest =>
    let next := n * 10 + digitValue c
    if next ≤ maxUnsigned then takeSignificand next rest else (n, rest.length + 1)

/-- A number with an exponent part, from after the `e`. -/
def withExponent? (negative : Bool) (significand : Nat) (k : Int) (cs : List Char) :
    Option (Json × List Char) :=
  let (down, cs) :=
    match cs with
    | '+' :: rest => (false, rest)
    | '-' :: rest => (true, rest)
    | rest => (false, rest)
  let (digits, rest) := takeDigits cs
  if digits.isEmpty then none
  else
    let e := digitsValue digits
    if maxExponent < e then
      if significand ≠ 0 ∧ ¬ down then none else some (double (.zero negative), rest)
    else
      let e : Int := if down then k - e else k + e
      (scaled? negative significand e).map (·, rest)

/-- A number with an exponent part, if there is one. -/
def ending? (negative : Bool) (significand : Nat) (k : Int) : List Char → Option (Json × List Char)
  | 'e' :: rest => withExponent? negative significand k rest
  | 'E' :: rest => withExponent? negative significand k rest
  | rest => (scaled? negative significand k).map (·, rest)

/-- A number from after its sign.  A leading zero stands alone before the point. -/
def number (negative : Bool) (cs : List Char) : Option (Json × List Char) :=
  let (whole, rest) := takeDigits cs
  if whole.isEmpty || (whole.head? == some '0' && whole.length != 1) then none
  else
    let (n, left) := takeSignificand 0 whole
    match rest with
    | '.' :: rest =>
      let (fraction, rest) := takeDigits rest
      if fraction.isEmpty then none
      else
        -- the first digit that does not fit ends the significand
        let (n, dropped) := takeSignificand n fraction
        ending? negative n ((left : Int) - (fraction.length - dropped : Nat)) rest
    | 'e' :: _ | 'E' :: _ => ending? negative n left rest
    | _ =>
      if left ≠ 0 then (scaled? negative n left).map (·, rest)
      else if ¬ negative then some (int n, rest)
      else if n = 0 then some (double (.zero true), rest)
      else if n ≤ 2 ^ (63 : Nat) then some (int (-(n : Int)), rest)
      else some (double (Double.ofInt n).neg, rest)

/-- Four hexadecimal digits. -/
def fourHex? : List Char → Option (Nat × List Char)
  | a :: b :: c :: d :: rest => do
    let a ← hexValue? a
    let b ← hexValue? b
    let c ← hexValue? c
    let d ← hexValue? d
    some (((a * 16 + b) * 16 + c) * 16 + d, rest)
  | _ => none

/-- The character of an escape by code unit.  A leading surrogate needs a trailing one right after
it, and a trailing surrogate never stands alone. -/
def codeUnit? (cs : List Char) : Option (Char × List Char) := do
  let (n, rest) ← fourHex? cs
  if 0xD800 ≤ n ∧ n < 0xDC00 then
    match rest with
    | '\\' :: 'u' :: rest =>
      let (m, rest) ← fourHex? rest
      if 0xDC00 ≤ m ∧ m < 0xE000 then
        some (Char.ofNat (0x10000 + (n - 0xD800) * 0x400 + (m - 0xDC00)), rest)
      else none
    | _ => none
  else if 0xDC00 ≤ n ∧ n < 0xE000 then none
  else some (Char.ofNat n, rest)

/-- The character that an escape letter stands for. -/
def unescape? (c : Char) : Option Char :=
  match c with
  | '"' => some '"'
  | '\\' => some '\\'
  | '/' => some '/'
  | 'b' => some (Char.ofNat 8)
  | 'f' => some (Char.ofNat 12)
  | 'n' => some '\n'
  | 'r' => some '\r'
  | 't' => some '\t'
  | _ => none

/-- The rest of a quoted text, from after its opening quote; `done` holds the characters so far,
last first. -/
def quoted? : Nat → List Char → List Char → Option (String × List Char)
  | 0, _, _ => none
  | fuel + 1, done, cs =>
    match cs with
    | [] => none
    | '"' :: rest => some (String.ofList done.reverse, rest)
    | '\\' :: 'u' :: rest => (codeUnit? rest).bind fun (c, rest) => quoted? fuel (c :: done) rest
    | '\\' :: c :: rest => (unescape? c).bind fun c => quoted? fuel (c :: done) rest
    | c :: rest => if c.toNat < 0x20 ∨ c = '\\' then none else quoted? fuel (c :: done) rest

/-- A text that starts with `word`, without it. -/
def after? (word : List Char) (cs : List Char) : Option (List Char) :=
  if word.isPrefixOf cs then some (cs.drop word.length) else none

mutual

/-- The value at the front of a text without leading blanks; `depth` containers may still open. -/
def value? : Nat → Nat → List Char → Option (Json × List Char)
  | 0, _, _ => none
  | fuel + 1, depth, cs =>
    match cs with
    | 'n' :: rest => (after? ['u', 'l', 'l'] rest).map (null, ·)
    | 't' :: rest => (after? ['r', 'u', 'e'] rest).map (bool true, ·)
    | 'f' :: rest => (after? ['a', 'l', 's', 'e'] rest).map (bool false, ·)
    | '"' :: rest => (quoted? (rest.length + 1) [] rest).map fun (s, rest) => (str s, rest)
    | '[' :: rest =>
      if depth = 0 then none
      else
        match skipSpace rest with
        | ']' :: rest => some (arr [], rest)
        | rest => (items? fuel (depth - 1) rest).map fun (items, rest) => (arr items, rest)
    | '{' :: rest =>
      if depth = 0 then none
      else
        match skipSpace rest with
        | '}' :: rest => some (obj [], rest)
        | rest => (fields? fuel (depth - 1) rest).map fun (fields, rest) => (obj fields, rest)
    | '-' :: rest => number true rest
    | c :: _ => if c.isDigit then number false cs else none
    | [] => none

/-- One or more items and the closing bracket. -/
def items? : Nat → Nat → List Char → Option (List Json × List Char)
  | 0, _, _ => none
  | fuel + 1, depth, cs => do
    let (item, rest) ← value? fuel depth cs
    match skipSpace rest with
    | ']' :: rest => some ([item], rest)
    | ',' :: rest =>
      let (items, rest) ← items? fuel depth (skipSpace rest)
      some (item :: items, rest)
    | _ => none

/-- One or more fields and the closing brace. -/
def fields? : Nat → Nat → List Char → Option (List (String × Json) × List Char)
  | 0, _, _ => none
  | fuel + 1, depth, cs => do
    match cs with
    | '"' :: rest =>
      let (key, rest) ← quoted? (rest.length + 1) [] rest
      match skipSpace rest with
      | ':' :: rest =>
        let (value, rest) ← value? fuel depth (skipSpace rest)
        match skipSpace rest with
        | '}' :: rest => some ([(key, value)], rest)
        | ',' :: rest =>
          let (fields, rest) ← fields? fuel depth (skipSpace rest)
          some ((key, value) :: fields, rest)
        | _ => none
      | _ => none
    | _ => none

end

/-- How deep containers may nest. -/
def maxDepth : Nat := 127

/-- The value of a text, with the fields of its objects as they are written.  Every step of the
walk uses up a character, so the length of the text bounds its depth. -/
def scan? (text : String) : Option Json :=
  let cs := skipSpace text.toList
  match value? (2 * cs.length + 2) maxDepth cs with
  | some (value, rest) => if (skipSpace rest).isEmpty then some value else none
  | none => none

mutual

/-- The value with the fields of every object in key order; a repeated key keeps the last value. -/
def canonical : Json → Json
  | arr items => arr (canonicalItems items)
  | obj fields => obj (Fields.ofList (canonicalFields fields))
  | value => value

/-- The items of a list in canonical form. -/
def canonicalItems : List Json → List Json
  | [] => []
  | item :: rest => canonical item :: canonicalItems rest

/-- The fields of an object in canonical form, each where it is written. -/
def canonicalFields : List (String × Json) → List (String × Json)
  | [] => []
  | (k, v) :: rest => (k, canonical v) :: canonicalFields rest

end

/-- A text as a data value. -/
def parse? (text : String) : Option Json := (scan? text).map canonical

/-- A text as an object. -/
def parseObject? (text : String) : Option Object := (parse? text).bind obj?

end Runbook.Json
