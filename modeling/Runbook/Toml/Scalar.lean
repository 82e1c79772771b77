import Runbook.Config.Setting
import Runbook.Number.Decimal
import Runbook.Text.DoubleQuoted
import Runbook.Time.Instant

/-!
# TOML scalars

Numbers, dates and strings.  Each reader takes a value off the front of a text and answers the rest.

## Main definitions

* `Toml.integer?`, `Toml.real?`, `Toml.date?`: numbers and dates
* `Toml.literal?`: strings on one line in single quotes
* `Toml.longBasic?`, `Toml.longLiteral?`: strings over several lines
-/

namespace Runbook.Toml

-- The core library's powers, also where another library declares powers of its own.
attribute [local instance (high)] instPowNat

/-- Blanks within a line. -/
def isBlank (c : Char) : Bool := c == ' ' || c == '\t'

/-- Skip blanks. -/
def skipBlanks (cs : List Char) : List Char := cs.dropWhile isBlank

/-- A line end at the front. -/
def lineEnd? : List Char → Option (List Char)
  | '\n' :: rest => some rest
  | '\r' :: '\n' :: rest => some rest
  | _ => none

/-! ## Numbers -/

/-- Digits after a first one: an underscore may stand before each. -/
def moreDigits (isDigit : Char → Bool) : List Char → List Char × List Char
  | '_' :: c :: rest =>
    if isDigit c then
      let (digits, rest) := moreDigits isDigit rest
      (c :: digits, rest)
    else ([], '_' :: c :: rest)
  | c :: rest =>
    if isDigit c then
      let (digits, rest) := moreDigits isDigit rest
      (c :: digits, rest)
    else ([], c :: rest)
  | [] => ([], [])

/-- Digits with underscores between them. -/
def digits? (isDigit : Char → Bool) : List Char → Option (List Char × List Char)
  | c :: rest =>
    if isDigit c then
      let (digits, rest) := moreDigits isDigit rest
      some (c :: digits, rest)
    else none
  | [] => none

/-- Digits of a number, without zeros in front. -/
def whole? : List Char → Option (List Char × List Char)
  | '0' :: rest => some (['0'], rest)
  | cs => digits? Char.isDigit cs

/-- A number of a base, after its mark. -/
def based? (base : Nat) (cs : List Char) : Option (Int × List Char) := do
  let (digits, rest) ← digits? (fun c => (digitsIn? base [c]).isSome) cs
  let n ← digitsIn? base digits
  return ((n : Int), rest)

/-- A signed number in decimal. -/
def decimal? (cs : List Char) : Option (Int × List Char) := do
  let (negative, cs) := Decimal.takeSign cs
  let (digits, rest) ← whole? cs
  let n : Int := digitsValue digits
  return (if negative then -n else n, rest)

/-- An integer; it has to fit 64 bits. -/
def integer? (cs : List Char) : Option (Setting × List Char) := do
  let (n, rest) ←
    match cs with
    | '0' :: 'x' :: rest => based? 16 rest
    | '0' :: 'o' :: rest => based? 8 rest
    | '0' :: 'b' :: rest => based? 2 rest
    | cs => decimal? cs
  if -(2 ^ (63 : Nat)) ≤ n ∧ n < 2 ^ (63 : Nat) then some (.number n, rest) else none

/-- The exponent of a number. -/
def exponent? : List Char → Option (List Char × List Char)
  | c :: rest => do
    if c != 'e' && c != 'E' then none
    let (sign, rest) :=
      match rest with
      | '-' :: rest => (['-'], rest)
      | '+' :: rest => (['+'], rest)
      | rest => ([], rest)
    let (digits, rest) ← digits? Char.isDigit rest
    return ('e' :: sign ++ digits, rest)
  | [] => none

/-- The fraction of a number. -/
def fraction? : List Char → Option (List Char × List Char)
  | '.' :: rest => do
    let (digits, rest) ← digits? Char.isDigit rest
    return ('.' :: digits, rest)
  | _ => none

/-- A real number: with a fraction, an exponent, or both, and not too large; or one of the words for
infinity and for no number. -/
def real? (cs : List Char) : Option (Setting × List Char) :=
  let (_, unsigned) := Decimal.takeSign cs
  match unsigned with
  | 'i' :: 'n' :: 'f' :: rest => some (.real, rest)
  | 'n' :: 'a' :: 'n' :: rest => some (.real, rest)
  | unsigned => do
    let (whole, rest) ← whole? unsigned
    let (tail, rest) ←
      match fraction? rest with
      | some (fraction, rest) =>
        match exponent? rest with
        | some (exponent, rest) => some (fraction ++ exponent, rest)
        | none => some (fraction, rest)
      | none => exponent? rest
    let number ← Decimal.ofChars? (whole ++ tail)
    let _ ← number.toDouble?
    return (.real, rest)

/-! ## Dates -/

/-- A day of the calendar. -/
def day? (cs : List Char) : Option (List Char) := do
  let (year, rest) ← Instant.digits? 4 cs
  let (month, rest) ← (Instant.mark? '-' rest).bind (Instant.digits? 2)
  let (day, rest) ← (Instant.mark? '-' rest).bind (Instant.digits? 2)
  if Instant.Date.isValid ⟨year, month, day⟩ then some rest else none

/-- A time of day. -/
def clock? (cs : List Char) : Option (List Char) := do
  let (hour, rest) ← Instant.digits? 2 cs
  let (minute, rest) ← (Instant.mark? ':' rest).bind (Instant.digits? 2)
  let (second, rest) ← (Instant.mark? ':' rest).bind (Instant.digits? 2)
  if hour < 24 ∧ minute < 60 ∧ second ≤ 60 then
    match rest with
    | '.' :: fraction =>
      let (digits, rest) := takeDigits fraction
      if digits.isEmpty then none else some rest
    | rest => some rest
  else none

/-- An offset from universal time, if there is one. -/
def offset? : List Char → Option (List Char)
  | 'Z' :: rest => some rest
  | 'z' :: rest => some rest
  | c :: rest =>
    if c == '+' || c == '-' then do
      let (hour, rest) ← Instant.digits? 2 rest
      let (minute, rest) ← (Instant.mark? ':' rest).bind (Instant.digits? 2)
      if hour < 24 ∧ minute < 60 then some rest else none
    else some (c :: rest)
  | [] => some []

/-- The key under which a date is kept: dates are tables of their own. -/
def dateKey : String := "$date"

/-- A date, a time, or both with or without an offset. -/
def date? (cs : List Char) : Option (Setting × List Char) :=
  let date := Setting.table [(dateKey, .nothing)]
  match day? cs with
  | none => (clock? cs).map fun rest => (date, rest)
  | some rest =>
    match rest with
    | c :: time =>
      if c == 'T' || c == 't' || c == ' ' then
        match clock? time with
        | some rest => (offset? rest).map fun rest => (date, rest)
        | none => some (date, c :: time)
      else some (date, c :: time)
    | [] => some (date, [])

/-! ## Strings -/

/-- A string in single quotes, from after the first one. -/
def literal? (cs : List Char) : Option (String × List Char) :=
  let text := cs.takeWhile fun c => c != '\'' && Text.isPlain c
  match cs.drop text.length with
  | '\'' :: rest => some (String.ofList text, rest)
  | _ => none

/-- The end of a string over several lines: three quotes, and up to two more that belong to it. -/
def closing? (quote : Char) (read : List Char) (cs : List Char) : Option (String × List Char) :=
  let quotes := (cs.takeWhile (· == quote)).length
  if 3 ≤ quotes ∧ quotes ≤ 5 then
    some (String.ofList (List.replicate (quotes - 3) quote ++ read).reverse, cs.drop quotes)
  else none

/-- Skip blanks and line ends. -/
def skipLines (cs : List Char) : List Char :=
  match cs with
  | [] => []
  | c :: rest =>
    if isBlank c then skipLines rest
    else if c == '\n' then skipLines rest
    else if c == '\r' then
      match rest with
      | '\n' :: rest => skipLines rest
      | rest => '\r' :: rest
    else c :: rest

/-- A string over several lines in double quotes, from after the first three.  A backslash at the
end of a line takes the line end and all blanks after it away. -/
def longBasic? : Nat → List Char → List Char → Option (String × List Char)
  | 0, _, _ => none
  | _, _, [] => none
  | fuel + 1, read, '\\' :: rest =>
    match lineEnd? (skipBlanks rest) with
    | some rest => longBasic? fuel read (skipLines rest)
    | none => (Text.escaped? rest).bind fun (c, rest) => longBasic? fuel (c :: read) rest
  | fuel + 1, read, c :: rest =>
    match closing? '"' read (c :: rest) with
    | some done => some done
    | none =>
      match lineEnd? (c :: rest) with
      | some rest => longBasic? fuel ('\n' :: read) rest
      | none => if Text.isPlain c then longBasic? fuel (c :: read) rest else none

/-- A string over several lines in single quotes, from after the first three. -/
def longLiteral? : Nat → List Char → List Char → Option (String × List Char)
  | 0, _, _ => none
  | _, _, [] => none
  | fuel + 1, read, c :: rest =>
    match closing? '\'' read (c :: rest) with
    | some done => some done
    | none =>
      match lineEnd? (c :: rest) with
      | some rest => longLiteral? fuel ('\n' :: read) rest
      | none => if Text.isPlain c then longLiteral? fuel (c :: read) rest else none

/-- A line end right after the first quotes does not belong to a string. -/
def dropLineEnd (cs : List Char) : List Char := (lineEnd? cs).getD cs

/-- A string of any kind. -/
def string? (cs : List Char) : Option (String × List Char) :=
  match cs with
  | '"' :: '"' :: '"' :: rest => longBasic? (rest.length + 1) [] (dropLineEnd rest)
  | '\'' :: '\'' :: '\'' :: rest => longLiteral? (rest.length + 1) [] (dropLineEnd rest)
  | '"' :: rest => Text.doubleQuoted? rest
  | '\'' :: rest => literal? rest
  | _ => none

end Runbook.Toml
