import Runbook.Number.Digits
import Runbook.Text.Blank

/-!
# Instants

An instant is a number of nanoseconds since the start of 1970 in universal time.  Its text has a
date, a time of day and an offset from universal time.

## Main definitions

* `Instant`: a point in time
* `Instant.render`: the text of an instant, in universal time
* `Instant.parse?`: the instant of a text in the strict form
* `Instant.parseLoosely?`: the same with blanks between the parts
* `elapsed`: whole seconds between two instants

## Design notes

Days are counted in years that start in March, so that the leap day is the last of its year: a
day of the year is then a linear function of the month.  The strict form has fixed widths, a `T` or
a blank between date and time, and an offset in hours and minutes or a `Z`.  A sixtieth second is
read as the first of the next minute.
-/

namespace Runbook

-- The core library's powers, also where another library declares powers of its own.
attribute [local instance (high)] instPowNat

/-- A point in time. -/
structure Instant where
  /-- Nanoseconds since the start of 1970. -/
  nanos : Int
deriving DecidableEq, Repr, Inhabited

namespace Instant

/-- Nanoseconds of a second. -/
def perSecond : Int := 1000000000

/-- Seconds of a day. -/
def perDay : Int := 86400

/-- A date of the civil calendar. -/
structure Date where
  year : Int
  month : Nat
  day : Nat
deriving DecidableEq, Repr

namespace Date

/-- Does the year have a leap day? -/
def isLeap (year : Int) : Bool := year % 4 == 0 && (year % 100 != 0 || year % 400 == 0)

/-- The number of days of a month. -/
def daysOfMonth (year : Int) (month : Nat) : Nat :=
  if month = 2 then (if isLeap year then 29 else 28)
  else if month = 4 ∨ month = 6 ∨ month = 9 ∨ month = 11 then 30
  else 31

/-- Is there such a date? -/
def isValid (d : Date) : Bool :=
  1 ≤ d.month && d.month ≤ 12 && 1 ≤ d.day && d.day ≤ daysOfMonth d.year d.month

/-- The days from the start of 1970 to a date. -/
def toDays (d : Date) : Int :=
  let y := if d.month ≤ 2 then d.year - 1 else d.year
  let era := y.fdiv 400
  let yearOfEra := y - era * 400
  let month : Int := if 2 < d.month then d.month - 3 else d.month + 9
  let dayOfYear := (153 * month + 2) / 5 + d.day - 1
  let dayOfEra := yearOfEra * 365 + yearOfEra / 4 - yearOfEra / 100 + dayOfYear
  era * 146097 + dayOfEra - 719468

/-- The date that is some days after the start of 1970. -/
def ofDays (days : Int) : Date :=
  let z := days + 719468
  let era := z.fdiv 146097
  let dayOfEra := z - era * 146097
  let yearOfEra :=
    (dayOfEra - dayOfEra / 1460 + dayOfEra / 36524 - dayOfEra / 146096) / 365
  let dayOfYear := dayOfEra - (365 * yearOfEra + yearOfEra / 4 - yearOfEra / 100)
  let mp := (5 * dayOfYear + 2) / 153
  let month := if mp < 10 then mp + 3 else mp - 9
  { year := yearOfEra + era * 400 + (if month ≤ 2 then 1 else 0)
    month := month.toNat
    day := (dayOfYear - (153 * mp + 2) / 5 + 1).toNat }

end Date

/-- A number in decimal with leading zeros up to a width. -/
def padded (width n : Nat) : List Char :=
  let digits := (Nat.repr n).toList
  List.replicate (width - digits.length) '0' ++ digits

/-- The year in four digits; a year beyond them has a sign. -/
def yearText (year : Int) : List Char :=
  if 0 ≤ year ∧ year ≤ 9999 then padded 4 year.toNat
  else (if year < 0 then '-' else '+') :: padded 4 year.natAbs

/-- The fraction of a second in three, six or nine digits, or nothing for a whole second. -/
def fractionText (nanos : Nat) : List Char :=
  if nanos = 0 then []
  else if nanos % 1000000 = 0 then '.' :: padded 3 (nanos / 1000000)
  else if nanos % 1000 = 0 then '.' :: padded 6 (nanos / 1000)
  else '.' :: padded 9 nanos

/-- The text of an instant in universal time. -/
def render (t : Instant) : String :=
  let seconds := t.nanos.fdiv perSecond
  let days := seconds.fdiv perDay
  let ofDay := (seconds - days * perDay).toNat
  let d := Date.ofDays days
  String.ofList <|
    yearText d.year ++ '-' :: padded 2 d.month ++ '-' :: padded 2 d.day ++
      'T' :: padded 2 (ofDay / 3600) ++ ':' :: padded 2 (ofDay / 60 % 60) ++
      ':' :: padded 2 (ofDay % 60) ++ fractionText (t.nanos.fmod perSecond).toNat ++
      ['+', '0', '0', ':', '0', '0']

/-- The parts of a written time. -/
structure Written where
  date : Date
  hour : Nat
  minute : Nat
  second : Nat
  nanos : Nat
  /-- Seconds that the written time is ahead of universal time. -/
  offset : Int

/-- The instant of a written time, if it is one. -/
def Written.instant? (w : Written) : Option Instant :=
  if w.date.isValid && w.hour < 24 && w.minute < 60 && w.second ≤ 60 then
    let seconds := w.date.toDays * perDay + w.hour * 3600 + w.minute * 60 + w.second - w.offset
    some ⟨seconds * perSecond + w.nanos⟩
  else none

/-- Read a fixed number of digits. -/
def digits? (width : Nat) (cs : List Char) : Option (Nat × List Char) :=
  let run := cs.take width
  if run.length = width ∧ run.all Char.isDigit then some (digitsValue run, cs.drop width) else none

/-- Read one given character. -/
def mark? (c : Char) : List Char → Option (List Char)
  | d :: rest => if d = c then some rest else none
  | [] => none

/-- Read the character between a date and a time. -/
def separator? : List Char → Option (List Char)
  | c :: rest => if c = 'T' ∨ c = 't' ∨ c = ' ' then some rest else none
  | [] => none

/-- Read the digits of a fraction of a second; those after the ninth are dropped. -/
def fraction? (cs : List Char) : Option (Nat × List Char) :=
  match cs with
  | '.' :: rest =>
    let (run, rest) := takeDigits rest
    if run.isEmpty then none
    else
      let used := run.take 9
      some (digitsValue used * 10 ^ (9 - used.length), rest)
  | rest => some (0, rest)

/-- Read what separates the hours and the minutes of an offset: a colon, or any colons and blanks
in the loose form. -/
def offsetMark? (loose : Bool) (cs : List Char) : Option (List Char) :=
  if loose then some (cs.dropWhile fun c => c == ':' || Text.isBlank c) else mark? ':' cs

/-- Read an offset from universal time, in seconds. -/
def offset? (loose : Bool) (cs : List Char) : Option (Int × List Char) :=
  match cs with
  | 'Z' :: rest => some (0, rest)
  | 'z' :: rest => some (0, rest)
  | sign :: rest => do
    let negative ← if sign = '+' then some false
      else if sign = '-' ∨ sign.toNat = 0x2212 then some true else none
    let (hours, rest) ← digits? 2 rest
    let (minutes, rest) ← digits? 2 (← offsetMark? loose rest)
    let seconds : Int := hours * 3600 + minutes * 60
    if minutes < 60 ∧ seconds < 86400 then some (if negative then -seconds else seconds, rest)
    else none
  | [] => none

/-- The instant of a text in the strict form. -/
def parse? (text : String) : Option Instant := do
  let (year, rest) ← digits? 4 text.toList
  let (month, rest) ← digits? 2 (← mark? '-' rest)
  let (day, rest) ← digits? 2 (← mark? '-' rest)
  let (hour, rest) ← digits? 2 (← separator? rest)
  let (minute, rest) ← digits? 2 (← mark? ':' rest)
  let (second, rest) ← digits? 2 (← mark? ':' rest)
  let (nanos, rest) ← fraction? rest
  let (offset, rest) ← offset? false rest
  if rest.isEmpty then
    Written.instant? ⟨⟨year, month, day⟩, hour, minute, second, nanos, offset⟩
  else none

/-- Read a number of at most `width` digits after blanks. -/
def number? (width : Nat) (cs : List Char) : Option (Nat × List Char) :=
  let cs := Text.trimStart cs
  let run := (cs.takeWhile Char.isDigit).take width
  if run.isEmpty then none else some (digitsValue run, cs.drop run.length)

/-- Read one given character after blanks. -/
def looseMark? (c : Char) (cs : List Char) : Option (List Char) := mark? c (Text.trimStart cs)

/-- The years of the calendar that instants are read in. -/
def isYear (year : Int) : Bool := -262143 ≤ year && year ≤ 262142

/-- Read a year after blanks: at most four digits, or a sign and any number of them. -/
def year? (cs : List Char) : Option (Int × List Char) :=
  let signed := fun (sign : Int) (cs : List Char) =>
    let (run, rest) := takeDigits cs
    if run.isEmpty then none else some (sign * digitsValue run, rest)
  match Text.trimStart cs with
  | '-' :: rest => signed (-1) rest
  | '+' :: rest => signed 1 rest
  | rest => (number? 4 rest).map fun (year, rest) => ((year : Int), rest)

/-- The instant of a text in the loose form: numbers may be short, the year may have a sign, blanks
may stand between the parts, and `UTC` may stand for the offset. -/
def parseLoosely? (text : String) : Option Instant := do
  let (year, rest) ← year? text.toList
  let (month, rest) ← number? 2 (← looseMark? '-' rest)
  let (day, rest) ← number? 2 (← looseMark? '-' rest)
  let (hour, rest) ← number? 2 (← separator? rest)
  let (minute, rest) ← number? 2 (← looseMark? ':' rest)
  let (second, rest) ← number? 2 (← looseMark? ':' rest)
  let (nanos, rest) ← fraction? rest
  let rest := Text.trimStart rest
  let (offset, rest) ←
    if (rest.take 3).map Char.toUpper = ['U', 'T', 'C'] then some (0, rest.drop 3)
    else offset? true rest
  if (Text.trimStart rest).isEmpty && isYear year then
    Written.instant? ⟨⟨year, month, day⟩, hour, minute, second, nanos, offset⟩
  else none

end Instant

/-- The whole seconds from one instant to another; none if the second is the earlier one. -/
def elapsed (since now : Instant) : Nat := ((now.nanos - since.nanos) / Instant.perSecond).toNat

/-- A stretch of time in hours and minutes: `42m`, `2h05m`. -/
def elapsedText (seconds : Nat) : String :=
  let hours := seconds / 3600
  let minutes := seconds % 3600 / 60
  if 0 < hours then
    Nat.repr hours ++ "h" ++ String.ofList (Instant.padded 2 minutes) ++ "m"
  else Nat.repr minutes ++ "m"

end Runbook
