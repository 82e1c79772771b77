import Mathlib.Tactic.Ring
import Runbook.Proofs.Number.Digits
import Runbook.Time.Instant

/-!
# The text of an instant

An instant is written as a date and a time of day, and in the years of four digits the strict reader
reads it back.  The date takes most of the work: days are counted in eras of four hundred years that
start in March, and the year of a day is found by one division that is almost right.

## Main definitions

* `Instant.Date.ofMarch`: a date by a year that starts in March

## Main statements

* `Instant.Date.ofDays_spec`: the date of a day is one of the calendar, and the day is its day
* `Instant.parse?_render`: an instant comes back from its text in the years of four digits
* `Instant.year_of_parse?_render`: and in no others

## Design notes

A day of an era is split into centuries, spans of four years, years and a rest.  All that is said of
the division is said of these four parts, for each century and each year of a span apart.
-/

namespace Runbook.Instant

namespace Date

/-! ## The calendar -/

/-- The year of a day of an era, from its century, span of four years, year of the span and rest. -/
theorem yearOfEra_eq {c q a r : Int} (cs : c = 0 ∨ c = 1 ∨ c = 2 ∨ c = 3)
    (as : a = 0 ∨ a = 1 ∨ a = 2 ∨ a = 3) (q0 : 0 ≤ q) (q24 : q ≤ 24) (r0 : 0 ≤ r)
    (r365 : r ≤ 364 ∨ r = 365 ∧ a = 3 ∧ (q ≤ 23 ∨ c = 3)) {doe : Int}
    (same : doe = 36524 * c + 1461 * q + 365 * a + r) :
    (doe - doe / 1460 + doe / 36524 - doe / 146096) / 365 = 100 * c + 4 * q + a := by
  have leap : doe / 1460 = 25 * c + q ∧ r ≤ 364 ∨ doe / 1460 = 25 * c + q + 1 ∧ 1 ≤ r := by omega
  -- only the last day of an era is one century too late
  have centuries : doe / 36524 - doe / 146096 = c := by
    by_cases last : doe = 146096
    · subst last
      omega
    · have before : doe < 146096 := by omega
      have century : doe < 36524 * (c + 1) := by omega
      have none : doe / 146096 = 0 := by omega
      have all : doe / 36524 = c := by omega
      omega
  have days : 365 * (100 * c + 4 * q + a) ≤ doe - doe / 1460 + doe / 36524 - doe / 146096 ∧
      doe - doe / 1460 + doe / 36524 - doe / 146096 < 365 * (100 * c + 4 * q + a) + 365 := by
    omega
  omega

theorem exists_parts {doe : Int} (low : 0 ≤ doe) (high : doe ≤ 146096) :
    ∃ c q a r : Int, (c = 0 ∨ c = 1 ∨ c = 2 ∨ c = 3) ∧ (a = 0 ∨ a = 1 ∨ a = 2 ∨ a = 3) ∧
      0 ≤ q ∧ q ≤ 24 ∧ 0 ≤ r ∧ (r ≤ 364 ∨ r = 365 ∧ a = 3 ∧ (q ≤ 23 ∨ c = 3)) ∧
      doe = 36524 * c + 1461 * q + 365 * a + r := by
  obtain ⟨c, hc⟩ : ∃ c, c = min (doe / 36524) 3 := ⟨_, rfl⟩
  obtain ⟨q, hq⟩ : ∃ q, q = min ((doe - 36524 * c) / 1461) 24 := ⟨_, rfl⟩
  obtain ⟨a, ha⟩ : ∃ a, a = min ((doe - 36524 * c - 1461 * q) / 365) 3 := ⟨_, rfl⟩
  refine ⟨c, q, a, doe - 36524 * c - 1461 * q - 365 * a, ?_, ?_, ?_, ?_, ?_, ?_, ?_⟩ <;> omega

/-- A day of an era is a day of one of its years; only leap years have a last day. -/
theorem exists_year {doe : Int} (low : 0 ≤ doe) (high : doe ≤ 146096) :
    ∃ (y : Int) (n : Nat), 0 ≤ y ∧ y ≤ 399 ∧ n ≤ 365 ∧
      (doe - doe / 1460 + doe / 36524 - doe / 146096) / 365 = y ∧
      doe = 365 * y + y / 4 - y / 100 + n ∧
      (n = 365 → (y + 1) % 4 = 0 ∧ ((y + 1) % 100 ≠ 0 ∨ (y + 1) % 400 = 0)) := by
  obtain ⟨c, q, a, r, cs, as, q0, q24, r0, r365, same⟩ := exists_parts low high
  have year := yearOfEra_eq cs as q0 q24 r0 r365 same
  obtain ⟨n, rfl⟩ := Int.eq_ofNat_of_zero_le r0
  clear low high r0
  have quarters : (100 * c + 4 * q + a) / 4 = 25 * c + q := by
    clear year same r365
    omega
  have centuries : (100 * c + 4 * q + a) / 100 = c := by
    clear year same r365
    omega
  refine ⟨100 * c + 4 * q + a, n, ?_, ?_, ?_, year, ?_, fun last => ?_⟩
  · clear year same
    omega
  · clear year same
    omega
  · clear year same
    omega
  · rw [quarters, centuries, same]
    ring_nf
  · clear year same quarters centuries
    omega

/-- Every day of a year that starts in March is the day of a month. -/
theorem month_parts {r : Nat} (small : r ≤ 365) :
    (5 * r + 2) / 153 ≤ 11 ∧ (153 * ((5 * r + 2) / 153) + 2) / 5 ≤ r ∧
      r - (153 * ((5 * r + 2) / 153) + 2) / 5 + 1 ≤
        (if (5 * r + 2) / 153 = 11 then (if r = 365 then 29 else 28)
        else if (5 * r + 2) / 153 = 1 ∨ (5 * r + 2) / 153 = 3 ∨ (5 * r + 2) / 153 = 6 ∨
          (5 * r + 2) / 153 = 8 then 30 else 31) := by
  have all : ∀ r < 366, (5 * r + 2) / 153 ≤ 11 ∧ (153 * ((5 * r + 2) / 153) + 2) / 5 ≤ r ∧
      r - (153 * ((5 * r + 2) / 153) + 2) / 5 + 1 ≤
        (if (5 * r + 2) / 153 = 11 then (if r = 365 then 29 else 28)
        else if (5 * r + 2) / 153 = 1 ∨ (5 * r + 2) / 153 = 3 ∨ (5 * r + 2) / 153 = 6 ∨
          (5 * r + 2) / 153 = 8 then 30 else 31) := by decide +kernel
  exact all r (by omega)

/-! ## Dates of a year that starts in March -/

theorem isValid_iff (d : Date) : d.isValid = true ↔
    1 ≤ d.month ∧ d.month ≤ 12 ∧ 1 ≤ d.day ∧ d.day ≤ daysOfMonth d.year d.month := by
  simp only [isValid, Bool.and_eq_true, decide_eq_true_eq, and_assoc]

theorem isLeap_iff (year : Int) :
    isLeap year = true ↔ year % 4 = 0 ∧ (year % 100 ≠ 0 ∨ year % 400 = 0) := by
  simp [isLeap]

/-- The date of a day of a month, with years that start in March: their last two months are in the
next year of the calendar. -/
def ofMarch (year : Int) (month day : Nat) : Date where
  year := if month < 10 then year else year + 1
  month := if month < 10 then month + 3 else month - 9
  day := day

/-- It is the day that it is counted as. -/
theorem toDays_ofMarch {era y : Int} {m : Nat} (low : 0 ≤ y) (high : y ≤ 399) (months : m ≤ 11)
    (day : Nat) : (ofMarch (y + era * 400) m day).toDays =
      era * 146097 + (y * 365 + y / 4 - y / 100 + ((153 * m + 2) / 5 + day - 1)) - 719468 := by
  have year : (if (ofMarch (y + era * 400) m day).month ≤ 2 then
      (ofMarch (y + era * 400) m day).year - 1 else (ofMarch (y + era * 400) m day).year) =
      y + era * 400 := by
    unfold ofMarch
    dsimp only
    split_ifs <;> omega
  have month : (if 2 < (ofMarch (y + era * 400) m day).month then
      ((ofMarch (y + era * 400) m day).month : Int) - 3
      else (ofMarch (y + era * 400) m day).month + 9) = m := by
    unfold ofMarch
    dsimp only
    split_ifs <;> omega
  have whole : (y + era * 400).fdiv 400 = era := by
    rw [Int.fdiv_eq_ediv_of_nonneg _ (by decide)]
    omega
  unfold toDays
  simp only [year, month, whole, Int.add_sub_cancel]
  rfl

/-- It is a date of the calendar if the month has the day. -/
theorem isValid_ofMarch {year : Int} {m day : Nat} (months : m ≤ 11) (first : 1 ≤ day)
    (last : day ≤ if m = 11 then (if isLeap (year + 1) then 29 else 28)
      else if m = 1 ∨ m = 3 ∨ m = 6 ∨ m = 8 then 30 else 31) :
    (ofMarch year m day).isValid = true := by
  have length : daysOfMonth (ofMarch year m day).year (ofMarch year m day).month =
      if m = 11 then (if isLeap (year + 1) then 29 else 28)
      else if m = 1 ∨ m = 3 ∨ m = 6 ∨ m = 8 then 30 else 31 := by
    unfold daysOfMonth ofMarch
    dsimp only
    split_ifs <;> first | rfl | omega
  have month : 1 ≤ (ofMarch year m day).month ∧ (ofMarch year m day).month ≤ 12 := by
    unfold ofMarch
    dsimp only
    split_ifs <;> omega
  exact (isValid_iff _).2 ⟨month.1, month.2, first, last.trans_eq length.symm⟩

/-- The day of an era that is the day `n` of the year `y`, by the month that it falls into. -/
theorem ofDays_eq {era doe y : Int} {n : Nat} (low : 0 ≤ doe) (high : doe ≤ 146096)
    (small : n ≤ 365)
    (year : (doe - doe / 1460 + doe / 36524 - doe / 146096) / 365 = y)
    (same : doe = 365 * y + y / 4 - y / 100 + n) :
    ofDays (era * 146097 + doe - 719468) =
      ofMarch (y + era * 400) ((5 * n + 2) / 153)
        (n - (153 * ((5 * n + 2) / 153) + 2) / 5 + 1) := by
  have whole : Int.fdiv (era * 146097 + doe - 719468 + 719468) 146097 = era := by
    rw [Int.fdiv_eq_ediv_of_nonneg _ (by decide)]
    omega
  have rest : era * 146097 + doe - 719468 + 719468 - era * 146097 = doe := by omega
  have day : doe - (365 * y + y / 4 - y / 100) = n := by omega
  obtain ⟨months, before, -⟩ := month_parts small
  have month : (5 * (n : Int) + 2) / 153 = ((5 * n + 2) / 153 : Nat) := by omega
  unfold ofDays ofMarch
  simp only [whole, rest, year, day, month, Date.mk.injEq]
  clear whole rest day month year same low high
  generalize (5 * n + 2) / 153 = m at *
  refine ⟨?_, ?_, ?_⟩
  · split_ifs <;> omega
  · split_ifs <;> omega
  · omega

/-- **The date of a day** is one of the calendar, and the day is its day. -/
theorem ofDays_spec (days : Int) : (ofDays days).isValid = true ∧ (ofDays days).toDays = days := by
  obtain ⟨era, doe, low, high, rfl⟩ :
      ∃ era doe : Int, 0 ≤ doe ∧ doe ≤ 146096 ∧ days = era * 146097 + doe - 719468 :=
    ⟨(days + 719468) / 146097, (days + 719468) % 146097, by omega, by omega, by omega⟩
  obtain ⟨y, n, yearLow, yearHigh, small, year, same, leap⟩ := exists_year low high
  obtain ⟨months, before, short⟩ := month_parts small
  rw [ofDays_eq low high small year same]
  constructor
  · refine isValid_ofMarch months (Nat.succ_pos _) (short.trans ?_)
    -- only a leap year has a day behind the three hundred and sixty fifth
    by_cases last : n = 365
    · have leap : isLeap (y + era * 400 + 1) = true := by
        obtain ⟨fourth, other⟩ := leap last
        rw [isLeap_iff, show y + era * 400 + 1 = y + 1 + 400 * era by omega]
        refine ⟨by omega, other.imp (fun no => ?_) fun yes => ?_⟩ <;> omega
      rw [leap, last]
      rfl
    · rw [if_neg last]
      split_ifs <;> omega
  · rw [toDays_ofMarch yearLow yearHigh months, same]
    omega

end Date

/-! ## Texts -/

/-- A number with zeros in front is a run of digits of its width. -/
theorem padded_spec {width n : Nat} (some : 0 < width) (fits : n < 10 ^ width) :
    (padded width n).length = width ∧ (∀ c ∈ padded width n, c.isDigit = true) ∧
      digitsValue (padded width n) = n := by
  have short : (Nat.repr n).toList.length ≤ width := by
    rw [Nat.toList_repr]
    exact (Nat.length_toDigits_le_iff (by decide) some).2 fits
  refine ⟨?_, ?_, ?_⟩
  · rw [padded, List.length_append, List.length_replicate]
    omega
  · rw [padded]
    exact List.forall_mem_append.2
      ⟨fun c => isDigit_of_mem_replicate, fun c => isDigit_of_mem_repr⟩
  · rw [digitsValue_eq, padded, Nat.ofDigitChars_append, Nat.ofDigitChars_replicate_zero,
      Nat.mul_zero, ← digitsValue_eq, digitsValue_repr]

theorem digits?_padded {width n : Nat} (some : 0 < width) (fits : n < 10 ^ width)
    (rest : List Char) : digits? width (padded width n ++ rest) = .some (n, rest) := by
  obtain ⟨length, digits, value⟩ := padded_spec some fits
  unfold digits?
  rw [List.take_left' length, List.drop_left' length,
    if_pos ⟨length, List.all_eq_true.2 digits⟩, value]

/-- A fraction of a second is read up to what follows. -/
theorem fraction?_fractionText {nanos : Nat} (small : nanos < 1000000000) (rest : List Char) :
    fraction? (fractionText nanos ++ '+' :: rest) = some (nanos, '+' :: rest) := by
  have reads {width n : Nat} (some : 0 < width) (few : width ≤ 9) (fits : n < 10 ^ width)
      (whole : n * 10 ^ (9 - width) = nanos) :
      fraction? ('.' :: (padded width n ++ '+' :: rest)) = .some (nanos, '+' :: rest) := by
    obtain ⟨length, digits, value⟩ := padded_spec some fits
    have run : takeDigits (padded width n ++ '+' :: rest) = (padded width n, '+' :: rest) :=
      takeDigits_append_of_stops _ digits (by simp)
    have nonempty : padded width n ≠ [] := List.ne_nil_of_length_pos (by rwa [length])
    simp only [fraction?, run]
    rw [if_neg (by simpa using nonempty), List.take_of_length_le (by rwa [length]), value, length,
      whole]
  unfold fractionText
  split
  · rename_i none
    rw [none]
    rfl
  split
  · exact reads (by decide) (by decide) (by omega) (by omega)
  split
  · exact reads (by decide) (by decide) (by omega) (by omega)
  · exact reads (by decide) (by decide) (by omega) (by omega)

/-- The strict reader takes its fields one after the other. -/
theorem parse?_of_fields {text : String} {w : Written} {year : Nat} {a b c d e f g : List Char}
    (whole : digits? 4 text.toList = some (year, '-' :: a)) (sameYear : (year : Int) = w.date.year)
    (month : digits? 2 a = some (w.date.month, '-' :: b))
    (day : digits? 2 b = some (w.date.day, 'T' :: c))
    (hour : digits? 2 c = some (w.hour, ':' :: d))
    (minute : digits? 2 d = some (w.minute, ':' :: e))
    (second : digits? 2 e = some (w.second, f)) (fraction : fraction? f = some (w.nanos, g))
    (offset : offset? false g = some (w.offset, [])) : parse? text = w.instant? := by
  unfold parse?
  rw [whole]
  simp only [bind, Option.bind, mark?, if_true]
  rw [month]
  simp only [if_true]
  rw [day]
  simp only [separator?, true_or, if_true]
  rw [hour]
  simp only [if_true]
  rw [minute]
  simp only [if_true]
  rw [second]
  simp only
  rw [fraction]
  simp only
  rw [offset]
  simp only [List.isEmpty_nil, if_true]
  rw [sameYear]

theorem daysOfMonth_le (year : Int) (month : Nat) : Date.daysOfMonth year month ≤ 31 := by
  unfold Date.daysOfMonth
  split_ifs <;> decide

/-- A date and a time of day in universal time are read as they are written. -/
theorem parse?_written {d : Date} {hour minute second nanos : Nat} (early : 0 ≤ d.year)
    (late : d.year ≤ 9999) (valid : d.isValid = true) (hours : hour < 24) (minutes : minute < 60)
    (seconds : second < 60) (small : nanos < 1000000000) :
    parse? (String.ofList (yearText d.year ++ '-' :: padded 2 d.month ++ '-' :: padded 2 d.day ++
      'T' :: padded 2 hour ++ ':' :: padded 2 minute ++ ':' :: padded 2 second ++
      fractionText nanos ++ ['+', '0', '0', ':', '0', '0'])) =
      Written.instant? ⟨d, hour, minute, second, nanos, 0⟩ := by
  obtain ⟨-, month, -, day⟩ := (Date.isValid_iff d).1 valid
  have lastDay : d.day ≤ 31 := day.trans (daysOfMonth_le d.year d.month)
  have year (rest : List Char) :
      digits? 4 (padded 4 d.year.toNat ++ rest) = some (d.year.toNat, rest) :=
    digits?_padded (by decide) (by omega) rest
  have two {n : Nat} (small : n < 100) (rest : List Char) :
      digits? 2 (padded 2 n ++ rest) = some (n, rest) :=
    digits?_padded (by decide) small rest
  have offset : offset? false ['+', '0', '0', ':', '0', '0'] = some (0, []) := by decide
  simp only [List.append_assoc, List.cons_append]
  refine parse?_of_fields ?_ (Int.toNat_of_nonneg early) (two (show d.month < 100 by omega) _)
    (two (show d.day < 100 by omega) _) (two (show hour < 100 by omega) _)
    (two (show minute < 100 by omega) _) (two (show second < 100 by omega) _)
    (fraction?_fractionText small ['0', '0', ':', '0', '0']) offset
  rw [String.toList_ofList, yearText, if_pos ⟨early, late⟩]
  exact year _

/-- The date of an instant. -/
def date (t : Instant) : Date := Date.ofDays ((t.nanos.fdiv perSecond).fdiv perDay)

/-- **An instant comes back from its text**, in the years of four digits. -/
theorem parse?_render {t : Instant} (early : 0 ≤ t.date.year) (late : t.date.year ≤ 9999) :
    parse? t.render = some t := by
  obtain ⟨nanos⟩ := t
  have second : nanos.fdiv perSecond = nanos / 1000000000 :=
    Int.fdiv_eq_ediv_of_nonneg _ (by decide)
  have part : nanos.fmod perSecond = nanos % 1000000000 :=
    Int.fmod_eq_emod_of_nonneg _ (by decide)
  have days : (nanos / 1000000000).fdiv perDay = nanos / 1000000000 / 86400 :=
    Int.fdiv_eq_ediv_of_nonneg _ (by decide)
  obtain ⟨valid, back⟩ := Date.ofDays_spec (nanos / 1000000000 / 86400)
  simp only [date, second, days] at early late
  unfold render
  simp only [second, part, days]
  generalize Date.ofDays (nanos / 1000000000 / 86400) = d at *
  obtain ⟨ofDay, ofDaySame⟩ : ∃ n : Nat,
      nanos / 1000000000 - nanos / 1000000000 / 86400 * perDay = n :=
    Int.eq_ofNat_of_zero_le (by unfold perDay; omega)
  obtain ⟨fraction, fractionSame⟩ : ∃ n : Nat, nanos % 1000000000 = n :=
    Int.eq_ofNat_of_zero_le (by omega)
  have hours : ofDay / 3600 < 24 := by unfold perDay at ofDaySame; omega
  have minutes : ofDay / 60 % 60 < 60 := Nat.mod_lt _ (by decide)
  have seconds : ofDay % 60 < 60 := Nat.mod_lt _ (by decide)
  have small : fraction < 1000000000 := by omega
  rw [ofDaySame, fractionSame, Int.toNat_natCast, Int.toNat_natCast,
    parse?_written early late valid hours minutes seconds small, Written.instant?, if_pos]
  · simp only [Option.some.injEq, Instant.mk.injEq, perSecond, back]
    unfold perDay at ofDaySame ⊢
    omega
  · simp only [Bool.and_eq_true, decide_eq_true_eq]
    exact ⟨⟨⟨valid, hours⟩, minutes⟩, seconds.le⟩

/-- **Only then does it come back at all.**  The text of any other year begins with a sign, and the
strict reader asks for a digit. -/
theorem year_of_parse?_render {t back : Instant} (read : parse? t.render = some back) :
    0 ≤ t.date.year ∧ t.date.year ≤ 9999 := by
  by_contra outside
  obtain ⟨sign, rest, text, noDigit⟩ : ∃ (sign : Char) (rest : List Char),
      t.render.toList = sign :: rest ∧ sign.isDigit = false := by
    unfold date at outside
    unfold render
    rw [String.toList_ofList, yearText, if_neg outside]
    split
    · exact ⟨'-', _, rfl, rfl⟩
    · exact ⟨'+', _, rfl, rfl⟩
  have silent : digits? 4 t.render.toList = none := by
    rw [text, digits?, List.take_succ_cons, if_neg]
    simp [noDigit]
  unfold parse? at read
  rw [silent] at read
  cases read

end Runbook.Instant
