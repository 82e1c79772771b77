import Runbook.Json.Printer
import Runbook.Json.Reader
import Runbook.Proofs.Number.Digits

/-!
# The text of a number

The reader of numbers takes as much as it can.  Inside another value something follows the number,
and this module says that the reader stops there, and that the texts of integers and of doubles are
read to their end.

## Main definitions

* `Json.Delimited`: the texts that may follow a value inside another one
* `Json.Numeral`: the texts of numbers
* `Json.numeral?`: the number of such a text

## Main statements

* `Json.number_append`: a number ends where something else begins
* `Json.Numeral.value?_append`: the reader of values reads the number of a text of a number
* `Json.numeral_writeInt`, `Json.numeral_write`: integers and doubles are written as such texts
* `Json.numeral?_writeInt`: an integer of 64 bits comes back as it was
-/

namespace Runbook.Json

-- The core library's powers, also where another library declares powers of its own.
attribute [local instance (high)] instPowNat

/-! ## Where a number ends -/

/-- The texts that may follow a value inside another one. -/
def Delimited (rest : List Char) : Prop := ∀ c ∈ rest.head?, c = ',' ∨ c = ']' ∨ c = '\x7d'

theorem delimited_nil : Delimited [] := by
  intro c member
  cases member

theorem delimited_cons {c : Char} (rest : List Char) (mark : c = ',' ∨ c = ']' ∨ c = '\x7d') :
    Delimited (c :: rest) := by
  intro d member
  obtain rfl := Option.some.inj member
  exact mark

/-- A number from after the sign of its exponent. -/
def power? (negative : Bool) (n : Nat) (k : Int) (down : Bool) (cs : List Char) :
    Option (Json × List Char) :=
  let (digits, rest) := takeDigits cs
  if digits.isEmpty then none
  else
    let e := digitsValue digits
    if maxExponent < e then
      if n ≠ 0 ∧ ¬ down then none else some (double (.zero negative), rest)
    else
      let e : Int := if down then k - e else k + e
      (scaled? negative n e).map (·, rest)

theorem withExponent?_eq (negative : Bool) (n : Nat) (k : Int) (cs : List Char) :
    withExponent? negative n k cs =
      match cs with
      | '+' :: rest => power? negative n k false rest
      | '-' :: rest => power? negative n k true rest
      | rest => power? negative n k false rest := by
  cases cs with
  | nil => rfl
  | cons c cs =>
    by_cases plus : c = '+'
    · subst plus
      rfl
    by_cases minus : c = '-'
    · subst minus
      rfl
    · simp [withExponent?, power?, plus, minus]

/-- A number from after its whole part, which goes on with neither a fraction nor an exponent. -/
def whole? (negative : Bool) (n left : Nat) (rest : List Char) : Option (Json × List Char) :=
  if left ≠ 0 then (scaled? negative n left).map (·, rest)
  else if ¬ negative then some (int n, rest)
  else if n = 0 then some (double (.zero true), rest)
  else if n ≤ 2 ^ (63 : Nat) then some (int (-(n : Int)), rest)
  else some (double (Double.ofInt n).neg, rest)

/-- A number from after its whole part: the digits of that which fit and the number of those that
do not are known. -/
def afterWhole? (negative : Bool) (n left : Nat) : List Char → Option (Json × List Char)
  | '.' :: rest =>
    let (fraction, rest) := takeDigits rest
    if fraction.isEmpty then none
    else
      let (n, dropped) := takeSignificand n fraction
      ending? negative n ((left : Int) - (fraction.length - dropped : Nat)) rest
  | 'e' :: rest => ending? negative n left ('e' :: rest)
  | 'E' :: rest => ending? negative n left ('E' :: rest)
  | rest => whole? negative n left rest

theorem number_eq (negative : Bool) (cs : List Char) :
    number negative cs =
      let (whole, rest) := takeDigits cs
      if whole.isEmpty || (whole.head? == some '0' && whole.length != 1) then none
      else
        let (n, left) := takeSignificand 0 whole
        afterWhole? negative n left rest := by
  unfold number
  dsimp only
  split
  · rfl
  · generalize (takeDigits cs).2 = tail
    cases tail with
    | nil => rfl
    | cons c tail =>
      by_cases point : c = '.'
      · subst point
        rfl
      by_cases small : c = 'e'
      · subst small
        rfl
      by_cases capital : c = 'E'
      · subst capital
        rfl
      · simp [afterWhole?, whole?, point, small, capital]

theorem whole?_append (negative : Bool) (n left : Nat) (cs rest : List Char) :
    whole? negative n left (cs ++ rest) =
      (whole? negative n left cs).map fun read => (read.1, read.2 ++ rest) := by
  unfold whole?
  split
  · rw [Option.map_map]
    rfl
  · repeat' split
    all_goals rfl

section Ends

variable {rest : List Char} (delimited : Delimited rest)

include delimited

/-- A run of digits ends where something else begins. -/
theorem takeDigits_append_of_delimited (cs : List Char) :
    takeDigits (cs ++ rest) = ((takeDigits cs).1, (takeDigits cs).2 ++ rest) := by
  induction cs with
  | nil =>
    cases rest with
    | nil => rfl
    | cons c rest => rcases delimited c rfl with rfl | rfl | rfl <;> rfl
  | cons c cs ih =>
    have parts := Prod.mk.inj ih
    by_cases digit : c.isDigit
    · simp only [takeDigits, List.cons_append, List.takeWhile_cons, List.dropWhile_cons, digit,
        if_true] at parts ⊢
      rw [parts.1, parts.2]
    · simp [takeDigits, digit]

theorem power?_append (negative : Bool) (n : Nat) (k : Int) (down : Bool) (cs : List Char) :
    power? negative n k down (cs ++ rest) =
      (power? negative n k down cs).map fun read => (read.1, read.2 ++ rest) := by
  unfold power?
  rw [takeDigits_append_of_delimited delimited]
  dsimp only
  split
  · rfl
  split
  · split <;> rfl
  · rw [Option.map_map]
    rfl

theorem withExponent?_append (negative : Bool) (n : Nat) (k : Int) (cs : List Char) :
    withExponent? negative n k (cs ++ rest) =
      (withExponent? negative n k cs).map fun read => (read.1, read.2 ++ rest) := by
  rw [withExponent?_eq, withExponent?_eq]
  cases cs with
  | nil =>
    cases rest with
    | nil => rfl
    | cons c rest => rcases delimited c rfl with rfl | rfl | rfl <;> rfl
  | cons c cs =>
    by_cases plus : c = '+'
    · subst plus
      exact power?_append delimited negative n k false cs
    by_cases minus : c = '-'
    · subst minus
      exact power?_append delimited negative n k true cs
    · have same := power?_append delimited negative n k false (c :: cs)
      simpa [plus, minus] using same

theorem ending?_append (negative : Bool) (n : Nat) (k : Int) (cs : List Char) :
    ending? negative n k (cs ++ rest) =
      (ending? negative n k cs).map fun read => (read.1, read.2 ++ rest) := by
  cases cs with
  | nil =>
    have plain : ending? negative n k rest = (scaled? negative n k).map (·, rest) := by
      cases rest with
      | nil => rfl
      | cons c rest => rcases delimited c rfl with rfl | rfl | rfl <;> rfl
    rw [List.nil_append, plain]
    show _ = Option.map _ (Option.map _ _)
    rw [Option.map_map]
    rfl
  | cons c cs =>
    by_cases small : c = 'e'
    · subst small
      exact withExponent?_append delimited negative n k cs
    by_cases capital : c = 'E'
    · subst capital
      exact withExponent?_append delimited negative n k cs
    · simp [ending?, small, capital, Function.comp_def]

theorem afterWhole?_append (negative : Bool) (n left : Nat) (cs : List Char) :
    afterWhole? negative n left (cs ++ rest) =
      (afterWhole? negative n left cs).map fun read => (read.1, read.2 ++ rest) := by
  cases cs with
  | nil =>
    have plain : afterWhole? negative n left rest = whole? negative n left rest := by
      cases rest with
      | nil => rfl
      | cons c rest => rcases delimited c rfl with rfl | rfl | rfl <;> rfl
    rw [List.nil_append, plain]
    exact whole?_append negative n left [] rest
  | cons c cs =>
    by_cases point : c = '.'
    · subst point
      simp only [afterWhole?, List.cons_append, takeDigits_append_of_delimited delimited]
      split
      · rfl
      · exact ending?_append delimited _ _ _ _
    by_cases small : c = 'e'
    · subst small
      exact ending?_append delimited negative n left ('e' :: cs)
    by_cases capital : c = 'E'
    · subst capital
      exact ending?_append delimited negative n left ('E' :: cs)
    · have same := whole?_append negative n left (c :: cs) rest
      simpa [afterWhole?, point, small, capital] using same

/-- **A number ends where something else begins.** -/
theorem number_append (negative : Bool) (cs : List Char) :
    number negative (cs ++ rest) =
      (number negative cs).map fun read => (read.1, read.2 ++ rest) := by
  rw [number_eq, number_eq, takeDigits_append_of_delimited delimited]
  dsimp only
  split
  · rfl
  · exact afterWhole?_append delimited _ _ _ _

end Ends

/-! ## Texts of numbers -/

/-- If a number is read at all, nothing is left of the text. -/
def Spent (read? : Option (Json × List Char)) : Prop :=
  ∀ value rest, read? = some (value, rest) → rest = []

theorem spent_none : Spent none := by
  intro value rest read
  cases read

theorem spent_some (value : Json) : Spent (some (value, [])) := by
  intro value rest read
  obtain ⟨-, rfl⟩ := Prod.mk.inj (Option.some.inj read)
  rfl

theorem spent_map (value? : Option Json) : Spent (value?.map (·, [])) := by
  cases value? with
  | none => exact spent_none
  | some value => exact spent_some value

/-- Nothing but digits, and at least one. -/
def Digits (cs : List Char) : Prop := cs ≠ [] ∧ ∀ c ∈ cs, c.isDigit = true

theorem digits_repr (n : Nat) : Digits (Nat.repr n).toList := by
  refine ⟨?_, fun c => isDigit_of_mem_repr⟩
  rw [Nat.toList_repr]
  exact Nat.toDigits_ne_nil

theorem digits_append {cs ds : List Char} (digits : Digits cs) (more : ∀ c ∈ ds, c.isDigit = true) :
    Digits (cs ++ ds) := by
  refine ⟨List.append_ne_nil_of_left_ne_nil digits.1 ds, ?_⟩
  rw [List.forall_mem_append]
  exact ⟨digits.2, more⟩

/-- What may come last in a number: nothing, or an exponent with a sign. -/
def Exponent (cs : List Char) : Prop :=
  cs = [] ∨ ∃ sign ds, (sign = '+' ∨ sign = '-') ∧ Digits ds ∧ cs = 'e' :: sign :: ds

/-- What may come after the whole part of a number: an exponent, or a fraction and an exponent. -/
def Tail (cs : List Char) : Prop :=
  Exponent cs ∨ ∃ fraction exponent, (∀ c ∈ fraction, c.isDigit = true) ∧ Exponent exponent ∧
    cs = '.' :: (fraction ++ exponent)

theorem Exponent.stops {cs : List Char} (exponent : Exponent cs) :
    ∀ c ∈ cs.head?, c.isDigit = false := by
  rcases exponent with rfl | ⟨sign, ds, -, -, rfl⟩
  · simp
  · simp

theorem Tail.stops {cs : List Char} (tail : Tail cs) : ∀ c ∈ cs.head?, c.isDigit = false := by
  rcases tail with exponent | ⟨fraction, exponent, -, -, rfl⟩
  · exact exponent.stops
  · simp

theorem spent_power? {cs : List Char} (digits : Digits cs) (negative : Bool) (n : Nat) (k : Int)
    (down : Bool) : Spent (power? negative n k down cs) := by
  have run : takeDigits cs = (cs, []) := by
    simpa using takeDigits_append_of_stops [] digits.2 (by simp)
  unfold power?
  rw [run]
  dsimp only
  split
  · exact spent_none
  split
  · split
    · exact spent_none
    · exact spent_some _
  · exact spent_map _

theorem spent_ending? {cs : List Char} (exponent : Exponent cs) (negative : Bool) (n : Nat)
    (k : Int) : Spent (ending? negative n k cs) := by
  rcases exponent with rfl | ⟨sign, ds, plus | minus, digits, rfl⟩
  · exact spent_map _
  · subst plus
    show Spent (withExponent? negative n k ('+' :: ds))
    rw [withExponent?_eq]
    exact spent_power? digits negative n k false
  · subst minus
    show Spent (withExponent? negative n k ('-' :: ds))
    rw [withExponent?_eq]
    exact spent_power? digits negative n k true

theorem spent_whole? (negative : Bool) (n left : Nat) : Spent (whole? negative n left []) := by
  unfold whole?
  split
  · exact spent_map _
  · repeat' split
    all_goals exact spent_some _

theorem spent_afterWhole? {cs : List Char} (tail : Tail cs) (negative : Bool) (n left : Nat) :
    Spent (afterWhole? negative n left cs) := by
  rcases tail with exponent | ⟨fraction, exponent, digits, ends, rfl⟩
  · rcases id exponent with rfl | ⟨sign, ds, -, -, rfl⟩
    · exact spent_whole? negative n left
    · exact spent_ending? exponent negative n left
  · simp only [afterWhole?, takeDigits_append_of_stops _ digits ends.stops]
    split
    · exact spent_none
    · exact spent_ending? ends negative _ _

/-- The text of a number without sign. -/
def Magnitude (cs : List Char) : Prop := ∃ whole tail, Digits whole ∧ Tail tail ∧ cs = whole ++ tail

theorem Magnitude.spent {cs : List Char} (magnitude : Magnitude cs) (negative : Bool) :
    Spent (number negative cs) := by
  obtain ⟨whole, tail, digits, ends, rfl⟩ := magnitude
  rw [number_eq, takeDigits_append_of_stops _ digits.2 ends.stops]
  dsimp only
  split
  · exact spent_none
  · exact spent_afterWhole? ends negative _ _

/-- The text of a number. -/
def Numeral (cs : List Char) : Prop :=
  Magnitude cs ∨ ∃ rest, Magnitude rest ∧ cs = '-' :: rest

/-- The number of a text. -/
def numeral? : List Char → Option Json
  | '-' :: cs => (number true cs).map Prod.fst
  | cs => (number false cs).map Prod.fst

/-- A number that is read to its end, with something behind it. -/
theorem number_append_of_spent {cs rest : List Char} {negative : Bool}
    (spent : Spent (number negative cs)) (delimited : Delimited rest) :
    number negative (cs ++ rest) = ((number negative cs).map Prod.fst).map (·, rest) := by
  rw [number_append delimited]
  cases read : number negative cs with
  | none => rfl
  | some found =>
    obtain ⟨value, left⟩ := found
    obtain rfl := spent value left read
    rfl

theorem Magnitude.head {cs : List Char} (magnitude : Magnitude cs) :
    ∃ c more, cs = c :: more ∧ c.isDigit = true := by
  obtain ⟨whole, tail, digits, -, rfl⟩ := magnitude
  obtain ⟨c, more, rfl⟩ := List.exists_cons_of_ne_nil digits.1
  exact ⟨c, more ++ tail, rfl, digits.2 c List.mem_cons_self⟩

theorem Magnitude.numeral?_eq {cs : List Char} (magnitude : Magnitude cs) :
    numeral? cs = (number false cs).map Prod.fst := by
  obtain ⟨c, more, rfl, digit⟩ := magnitude.head
  rw [numeral?]
  rintro cs ⟨⟩
  simp at digit

/-- **The number of a text of a number is read** wherever something follows that may. -/
theorem Numeral.value?_append {cs rest : List Char} (numeral : Numeral cs)
    (delimited : Delimited rest) (fuel depth : Nat) :
    value? (fuel + 1) depth (cs ++ rest) = (numeral? cs).map (·, rest) := by
  rcases numeral with magnitude | ⟨cs, magnitude, rfl⟩
  · have read := number_append_of_spent (magnitude.spent false) delimited
    obtain ⟨c, more, rfl, digit⟩ := magnitude.head
    rw [magnitude.numeral?_eq]
    rw [List.cons_append] at read ⊢
    rw [← read, value?, if_pos digit]
    all_goals
      rintro ⟨⟩
      simp at digit
  · exact number_append_of_spent (magnitude.spent true) delimited

/-! ## Integers -/

theorem magnitude_repr (n : Nat) : Magnitude (Nat.repr n).toList :=
  ⟨_, [], digits_repr n, .inl (.inl rfl), (List.append_nil _).symm⟩

theorem numeral_writeInt (n : Int) : Numeral (writeInt n) := by
  unfold writeInt
  split
  · exact .inr ⟨_, magnitude_repr _, rfl⟩
  · exact .inl (magnitude_repr _)

/-- The number that a run of digits writes behind the digits of `n`. -/
theorem takeSignificand_eq (n : Nat) (cs : List Char) (all : (takeSignificand n cs).2 = 0) :
    takeSignificand n cs = (Nat.ofDigitChars 10 cs n, 0) := by
  induction cs generalizing n with
  | nil => simp [takeSignificand]
  | cons c cs ih =>
    unfold takeSignificand at all ⊢
    dsimp only at all ⊢
    split
    · rename_i fits
      rw [if_pos fits] at all
      rw [ih _ all, Nat.ofDigitChars_cons, Nat.mul_comm n 10]
      rfl
    · rename_i large
      rw [if_neg large] at all
      exact absurd all (Nat.succ_ne_zero _)

/-- Digits that fit are taken, all of them. -/
theorem takeSignificand_of_le (n : Nat) (cs : List Char)
    (fits : Nat.ofDigitChars 10 cs n ≤ maxUnsigned) :
    takeSignificand n cs = (Nat.ofDigitChars 10 cs n, 0) := by
  induction cs generalizing n with
  | nil => simp [takeSignificand]
  | cons c cs ih =>
    rw [Nat.ofDigitChars_cons, Nat.mul_comm 10 n] at fits ⊢
    have first : n * 10 + digitValue c ≤ maxUnsigned := Nat.le_trans (le_ofDigitChars cs _) fits
    unfold takeSignificand
    dsimp only
    rw [if_pos first]
    exact ih _ fits

/-- The reader of numbers, on the digits of a number. -/
theorem number_repr (negative : Bool) (n : Nat) :
    number negative (Nat.repr n).toList =
      whole? negative (takeSignificand 0 (Nat.toDigits 10 n)).1
        (takeSignificand 0 (Nat.toDigits 10 n)).2 [] := by
  have run : takeDigits (Nat.toDigits 10 n) = (Nat.toDigits 10 n, []) := by
    have digits := (digits_repr n).2
    rw [Nat.toList_repr] at digits
    simpa using takeDigits_append_of_stops [] digits (by simp)
  have proper : ((Nat.toDigits 10 n).isEmpty || ((Nat.toDigits 10 n).head? == some '0' &&
      (Nat.toDigits 10 n).length != 1)) = false := by
    rw [Bool.or_eq_false_iff]
    refine ⟨by simp, ?_⟩
    by_cases zero : (Nat.toDigits 10 n).head? = some '0'
    · obtain rfl := head?_toDigits n zero
      rfl
    · simp [zero]
  rw [Nat.toList_repr, number_eq, run]
  dsimp only
  rw [proper]
  rfl

/-- Without a fraction and an exponent it is a double that is read, or an integer all of whose
digits fit. -/
theorem whole?_cases (negative : Bool) (n left : Nat) :
    (∃ x? : Option Double, whole? negative n left [] = x?.map fun x => (double x, [])) ∨
      left = 0 ∧ whole? negative n left [] = some (int (if negative then -n else n), []) := by
  unfold whole?
  split
  · rw [scaled?, Option.map_map]
    exact .inl ⟨(scale? 4 (.ofInt n) left).map fun x => if negative then x.neg else x, by
      rw [Option.map_map]
      rfl⟩
  rename_i all
  have all : left = 0 := by simpa using all
  cases negative with
  | false => exact .inr ⟨all, rfl⟩
  | true =>
    split
    · exact absurd rfl ‹_›
    split
    · exact .inl ⟨some (.zero true), rfl⟩
    split
    · exact .inr ⟨all, rfl⟩
    · exact .inl ⟨some (Double.ofInt n).neg, rfl⟩

/-- What is read from the text of an integer. -/
theorem numeral?_writeInt_eq (n : Int) :
    numeral? (writeInt n) =
      (whole? (decide (n < 0)) (takeSignificand 0 (Nat.toDigits 10 n.natAbs)).1
        (takeSignificand 0 (Nat.toDigits 10 n.natAbs)).2 []).map Prod.fst := by
  rw [← number_repr]
  unfold writeInt
  split
  · rename_i below
    rw [decide_eq_true below]
    rfl
  · rename_i above
    rw [decide_eq_false above]
    exact (magnitude_repr n.natAbs).numeral?_eq

/-- An integer comes back as it was, unless a double comes back. -/
theorem numeral?_writeInt_cases (n : Int) :
    numeral? (writeInt n) = some (int n) ∨
      ∃ x? : Option Double, numeral? (writeInt n) = x?.map double := by
  rw [numeral?_writeInt_eq]
  rcases whole?_cases (decide (n < 0)) (takeSignificand 0 (Nat.toDigits 10 n.natAbs)).1
    (takeSignificand 0 (Nat.toDigits 10 n.natAbs)).2 with ⟨x?, read⟩ | ⟨all, read⟩
  · rw [read, Option.map_map]
    exact .inr ⟨x?, rfl⟩
  · rw [read, takeSignificand_eq 0 _ all, Nat.ofDigitChars_ten_toDigits]
    have back : (if decide (n < 0) = true then -(n.natAbs : Int) else n.natAbs) = n := by
      by_cases below : n < 0
      · rw [if_pos (decide_eq_true below)]
        omega
      · rw [if_neg (by simpa using below)]
        omega
    rw [back]
    exact .inl rfl

/-- The integers of 64 bits, signed or unsigned. -/
def Fits (n : Int) : Prop := -2 ^ (63 : Nat) ≤ n ∧ n ≤ maxUnsigned

/-- **An integer of 64 bits comes back as it was.** -/
theorem numeral?_writeInt {n : Int} (fits : Fits n) : numeral? (writeInt n) = some (int n) := by
  obtain ⟨low, high⟩ := fits
  have small : n.natAbs ≤ maxUnsigned := by
    unfold maxUnsigned at high ⊢
    omega
  have digits : takeSignificand 0 (Nat.toDigits 10 n.natAbs) = (n.natAbs, 0) := by
    rw [takeSignificand_of_le 0 _ (by rwa [Nat.ofDigitChars_ten_toDigits]),
      Nat.ofDigitChars_ten_toDigits]
  rw [numeral?_writeInt_eq, digits]
  by_cases below : n < 0
  · have nonzero : n.natAbs ≠ 0 := by omega
    have fits : n.natAbs ≤ 2 ^ (63 : Nat) := by omega
    have back : -(n.natAbs : Int) = n := by omega
    unfold whole?
    rw [if_neg (by simp), if_neg (by simp [below]), if_neg nonzero, if_pos fits, Option.map_some,
      back]
  · have back : (n.natAbs : Int) = n := by omega
    simp [whole?, below, back]

/-! ## Doubles -/

theorem magnitude_positional {digits : List Char} (run : Digits digits) (k : Int) :
    Magnitude (Double.positional digits k) := by
  have zeros (n : Nat) : ∀ c ∈ List.replicate n '0', c.isDigit = true :=
    fun c => isDigit_of_mem_replicate
  unfold Double.positional
  split
  · exact ⟨_, ['.', '0'], digits_append run (zeros k.toNat),
      .inr ⟨['0'], [], by simp, .inl rfl, rfl⟩, rfl⟩
  dsimp only
  split
  · rename_i inside
    refine ⟨_, _, ⟨?_, fun c member => run.2 c (List.mem_of_mem_take member)⟩,
      .inr ⟨digits.drop (digits.length - (-k).toNat), [],
        fun c member => run.2 c (List.mem_of_mem_drop member), .inl rfl, ?_⟩, rfl⟩
    · rw [Ne, List.take_eq_nil_iff, not_or]
      exact ⟨by omega, run.1⟩
    · rw [List.append_nil]
  · refine ⟨['0'], _, by simp [Digits],
      .inr ⟨_, [], ?_, .inl rfl, by rw [List.append_nil]⟩, rfl⟩
    rw [List.forall_mem_append]
    exact ⟨zeros _, run.2⟩

/-- A written exponent has a sign and digits. -/
theorem exponent_written (e : Int) :
    Exponent ('e' :: (if e < 0 then '-' else '+') :: (Nat.repr e.natAbs).toList) := by
  refine .inr ⟨_, _, ?_, digits_repr _, rfl⟩
  split
  · exact .inr rfl
  · exact .inl rfl

theorem magnitude_scientific {digits : List Char} (run : Digits digits) (e : Int) :
    Magnitude (Double.scientific digits e) := by
  have exponent := exponent_written e
  obtain ⟨first, more, rfl⟩ := List.exists_cons_of_ne_nil run.1
  have front : Digits [first] := ⟨List.cons_ne_nil _ _, by simpa using run.2 first (by simp)⟩
  unfold Double.scientific
  cases more with
  | nil => exact ⟨[first], _, front, .inl exponent, rfl⟩
  | cons second more =>
    exact ⟨[first], _, front,
      .inr ⟨_, _, fun c member => run.2 c (List.mem_cons_of_mem _ member), exponent, rfl⟩, rfl⟩

/-- However the digits are written, a number is. -/
theorem magnitude_ite (fixed : Prop) [Decidable fixed] (d : Nat) (k e : Int) :
    Magnitude (if fixed then Double.positional (Nat.repr d).toList k
      else Double.scientific (Nat.repr d).toList e) := by
  split
  · exact magnitude_positional (digits_repr d) k
  · exact magnitude_scientific (digits_repr d) e

theorem numeral_write (style : Double.Style) (x : Double) : Numeral (x.write style) := by
  unfold Double.write
  dsimp only
  split
  · exact .inr ⟨_, magnitude_ite _ _ _ _, rfl⟩
  · exact .inl (magnitude_ite _ _ _ _)

end Runbook.Json
