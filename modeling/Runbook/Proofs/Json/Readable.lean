import Runbook.Proofs.Json.Double
import Runbook.Proofs.Json.ReadBack

/-!
# Values that were read

Nothing is known of the values in a text before it is read, but what the reader accepts it has
checked: the integers have 64 bits, the doubles are in their range, and no more containers nest than
are read.  That is all it takes for a value to be written and read again, so what was read once can
be read again and again.

## Main definitions

* `Json.Readable`: values with numbers that there are, in no more than so many containers
* `Json.Numbers`: what a reader of numbers reads is such a value

## Main statements

* `Json.numbers_number`: the reader of numbers reads numbers that there are
* `Json.readable_of_value?`, `Json.readable_of_scan?`: what is read is readable
* `Json.Readable.canonical`: it stays so when its fields are put in order
* `Json.readable_of_parseObject?`: so data that are read are readable

## Design notes

Values that are storable are readable, but not the other way round: a storable value has its fields
in order, which a text need not, and lists that can be counted in 64 bits, which nobody counts while
reading.
-/

namespace Runbook

namespace Double

/-- The double nearest to a quotient is one. -/
theorem proper_of_ofRatio {negative : Bool} {num den : Nat} {z : Double} (positive : 0 < den)
    (found : ofRatio negative num den = some z) : z.Proper := by
  unfold ofRatio at found
  dsimp only at found
  split at found
  · cases found
  · rename_i within
    obtain rfl := Option.some.inj found
    obtain ⟨mantissa, least⟩ := nearest_proper num positive
    exact ⟨mantissa, least, not_lt.1 within⟩

theorem proper_of_mul {x y z : Double} (found : x.mul y = some z) : z.Proper := by
  unfold mul at found
  dsimp only at found
  split at found
  · exact proper_of_ofRatio one_pos found
  · exact proper_of_ofRatio (by rw [Nat.shiftLeft_eq]; positivity) found

theorem proper_of_div {x y z : Double} (positive : 0 < y.mantissa) (found : x.div y = some z) :
    z.Proper := by
  unfold div at found
  dsimp only at found
  split at found
  · exact proper_of_ofRatio positive found
  · exact proper_of_ofRatio (by rw [Nat.shiftLeft_eq]; positivity) found

end Double

namespace Json

open Runbook.Double

/-- Values that nest in at most `depth` containers, with integers of 64 bits and doubles that there
are. -/
inductive Readable : Nat → Json → Prop where
  | null {depth : Nat} : Readable depth .null
  | bool {depth : Nat} (b : Bool) : Readable depth (.bool b)
  | int {depth : Nat} {n : Int} (fits : Fits n) : Readable depth (.int n)
  | double {depth : Nat} {x : Double} (proper : x.Proper) : Readable depth (.double x)
  | str {depth : Nat} (s : String) : Readable depth (.str s)
  | arr {depth : Nat} {items : List Json} (inside : ∀ item ∈ items, Readable depth item) :
      Readable (depth + 1) (.arr items)
  | obj {depth : Nat} {fields : List (String × Json)}
      (inside : ∀ field ∈ fields, Readable depth field.2) : Readable (depth + 1) (.obj fields)

/-! ## Numbers -/

/-- What is read, if anything is, is a number that there is. -/
def Numbers (read? : Option (Json × List Char)) : Prop :=
  ∀ value rest, read? = some (value, rest) → ∀ depth, Readable depth value

theorem numbers_none : Numbers none := nofun

theorem numbers_some {value : Json} (rest : List Char) (readable : ∀ depth, Readable depth value) :
    Numbers (some (value, rest)) := by
  intro value rest read
  obtain ⟨rfl, -⟩ := Prod.mk.inj (Option.some.inj read)
  exact readable

theorem powerOfTen_positive {k : Nat} (small : k ≤ 308) : 0 < (powerOfTen k).mantissa := by
  obtain ⟨-, large, -⟩ := powerOfTen_spec small
  refine Nat.pos_of_ne_zero fun zero => ?_
  rw [magnitude, zero, Nat.cast_zero, zero_mul] at large
  exact absurd large (by norm_num)

/-- What is left of a double when it is scaled is one. -/
theorem proper_of_scale? {fuel : Nat} {x z : Double} (proper : x.Proper) {k : Int}
    (scaled : scale? fuel x k = some z) : z.Proper := by
  induction fuel generalizing x k with
  | zero =>
    unfold scale? at scaled
    split at scaled
    · exact Option.some.inj scaled ▸ proper
    · cases scaled
  | succ fuel ih =>
    unfold scale? at scaled
    split at scaled
    · rename_i near
      split at scaled
      · exact proper_of_mul scaled
      · exact proper_of_div (powerOfTen_positive near) scaled
    split at scaled
    · exact Option.some.inj scaled ▸ proper
    split at scaled
    · cases scaled
    · obtain ⟨y, divided, scaled⟩ := Option.bind_eq_some_iff.1 scaled
      exact ih (proper_of_div (powerOfTen_positive (le_refl 308)) divided) scaled

theorem numbers_scaled? (negative : Bool) {n : Nat} (fits : n ≤ maxUnsigned) (k : Int)
    (rest : List Char) : Numbers ((scaled? negative n k).map (·, rest)) := by
  unfold scaled?
  cases scaled : scale? 4 (.ofInt n) k with
  | none => exact numbers_none
  | some x =>
    have proper := proper_of_scale? (ofInt_proper_of_le fits) scaled
    refine numbers_some rest fun depth => ?_
    cases negative with
    | false => exact .double proper
    | true => exact .double proper.neg

theorem takeSignificand_le {n : Nat} (fits : n ≤ maxUnsigned) (cs : List Char) :
    (takeSignificand n cs).1 ≤ maxUnsigned := by
  induction cs generalizing n with
  | nil => exact fits
  | cons c cs ih =>
    unfold takeSignificand
    dsimp only
    split
    · rename_i more
      exact ih more
    · exact fits

section

variable (negative : Bool) {n : Nat} (fits : n ≤ maxUnsigned)

include fits

theorem numbers_power? (k : Int) (down : Bool) (cs : List Char) :
    Numbers (power? negative n k down cs) := by
  unfold power?
  dsimp only
  split
  · exact numbers_none
  split
  · split
    · exact numbers_none
    · exact numbers_some _ fun depth => .double (zero_proper negative)
  · exact numbers_scaled? negative fits _ _

theorem numbers_ending? (k : Int) (cs : List Char) : Numbers (ending? negative n k cs) := by
  have exponent (cs : List Char) : Numbers (withExponent? negative n k cs) := by
    rw [withExponent?_eq]
    split <;> exact numbers_power? negative fits k _ _
  unfold ending?
  split
  · exact exponent _
  · exact exponent _
  · exact numbers_scaled? negative fits k _

theorem numbers_whole? (left : Nat) (rest : List Char) :
    Numbers (whole? negative n left rest) := by
  have large : Fits n := by
    unfold Fits
    omega
  unfold whole?
  split
  · exact numbers_scaled? negative fits _ _
  split
  · exact numbers_some _ fun depth => .int large
  split
  · exact numbers_some _ fun depth => .double (zero_proper true)
  split
  · rename_i small
    have low : Fits (-(n : Int)) := by
      unfold Fits maxUnsigned
      norm_num at small ⊢
      omega
    exact numbers_some _ fun depth => .int low
  · exact numbers_some _ fun depth => .double (ofInt_proper_of_le fits).neg

theorem numbers_afterWhole? (left : Nat) (cs : List Char) :
    Numbers (afterWhole? negative n left cs) := by
  unfold afterWhole?
  split
  · dsimp only
    split
    · exact numbers_none
    · exact numbers_ending? negative (takeSignificand_le fits _) _ _
  · exact numbers_ending? negative fits _ _
  · exact numbers_ending? negative fits _ _
  · exact numbers_whole? negative fits _ _

end

/-- **The reader of numbers reads numbers that there are.** -/
theorem numbers_number (negative : Bool) (cs : List Char) : Numbers (number negative cs) := by
  rw [number_eq]
  dsimp only
  split
  · exact numbers_none
  · exact numbers_afterWhole? negative (takeSignificand_le (Nat.zero_le _) _) _ _

/-! ## The reader -/

/-- What a reader reads, at the front of a text, is readable. -/
structure Sound (fuel : Nat) : Prop where
  value : ∀ {depth : Nat} {cs rest : List Char} {value : Json},
    value? fuel depth cs = some (value, rest) → Readable depth value
  items : ∀ {depth : Nat} {cs rest : List Char} {items : List Json},
    items? fuel depth cs = some (items, rest) → ∀ item ∈ items, Readable depth item
  fields : ∀ {depth : Nat} {cs rest : List Char} {fields : List (String × Json)},
    fields? fuel depth cs = some (fields, rest) → ∀ field ∈ fields, Readable depth field.2

variable {fuel depth : Nat} {cs rest : List Char}

theorem Sound.value_succ (sound : Sound fuel) {value : Json}
    (read : value? (fuel + 1) depth cs = some (value, rest)) : Readable depth value := by
  unfold value? at read
  split at read
  · obtain ⟨_, -, same⟩ := Option.map_eq_some_iff.1 read
    cases same
    exact .null
  · obtain ⟨_, -, same⟩ := Option.map_eq_some_iff.1 read
    cases same
    exact .bool true
  · obtain ⟨_, -, same⟩ := Option.map_eq_some_iff.1 read
    cases same
    exact .bool false
  · obtain ⟨_, -, same⟩ := Option.map_eq_some_iff.1 read
    cases same
    exact .str _
  · split at read
    · cases read
    · rename_i inside
      obtain ⟨depth, rfl⟩ := Nat.exists_eq_add_one_of_ne_zero inside
      split at read
      · cases read
        exact .arr (List.forall_mem_nil _)
      · obtain ⟨_, items, same⟩ := Option.map_eq_some_iff.1 read
        cases same
        exact .arr (sound.items items)
  · split at read
    · cases read
    · rename_i inside
      obtain ⟨depth, rfl⟩ := Nat.exists_eq_add_one_of_ne_zero inside
      split at read
      · cases read
        exact .obj (List.forall_mem_nil _)
      · obtain ⟨_, fields, same⟩ := Option.map_eq_some_iff.1 read
        cases same
        exact .obj (sound.fields fields)
  · exact numbers_number true _ _ _ read depth
  · split at read
    · exact numbers_number false _ _ _ read depth
    · cases read
  · cases read

theorem Sound.items_succ (sound : Sound fuel) {items : List Json}
    (read : items? (fuel + 1) depth cs = some (items, rest)) :
    ∀ item ∈ items, Readable depth item := by
  unfold items? at read
  obtain ⟨⟨item, after⟩, first, read⟩ := Option.bind_eq_some_iff.1 read
  dsimp only at read
  split at read
  · cases read
    exact List.forall_mem_singleton.2 (sound.value first)
  · obtain ⟨⟨others, last⟩, more, same⟩ := Option.bind_eq_some_iff.1 read
    cases same
    exact List.forall_mem_cons.2 ⟨sound.value first, sound.items more⟩
  · cases read

theorem Sound.fields_succ (sound : Sound fuel) {fields : List (String × Json)}
    (read : fields? (fuel + 1) depth cs = some (fields, rest)) :
    ∀ field ∈ fields, Readable depth field.2 := by
  unfold fields? at read
  split at read
  · obtain ⟨⟨key, after⟩, -, read⟩ := Option.bind_eq_some_iff.1 read
    dsimp only at read
    split at read
    · obtain ⟨⟨value, after⟩, first, read⟩ := Option.bind_eq_some_iff.1 read
      dsimp only at read
      split at read
      · cases read
        exact List.forall_mem_singleton.2 (sound.value first)
      · obtain ⟨⟨others, last⟩, more, same⟩ := Option.bind_eq_some_iff.1 read
        cases same
        exact List.forall_mem_cons.2 ⟨sound.value first, sound.fields more⟩
      · cases read
    · cases read
  · cases read

/-- **What is read is readable**, however much fuel there is. -/
theorem sound (fuel : Nat) : Sound fuel := by
  induction fuel with
  | zero =>
    refine ⟨fun read => ?_, fun read => ?_, fun read => ?_⟩
    · unfold value? at read
      cases read
    · unfold items? at read
      cases read
    · unfold fields? at read
      cases read
  | succ fuel ih => exact ⟨ih.value_succ, ih.items_succ, ih.fields_succ⟩

/-- So is what is read of a whole text. -/
theorem readable_of_scan? {text : String} {value : Json} (read : scan? text = some value) :
    Readable maxDepth value := by
  unfold scan? at read
  dsimp only at read
  split at read
  · rename_i found rest front
    split at read
    · obtain rfl := Option.some.inj read
      exact (sound _).value front
    · cases read
  · cases read

/-! ## In key order -/

theorem mem_canonicalItems {items : List Json} {item : Json} (member : item ∈ canonicalItems items) :
    ∃ before ∈ items, item = canonical before := by
  induction items with
  | nil =>
    rw [canonicalItems] at member
    cases member
  | cons first rest ih =>
    rw [canonicalItems] at member
    rcases List.mem_cons.1 member with rfl | member
    · exact ⟨first, List.mem_cons_self, rfl⟩
    · obtain ⟨before, among, same⟩ := ih member
      exact ⟨before, List.mem_cons_of_mem _ among, same⟩

theorem mem_canonicalFields {fields : List (String × Json)} {field : String × Json}
    (member : field ∈ canonicalFields fields) :
    ∃ before ∈ fields, field.2 = canonical before.2 := by
  induction fields with
  | nil =>
    rw [canonicalFields] at member
    cases member
  | cons first rest ih =>
    obtain ⟨key, value⟩ := first
    rw [canonicalFields] at member
    rcases List.mem_cons.1 member with rfl | member
    · exact ⟨(key, value), List.mem_cons_self, rfl⟩
    · obtain ⟨before, among, same⟩ := ih member
      exact ⟨before, List.mem_cons_of_mem _ among, same⟩

variable {depth : Nat} {value : Json}

/-- A value stays readable when its fields are put in order. -/
theorem Readable.canonical (readable : Readable depth value) : Readable depth value.canonical := by
  induction readable with
  | null => simpa only [Json.canonical] using Readable.null
  | bool b => simpa only [Json.canonical] using Readable.bool b
  | int fits => simpa only [Json.canonical] using Readable.int fits
  | double proper => simpa only [Json.canonical] using Readable.double proper
  | str s => simpa only [Json.canonical] using Readable.str s
  | arr inside ih =>
    rw [Json.canonical]
    refine .arr fun item member => ?_
    obtain ⟨before, among, rfl⟩ := mem_canonicalItems member
    exact ih before among
  | obj inside ih =>
    rw [Json.canonical]
    refine .obj fun field member => ?_
    obtain ⟨before, among, same⟩ := mem_canonicalFields (Fields.mem_of_mem_ofList member)
    exact same ▸ ih before among

/-! ## Objects -/

/-- What is read of a text as an object is readable. -/
theorem readable_of_parseObject? {text : String} {fields : Object}
    (read : parseObject? text = some fields) : Readable maxDepth (.obj fields) := by
  unfold parseObject? parse? at read
  obtain ⟨value, parsed, object⟩ := Option.bind_eq_some_iff.1 read
  obtain ⟨written, scanned, rfl⟩ := Option.map_eq_some_iff.1 parsed
  have readable := (readable_of_scan? scanned).canonical
  cases same : written.canonical with
  | obj found =>
    rw [same] at object readable
    obtain rfl := Option.some.inj object
    exact readable
  | _ =>
    rw [same] at object
    cases object

/-- Fields stay readable when a value is put among them that is. -/
theorem Readable.insert {fields : Object} (readable : Readable (depth + 1) (.obj fields))
    (small : Readable depth value) (key : String) :
    Readable (depth + 1) (.obj (fields.insert key value)) := by
  cases readable with
  | obj inside =>
    refine .obj fun field member => ?_
    rcases Fields.mem_insert member with rfl | member
    · exact small
    · exact inside field member

end Json

end Runbook
