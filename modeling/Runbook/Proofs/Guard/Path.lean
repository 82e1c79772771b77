import Runbook.Proofs.Data.Fields
import Runbook.Proofs.Guard.Signs

/-!
# Paths

A path is written as keys with points between them, and each key may have the place of an item
behind it, as in `review.tags[1].name`.  The value of a path is found by going down from the
context: into the field of a key, and into an item of the list that is found there.

Three things have to leave the written path alone before it is walked.  It has no character of a
sign and no blank, so it is one operand.  It starts with a word character, so it is no quoted text;
and what is written like a number is one only in ASCII digits, which `Decimal.mem_of_ofChars?` says.
Points occur between the keys only, and the brackets of a place end a segment, so each segment is
read as the key that it was written from.

## Main definitions

* `Guard.Path`: keys, each with the digits of a place or without, and the text they are written as
* `Guard.Reaches`: one access after the other leads from a value to another
* `Guard.Stuck`: an access leads nowhere: no such key, no such item, or no such kind of value
* `Guard.IsLiteral`: the texts of the form of a path that are literals

## Main statements

* `Guard.breaks_iff`: the accesses break off exactly if they reach nothing
* `Guard.Path.address_ofChars`: a written path is read key by key
* `Guard.Path.literal?_eq_none_iff`: which paths are literals
* `Guard.evaluate_path`: the value of a path is the one that its accesses reach
-/

namespace Runbook

/-! ## Numbers are written in ASCII -/

namespace Decimal

/-- The characters that a decimal number may be written with. -/
def Written (c : Char) : Prop := c.isDigit = true ∨ c ∈ ['+', '-', '.', 'e', 'E']

theorem written_of_takeDigits {cs : List Char} (rest : ∀ c ∈ (takeDigits cs).2, Written c) :
    ∀ c ∈ cs, Written c := by
  intro c member
  rw [← takeDigits_append cs, List.mem_append] at member
  rcases member with run | later
  · exact .inl (List.mem_takeWhile_imp run)
  · exact rest c later

theorem written_of_takeSign {cs : List Char} (rest : ∀ c ∈ (takeSign cs).2, Written c) :
    ∀ c ∈ cs, Written c := by
  unfold takeSign at rest
  split at rest
  · exact List.forall_mem_cons.2 ⟨.inr (by decide), rest⟩
  · exact List.forall_mem_cons.2 ⟨.inr (by decide), rest⟩
  · exact rest

theorem written_of_exponent? {cs : List Char} {e : Int} (read : exponent? cs = some e) :
    ∀ c ∈ cs, Written c := by
  cases cs with
  | nil => exact List.forall_mem_nil _
  | cons first rest =>
    rw [exponent?] at read
    split at read
    · rename_i mark
      refine List.forall_mem_cons.2 ⟨?_, written_of_takeSign ?_⟩
      · rcases mark with rfl | rfl <;> exact .inr (by decide)
      · dsimp only at read
        split at read
        · cases read
        · rename_i digits
          simp only [Bool.or_eq_true, Bool.not_eq_true', not_or, Bool.not_eq_false,
            List.all_eq_true] at digits
          exact fun c member => .inl (digits.2 c member)
    · cases read

/-- **A decimal number is written in ASCII.** -/
theorem mem_of_ofChars? {cs : List Char} {d : Decimal} (read : ofChars? cs = some d) :
    ∀ c ∈ cs, Written c := by
  refine written_of_takeSign (written_of_takeDigits ?_)
  unfold ofChars? unsigned? at read
  dsimp only at read
  split at read
  · rename_i rest same
    obtain ⟨e, exponent, -⟩ := Option.map_eq_some_iff.1 (Option.ite_none_left_eq_some.1 read).2
    rw [same]
    exact List.forall_mem_cons.2
      ⟨.inr (by decide), written_of_takeDigits (written_of_exponent? exponent)⟩
  · obtain ⟨e, exponent, -⟩ := Option.map_eq_some_iff.1 (Option.ite_none_left_eq_some.1 read).2
    exact written_of_exponent? exponent

end Decimal

namespace Guard

/-! ## Going down -/

/-- One way down from a value. -/
inductive Access where
  /-- Into the field of this name. -/
  | field (name : String)
  /-- Into the item at this place. -/
  | item (place : Nat)
deriving DecidableEq, Repr

/-- The access leads from the value to the other. -/
inductive Leads : Json → Access → Json → Prop
  | field {fields : Json.Object} {name : String} {inner : Json}
    (found : fields.get? name = some inner) : Leads (.obj fields) (.field name) inner
  | item {items : List Json} {place : Nat} {inner : Json} (found : items[place]? = some inner) :
    Leads (.arr items) (.item place) inner

/-- The access leads nowhere from the value. -/
inductive Stuck : Json → Access → Prop
  /-- The key is missing. -/
  | missing {fields : Json.Object} {name : String} (absent : name ∉ Fields.keys fields) :
    Stuck (.obj fields) (.field name)
  /-- The place is out of range. -/
  | outOfRange {items : List Json} {place : Nat} (beyond : items.length ≤ place) :
    Stuck (.arr items) (.item place)
  /-- The value is no object. -/
  | noObject {value : Json} {name : String} (kind : ∀ fields, value ≠ .obj fields) :
    Stuck value (.field name)
  /-- The value is no list. -/
  | noList {value : Json} {place : Nat} (kind : ∀ items, value ≠ .arr items) :
    Stuck value (.item place)

/-- The accesses lead from the value to the other, one after the other. -/
inductive Reaches : Json → List Access → Json → Prop
  | here (value : Json) : Reaches value [] value
  | step {value inner target : Json} {access : Access} {rest : List Access}
    (leads : Leads value access inner) (further : Reaches inner rest target) :
    Reaches value (access :: rest) target

/-- On the way from the value some access leads nowhere. -/
def Breaks (value : Json) (accesses : List Access) : Prop :=
  ∃ before access after middle, accesses = before ++ access :: after ∧
    Reaches value before middle ∧ Stuck middle access

theorem leads_field_iff {value inner : Json} {name : String} :
    Leads value (.field name) inner ↔ value.obj?.bind (Fields.get? · name) = some inner := by
  refine ⟨fun leads => ?_, fun found => ?_⟩
  · obtain ⟨found⟩ | _ := leads
    exact found
  · cases value with
    | obj fields => exact .field found
    | _ => cases found

theorem leads_item_iff {value inner : Json} {place : Nat} :
    Leads value (.item place) inner ↔ value.arr?.bind (·[place]?) = some inner := by
  refine ⟨fun leads => ?_, fun found => ?_⟩
  · obtain _ | ⟨found⟩ := leads
    exact found
  · cases value with
    | arr items => exact .item found
    | _ => cases found

/-- **An access leads nowhere** exactly if it leads to no value. -/
theorem stuck_iff {value : Json} {access : Access} :
    Stuck value access ↔ ∀ inner, ¬ Leads value access inner := by
  refine ⟨fun stuck inner leads => ?_, fun none => ?_⟩
  · cases leads with
    | field found =>
      cases stuck with
      | missing absent => rw [Fields.get?_eq_none_iff.2 absent] at found; cases found
      | noObject kind => exact kind _ rfl
    | item found =>
      cases stuck with
      | outOfRange beyond => rw [List.getElem?_eq_none beyond] at found; cases found
      | noList kind => exact kind _ rfl
  · cases access with
    | field name =>
      cases value with
      | obj fields =>
        refine .missing (Fields.get?_eq_none_iff.1 ?_)
        exact Option.eq_none_iff_forall_ne_some.2 fun inner found => none inner (.field found)
      | _ => exact .noObject fun fields same => by cases same
    | item place =>
      cases value with
      | arr items =>
        refine .outOfRange (List.getElem?_eq_none_iff.1 ?_)
        exact Option.eq_none_iff_forall_ne_some.2 fun inner found => none inner (.item found)
      | _ => exact .noList fun items same => by cases same

theorem Leads.unique {value inner other : Json} {access : Access}
    (leads : Leads value access inner) (leads' : Leads value access other) : inner = other := by
  cases leads with
  | field found =>
    obtain ⟨found'⟩ | _ := leads'
    exact Option.some.inj (found.symm.trans found')
  | item found =>
    obtain _ | ⟨found'⟩ := leads'
    exact Option.some.inj (found.symm.trans found')

theorem reaches_nil_iff {value target : Json} : Reaches value [] target ↔ value = target :=
  ⟨fun reaches => by cases reaches; rfl, fun same => same ▸ .here value⟩

theorem reaches_cons_iff {value target : Json} {access : Access} {rest : List Access} :
    Reaches value (access :: rest) target ↔
      ∃ inner, Leads value access inner ∧ Reaches inner rest target := by
  refine ⟨fun reaches => ?_, fun ⟨inner, leads, further⟩ => .step leads further⟩
  obtain _ | ⟨leads, further⟩ := reaches
  exact ⟨_, leads, further⟩

theorem reaches_append_iff {value target : Json} {before after : List Access} :
    Reaches value (before ++ after) target ↔
      ∃ middle, Reaches value before middle ∧ Reaches middle after target := by
  induction before generalizing value with
  | nil => simp only [List.nil_append, reaches_nil_iff, exists_eq_left']
  | cons access before ih =>
    simp only [List.cons_append, reaches_cons_iff, ih]
    exact ⟨fun ⟨inner, leads, middle, first, last⟩ => ⟨middle, ⟨inner, leads, first⟩, last⟩,
      fun ⟨middle, ⟨inner, leads, first⟩, last⟩ => ⟨inner, leads, middle, first, last⟩⟩

/-- Any accesses reach any value, from a value that is made for them. -/
theorem exists_reaches (accesses : List Access) (target : Json) :
    ∃ value, Reaches value accesses target := by
  induction accesses with
  | nil => exact ⟨target, .here target⟩
  | cons access rest ih =>
    obtain ⟨inner, further⟩ := ih
    cases access with
    | field name => exact ⟨.obj [(name, inner)], .step (.field (if_pos rfl)) further⟩
    | item place =>
      exact ⟨.arr (List.replicate place .null ++ [inner]), .step (.item (by simp)) further⟩

theorem breaks_cons_iff {value : Json} {access : Access} {rest : List Access} :
    Breaks value (access :: rest) ↔
      Stuck value access ∨ ∃ inner, Leads value access inner ∧ Breaks inner rest := by
  refine ⟨?_, ?_⟩
  · rintro ⟨before, other, after, middle, parts, first, stuck⟩
    cases before with
    | nil =>
      obtain ⟨rfl, rfl⟩ := List.cons.inj parts
      rw [reaches_nil_iff.1 first]
      exact .inl stuck
    | cons earlier before =>
      obtain ⟨rfl, rfl⟩ := List.cons.inj parts
      obtain ⟨inner, leads, further⟩ := reaches_cons_iff.1 first
      exact .inr ⟨inner, leads, before, other, after, middle, rfl, further, stuck⟩
  · rintro (stuck | ⟨inner, leads, before, other, after, middle, rfl, further, stuck⟩)
    · exact ⟨[], access, rest, value, rfl, .here value, stuck⟩
    · exact ⟨access :: before, other, after, middle, rfl, .step leads further, stuck⟩

/-- **The accesses break off** exactly if they reach nothing. -/
theorem breaks_iff {value : Json} {accesses : List Access} :
    Breaks value accesses ↔ ∀ target, ¬ Reaches value accesses target := by
  induction accesses generalizing value with
  | nil =>
    refine ⟨?_, fun none => absurd (.here value) (none value)⟩
    rintro ⟨before, access, after, middle, parts, -, -⟩
    cases before <;> cases parts
  | cons access rest ih =>
    simp only [breaks_cons_iff, reaches_cons_iff, ih]
    refine ⟨?_, fun none => ?_⟩
    · rintro (stuck | ⟨inner, leads, none⟩) target ⟨other, leads', further⟩
      · exact stuck_iff.1 stuck other leads'
      · rw [leads'.unique leads] at further
        exact none target further
    · by_cases stuck : Stuck value access
      · exact .inl stuck
      · simp only [stuck_iff, not_forall, not_not] at stuck
        obtain ⟨inner, leads⟩ := stuck
        exact .inr ⟨inner, leads, fun target further => none target ⟨inner, leads, further⟩⟩

/-! ## Written paths -/

/-- A text of at least one character, all of one class. -/
def IsRun (p : Char → Bool) (cs : List Char) : Prop := cs ≠ [] ∧ ∀ c ∈ cs, p c = true

instance (p : Char → Bool) (cs : List Char) : Decidable (IsRun p cs) :=
  decidable_of_iff (cs ≠ [] ∧ cs.all p = true) (by rw [List.all_eq_true, IsRun])

/-- A place in brackets is one if nothing stands behind it. -/
theorem Segment.place?_run {run : List Char} (number : IsRun Char.isDigit run)
    (behind : List Char) :
    place? ('[' :: (run ++ ']' :: behind)) = if behind = [] then some run else none := by
  have nonempty : run.isEmpty = false := List.isEmpty_eq_false_iff.2 number.1
  have wide : ∀ c ∈ run, Text.isDigit c = true := fun c member =>
    Text.isDigit_of_isDigit (number.2 c member)
  have closed := Text.span_of_stops (']' :: behind) wide (by simp; decide)
  rw [place?, closed.1, closed.2]
  simp [nonempty]

/-- A key of a path, possibly with the place of an item behind it. -/
structure Path.Key where
  /-- The characters of the key. -/
  name : List Char
  /-- The digits of the place. -/
  digits : Option (List Char)
  /-- A key is written in word characters. -/
  word : IsRun Text.isWordChar name
  /-- A place is written in digits, as many as there may be. -/
  number : ∀ run ∈ digits, IsRun Char.isDigit run

/-- A path: the first key and the others. -/
structure Path where
  /-- The key into the context. -/
  first : Path.Key
  /-- The keys behind points. -/
  rest : List Path.Key

namespace Path

namespace Key

theorem number_none : ∀ run ∈ (none : Option (List Char)), IsRun Char.isDigit run := by simp

/-- A key without a place. -/
def plain (name : List Char) (word : IsRun Text.isWordChar name) : Key where
  name := name
  digits := none
  word := word
  number := number_none

/-- The written key. -/
def text (key : Key) : List Char :=
  match key.digits with
  | none => key.name
  | some run => key.name ++ '[' :: (run ++ [']'])

/-- The key as a segment of an address. -/
def segment (key : Key) : Segment :=
  match key.digits with
  | none => .field (.ofList key.name)
  | some run => .item (.ofList key.name) (some (digitsValue run))

/-- The accesses of the key: into its field, and into the item at its place. -/
def accesses (key : Key) : List Access :=
  match key.digits with
  | none => [.field (.ofList key.name)]
  | some run => [.field (.ofList key.name), .item (digitsValue run)]

/-- The characters of a written key. -/
theorem mem_text {key : Key} {c : Char} (member : c ∈ key.text) :
    Text.isWordChar c = true ∨ c ∈ ['[', ']'] := by
  cases digits : key.digits with
  | none =>
    rw [text, digits] at member
    exact .inl (key.word.2 c member)
  | some run =>
    rw [text, digits] at member
    simp only [List.mem_append, List.mem_cons, List.not_mem_nil, or_false] at member
    rcases member with name | bracket | place | bracket
    · exact .inl (key.word.2 c name)
    · exact .inr (by rw [bracket]; decide)
    · exact .inl (Text.isWordChar_of_isDigit ((key.number run digits).2 c place))
    · exact .inr (by rw [bracket]; decide)

/-- **A written key is read as the key.** -/
theorem ofChars_text (key : Key) : Segment.ofChars key.text = key.segment := by
  have named : key.name.isEmpty = false := List.isEmpty_eq_false_iff.2 key.word.1
  cases digits : key.digits with
  | none =>
    have alone := Text.span_of_stops [] key.word.2 (by simp)
    rw [List.append_nil] at alone
    rw [text, segment, digits]
    dsimp only
    rw [Segment.ofChars, alone.2]
    rfl
  | some run =>
    have place : Segment.place? ('[' :: (run ++ [']'])) = some run :=
      Segment.place?_run (key.number run digits) []
    have number : Segment.number? run = some (digitsValue run) := by
      rw [Segment.number?, if_pos (List.all_eq_true.2 (key.number run digits).2)]
    have split := Text.span_of_stops ('[' :: (run ++ [']'])) key.word.2 (by simp; decide)
    rw [text, segment, digits]
    dsimp only
    rw [Segment.ofChars, split.1, split.2, place]
    dsimp only
    rw [named, if_neg Bool.false_ne_true, number]

/-- **One key down**: the segment finds what the accesses of the key reach. -/
theorem find?_segment_iff (key : Key) {value inner : Json} :
    value.obj?.bind key.segment.find? = some inner ↔ Reaches value key.accesses inner := by
  rw [segment, accesses]
  cases key.digits with
  | none =>
    simp only [reaches_cons_iff, reaches_nil_iff, exists_eq_right]
    exact leads_field_iff.symm
  | some run =>
    simp only [reaches_cons_iff, reaches_nil_iff, exists_eq_right, leads_field_iff, leads_item_iff]
    cases value with
    | obj fields =>
      simp [Json.obj?, Segment.find?, Option.bind_eq_some_iff]
    | _ => simp [Json.obj?]

end Key

/-- All keys of the path. -/
def keys (path : Path) : List Key := path.first :: path.rest

/-- The written path: the keys with points between them. -/
def text (path : Path) : List Char := List.intercalate ['.'] (path.keys.map Key.text)

/-- The accesses of the path, key by key. -/
def accesses (path : Path) : List Access := path.keys.flatMap Key.accesses

theorem mem_text {path : Path} {c : Char} (member : c ∈ path.text) :
    Text.isWordChar c = true ∨ c ∈ ['.', '[', ']'] := by
  rcases Text.mem_intercalate member with rfl | ⟨part, listed, member⟩
  · exact .inr (by decide)
  · obtain ⟨key, -, rfl⟩ := List.mem_map.1 listed
    exact (Key.mem_text member).imp_right (List.mem_cons_of_mem _)

/-- A written path has no characters but those of words, points and brackets. -/
theorem forall_notMem_text (path : Path) {others : List Char}
    (apart : others.any (fun c => Text.isWordChar c || ['.', '[', ']'].contains c) = false) :
    ∀ c ∈ path.text, c ∉ others := by
  intro c member
  refine Text.notMem_of_class ?_ apart
  rw [Bool.or_eq_true, List.contains_iff_mem]
  exact mem_text member

/-- A written path has no character of a sign in it. -/
theorem plain_text (path : Path) : Plain path.text := path.forall_notMem_text (by decide)

/-- A written path has no blank in it. -/
theorem trim_text (path : Path) : Text.trim path.text = path.text := by
  refine Text.trim_of_solid fun c member => ?_
  rcases mem_text member with word | mark
  · exact Text.isBlank_of_isWordChar word
  · exact Bool.eq_false_iff.2 fun blank => Text.notMem_of_class blank (by decide) mark

/-- **A written path is read key by key.** -/
theorem address_ofChars (path : Path) :
    Address.ofChars path.text = path.keys.map Key.segment := by
  have apart : ∀ part ∈ path.keys.map Key.text, '.' ∉ part := by
    intro part listed point
    obtain ⟨key, -, rfl⟩ := List.mem_map.1 listed
    exact absurd (Key.mem_text point) (by decide)
  rw [Address.ofChars, text, Text.splitOn_intercalate (by simp [keys]) apart, List.map_map]
  exact List.map_congr_left fun key _ => key.ofChars_text

/-- **Walking the address** of a path finds what the accesses of the path reach. -/
theorem walk?_iff (keys : List Key) {value target : Json} :
    Address.walk? (keys.map Key.segment) value = some target ↔
      Reaches value (keys.flatMap Key.accesses) target := by
  induction keys generalizing value with
  | nil => rw [List.map_nil, List.flatMap_nil, Address.walk?_nil, reaches_nil_iff, Option.some_inj]
  | cons key keys ih =>
    rw [List.map_cons, List.flatMap_cons, reaches_append_iff, Address.walk?_cons,
      ← Option.bind_assoc, Option.bind_eq_some_iff]
    simp only [key.find?_segment_iff, ih]

/-- For every path and every value there is a context in which the path reaches the value. -/
theorem exists_context (path : Path) (target : Json) :
    ∃ context, Reaches (.obj context) path.accesses target := by
  obtain ⟨value, reaches⟩ := exists_reaches path.accesses target
  obtain ⟨rest, first⟩ : ∃ rest, path.accesses = .field (.ofList path.first.name) :: rest := by
    rw [accesses, keys, List.flatMap_cons, Key.accesses]
    split <;> exact ⟨_, rfl⟩
  obtain ⟨inner, leads, -⟩ := reaches_cons_iff.1 (first ▸ reaches)
  obtain ⟨-⟩ | _ := leads
  exact ⟨_, reaches⟩

/-! ## Literals -/

/-- A path starts with a word character. -/
theorem exists_text_eq (path : Path) :
    ∃ first rest, path.text = first :: rest ∧ Text.isWordChar first = true := by
  obtain ⟨tail, named⟩ : ∃ tail, path.first.text = path.first.name ++ tail := by
    rw [Key.text]
    split
    · exact ⟨[], (List.append_nil _).symm⟩
    · exact ⟨_, rfl⟩
  obtain ⟨behind, joined⟩ : ∃ behind, path.text = path.first.text ++ behind := by
    rw [text, keys, List.map_cons]
    cases path.rest.map Key.text with
    | nil => exact ⟨[], by simp [List.intercalate]⟩
    | cons next rest => exact ⟨_, List.intercalate_cons_cons.trans (List.append_assoc _ _ _)⟩
  obtain ⟨first, rest, name⟩ := List.exists_cons_of_ne_nil path.first.word.1
  refine ⟨first, rest ++ tail ++ behind, ?_, path.first.word.2 first ?_⟩
  · rw [joined, named, name]
    simp
  · rw [name]
    exact List.mem_cons_self

end Path

/-- The texts of the form of a path that are literals: the two truth values, and the numbers in
ASCII digits, without a point or with one, that are in range. -/
inductive IsLiteral : List Char → Prop
  | yes : IsLiteral ['t', 'r', 'u', 'e']
  | no : IsLiteral ['f', 'a', 'l', 's', 'e']
  | whole {digits : List Char} (run : IsRun Char.isDigit digits)
    (inRange : (Operand.numeral? digits).isSome) : IsLiteral digits
  | fraction {whole digits : List Char} (run : IsRun Char.isDigit whole)
    (run' : IsRun Char.isDigit digits)
    (inRange : (Operand.numeral? (whole ++ '.' :: digits)).isSome) :
    IsLiteral (whole ++ '.' :: digits)

/-- A numeral without a sign is a run of digits, or two with a point between them. -/
theorem Operand.isNumeral_iff {cs : List Char} (unsigned : cs.head? ≠ some '-') :
    isNumeral cs = true ↔ IsRun Text.isDigit cs ∨
      ∃ whole digits, IsRun Text.isDigit whole ∧ IsRun Text.isDigit digits ∧
        cs = whole ++ '.' :: digits := by
  unfold isNumeral
  extract_lets body whole
  have skip : body = cs := by
    unfold body
    split
    · exact absurd rfl unsigned
    · rfl
  rw [show whole = cs.takeWhile Text.isDigit by rw [← skip], skip]
  refine ⟨fun numeral => ?_, ?_⟩
  · have parts : cs.takeWhile Text.isDigit ++ cs.dropWhile Text.isDigit = cs :=
      List.takeWhile_append_dropWhile
    split at numeral
    · cases numeral
    · rename_i some
      have run : IsRun Text.isDigit (cs.takeWhile Text.isDigit) :=
        ⟨by simpa using some, fun c => List.mem_takeWhile_imp⟩
      split at numeral
      · rename_i rest
        rw [rest, List.append_nil] at parts
        exact .inl (parts ▸ run)
      · rename_i digits rest
        rw [Bool.and_eq_true, Bool.not_eq_true', List.isEmpty_eq_false_iff,
          List.all_eq_true] at numeral
        exact .inr ⟨_, digits, run, numeral, by rw [← rest, parts]⟩
      · cases numeral
  · rintro (⟨some, digits⟩ | ⟨whole, digits, ⟨some, run⟩, ⟨some', run'⟩, rfl⟩)
    · have alone := Text.span_of_stops [] digits (by simp)
      rw [List.append_nil] at alone
      rw [alone.1, alone.2, List.isEmpty_eq_false_iff.2 some]
      rfl
    · have point := Text.span_of_stops ('.' :: digits) run (by simp; decide)
      rw [point.1, point.2, List.isEmpty_eq_false_iff.2 some, if_neg Bool.false_ne_true]
      show (!digits.isEmpty && digits.all Text.isDigit) = true
      rw [List.isEmpty_eq_false_iff.2 some', List.all_eq_true.2 run']
      rfl

/-- Every numeral of path form that has a value is a number in ASCII digits. -/
theorem isLiteral_of_numeral? {cs : List Char} {value : Json} (unsigned : cs.head? ≠ some '-')
    (numeral : Operand.isNumeral cs = true) (read : Operand.numeral? cs = some value) :
    IsLiteral cs := by
  obtain ⟨d, decimal, -⟩ := Option.bind_eq_some_iff.1 read
  have written := Decimal.mem_of_ofChars? decimal
  have ascii {run : List Char} (digits : IsRun Text.isDigit run) (inside : ∀ c ∈ run, c ∈ cs) :
      IsRun Char.isDigit run := by
    refine ⟨digits.1, fun c member => ?_⟩
    exact (written c (inside c member)).resolve_right
      (Text.notMem_of_class (digits.2 c member) (by decide))
  have inRange : (Operand.numeral? cs).isSome := by rw [read]; rfl
  rcases (Operand.isNumeral_iff unsigned).1 numeral with run | ⟨whole, digits, run, run', rfl⟩
  · exact .whole (ascii run fun c member => member) inRange
  · refine .fraction (ascii run fun c member => ?_) (ascii run' fun c member => ?_) inRange
    · exact List.mem_append_left _ member
    · exact List.mem_append_right _ (List.mem_cons_of_mem _ member)

/-- A text of the form of a literal is one. -/
theorem isSome_literal? {cs : List Char} (literal : IsLiteral cs) :
    (Operand.literal? cs).isSome = true := by
  have wide {run : List Char} (digits : IsRun Char.isDigit run) : IsRun Text.isDigit run :=
    ⟨digits.1, fun c member => Text.isDigit_of_isDigit (digits.2 c member)⟩
  have unsigned {run : List Char} (digits : IsRun Char.isDigit run) (tail : List Char) :
      (run ++ tail).head? ≠ some '-' := by
    obtain ⟨first, rest, rfl⟩ := List.exists_cons_of_ne_nil digits.1
    have digit := digits.2 first List.mem_cons_self
    rw [List.cons_append, List.head?_cons, ne_eq, Option.some_inj]
    rintro rfl
    cases digit
  have number {cs : List Char} (numeral : Operand.isNumeral cs = true)
      (inRange : (Operand.numeral? cs).isSome = true) : (Operand.literal? cs).isSome = true := by
    unfold Operand.literal?
    rw [if_pos numeral]
    split
    · rfl
    · split
      · rfl
      · exact inRange
  cases literal with
  | yes => rfl
  | no => rfl
  | whole run inRange =>
    have start := unsigned run []
    rw [List.append_nil] at start
    exact number ((Operand.isNumeral_iff start).2 (.inl (wide run))) inRange
  | fraction run run' inRange =>
    refine number ((Operand.isNumeral_iff (unsigned run _)).2 (.inr ?_)) inRange
    exact ⟨_, _, wide run, wide run', rfl⟩

namespace Path

/-- **Which paths are literals.** -/
theorem literal?_eq_none_iff (path : Path) :
    Operand.literal? path.text = none ↔ ¬ IsLiteral path.text := by
  obtain ⟨first, rest, same, word⟩ := path.exists_text_eq
  have apart {c : Char} (other : Text.isWordChar c = false) : first ≠ c := by
    rintro rfl
    rw [word] at other
    cases other
  have unsigned : path.text.head? ≠ some '-' := by
    rw [same, List.head?_cons, ne_eq, Option.some_inj]
    exact apart (by decide)
  have unquoted {mark : Char} (other : Text.isWordChar mark = false) :
      Operand.quoted? mark path.text = none := by
    rw [same]
    unfold Operand.quoted?
    split
    · rename_i start _ _ parts
      obtain ⟨rfl, -⟩ := List.cons.inj parts
      exact if_neg fun both => apart other both.1
    · rfl
  refine ⟨fun none literal => ?_, fun free => ?_⟩
  · have some := isSome_literal? literal
    rw [none] at some
    cases some
  · rw [Operand.literal?, if_neg fun same => free (by rw [same]; exact .yes),
      if_neg fun same => free (by rw [same]; exact .no)]
    split
    · rename_i numeral
      cases read : Operand.numeral? path.text with
      | none => rfl
      | some value => exact absurd (isLiteral_of_numeral? unsigned numeral read) free
    · rw [unquoted (by decide)]
      exact unquoted (by decide)

/-- A path that is no literal is the operand that its keys say. -/
theorem evaluate_eq (path : Path) (free : Operand.literal? path.text = none)
    (context : Json.Object) :
    evaluate path.text context =
      (Address.walk? (path.keys.map Key.segment) (.obj context)).getD .null := by
  have operand : Operand.ofChars path.text = .address (path.keys.map Key.segment) := by
    rw [Operand.ofChars, free]
    dsimp only
    rw [path.address_ofChars]
  have unsigned : Expr.findSign? Comparison.all (Text.trim path.text) = none := by
    rw [path.trim_text, Expr.findSign?_eq_none_iff.2 path.plain_text.unsigned]
  rw [evaluate, Expr.ofChars_of_none unsigned, path.trim_text, operand]
  rfl

/-- Blanks around a path have no characters of signs either. -/
theorem plain_of_trim (path : Path) {text : List Char} (written : Text.trim text = path.text) :
    Plain text := .of_trim (written ▸ path.plain_text)

/-- **The value that a path reaches** is the value of the path, with blanks around it or without. -/
theorem evaluate_of_reaches (path : Path) (free : ¬ IsLiteral path.text) {text : List Char}
    (written : Text.trim text = path.text) {context : Json.Object} {value : Json}
    (reaches : Reaches (.obj context) path.accesses value) : evaluate text context = value := by
  have bare : evaluate text context = evaluate path.text context := by
    rw [evaluate, evaluate, Expr.ofChars_congr (written.trans path.trim_text.symm)]
  rw [bare, path.evaluate_eq (path.literal?_eq_none_iff.2 free), (walk?_iff path.keys).2 reaches,
    Option.getD_some]

end Path

/-- **The value of a path** that is no literal is the one that its accesses reach, and it is null
exactly if they reach null or break off: at a key that is missing, at a place that is out of range,
or at a value of another kind. -/
theorem evaluate_path (path : Path) (free : ¬ IsLiteral path.text) (context : Json.Object) :
    (∀ value, Reaches (.obj context) path.accesses value →
      evaluate path.text context = value) ∧
    (evaluate path.text context = .null ↔
      Reaches (.obj context) path.accesses .null ∨ Breaks (.obj context) path.accesses) := by
  have same := path.evaluate_eq (path.literal?_eq_none_iff.2 free) context
  have reached {value : Json} (reaches : Reaches (.obj context) path.accesses value) :
      evaluate path.text context = value := path.evaluate_of_reaches free path.trim_text reaches
  refine ⟨fun value => reached, fun null => ?_, ?_⟩
  · cases found : Address.walk? (path.keys.map Path.Key.segment) (.obj context) with
    | none =>
      refine .inr (breaks_iff.2 fun target reaches => ?_)
      rw [(Path.walk?_iff path.keys).2 reaches] at found
      cases found
    | some target =>
      rw [same, found, Option.getD_some] at null
      rw [null] at found
      exact .inl ((Path.walk?_iff path.keys).1 found)
  · rintro (reaches | breaks)
    · exact reached reaches
    · have none : Address.walk? (path.keys.map Path.Key.segment) (.obj context) = none :=
        Option.eq_none_iff_forall_ne_some.2 fun target found =>
          breaks_iff.1 breaks target ((Path.walk?_iff path.keys).1 found)
      rw [same, none, Option.getD_none]

/-- A key in letters beyond ASCII with a place behind it, whose digits start with a zero. -/
def servers : Path.Key where
  name := ['服', '务', '器']
  digits := some ['0', '1']
  word := by decide +kernel
  number := by decide

/-- A key that is written in digits, with a place behind it. -/
def numbered (place : List Char) (number : IsRun Char.isDigit place) : Path.Key where
  name := ['4', '2']
  digits := some place
  word := by decide
  number := by
    rintro _ ⟨⟩
    exact number

/-- The first of two paths that differ in the last place only. -/
def near : Path := ⟨servers, [numbered ['0'] (by decide)]⟩

/-- The second of them, with a place that is larger than a machine word. -/
def far : Path := ⟨servers, [numbered "18446744073709551616".toList (by decide)]⟩

/-- The way down ends in the value of an item, or breaks off at a place that no machine word
holds. -/
theorem evaluate_path_servers :
    let context : Json.Object := [("服务器", .arr [.null, .obj [("42", .arr [.int 8080])]])]
    (¬ IsLiteral near.text ∧ ¬ IsLiteral far.text) ∧
      near.text = "服务器[01].42[0]".toList ∧ evaluate near.text context = .int 8080 ∧
      far.text = "服务器[01].42[18446744073709551616]".toList ∧
      evaluate far.text context = .null := by
  intro context
  have free : ¬ IsLiteral near.text := near.literal?_eq_none_iff.1 (by decide +kernel)
  have free' : ¬ IsLiteral far.text := far.literal?_eq_none_iff.1 (by decide +kernel)
  have down : Reaches (.obj context) [.field "服务器", .item 1, .field "42"]
      (.arr [.int 8080]) :=
    .step (.field rfl) (.step (.item rfl) (.step (.field rfl) (.here _)))
  refine ⟨⟨free, free'⟩, rfl, ?_, rfl, ?_⟩
  · have leads : Leads (.arr [.int 8080]) (.item 0) (.int 8080) := .item rfl
    have reaches := reaches_append_iff.2 ⟨_, down, .step leads (.here _)⟩
    exact (evaluate_path near free context).1 _ reaches
  · refine (evaluate_path far free' context).2.2 (.inr ?_)
    exact ⟨_, .item 18446744073709551616, [], _, rfl, down, .outOfRange (by decide)⟩

end Guard

end Runbook
