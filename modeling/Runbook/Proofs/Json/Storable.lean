import Runbook.Proofs.Json.Double
import Runbook.Proofs.Json.ReadBack

/-!
# Values that can be stored

The data of a run is kept as text and read back before each operation.  What comes back need not be
what was written, for a double may change a little; but for the values that programs have, it is
always something, and of the same shape.

## Main definitions

* `Json.Storable`: values that nest in no more containers than are read, with numbers that there are
* `Json.count`: the number of items of a list

## Main statements

* `Json.exists_reread?`: a storable value comes back, and what comes back is storable
* `Json.canonical_of_storable`: the fields of a storable value are in order
* `Json.exists_parseObject?`: a storable object comes back, with its lists as long as they were
-/

namespace Runbook

namespace Json

mutual

/-- Values that nest in at most `depth` containers, with integers of 64 bits and doubles that there
are, with lists no longer than can be counted in 64 bits, and with the fields of objects in
order. -/
def Storable (depth : Nat) : Json → Prop
  | int n => Fits n
  | double x => x.Proper
  | arr items => 0 < depth ∧ items.length ≤ maxUnsigned ∧ StorableItems (depth - 1) items
  | obj fields => 0 < depth ∧ Fields.Ordered fields ∧ StorableFields (depth - 1) fields
  | _ => True

/-- Storable items of a list. -/
def StorableItems (depth : Nat) : List Json → Prop
  | [] => True
  | item :: rest => Storable depth item ∧ StorableItems depth rest

/-- Storable fields of an object. -/
def StorableFields (depth : Nat) : List (String × Json) → Prop
  | [] => True
  | (_, value) :: rest => Storable depth value ∧ StorableFields depth rest

end

theorem storableFields_iff {depth : Nat} {fields : List (String × Json)} :
    StorableFields depth fields ↔ ∀ field ∈ fields, Storable depth field.2 := by
  induction fields with
  | nil => simp [StorableFields]
  | cons field rest ih =>
    obtain ⟨key, value⟩ := field
    rw [StorableFields, ih, List.forall_mem_cons]

/-- The number of items of a list; anything else has none. -/
def count : Json → Nat
  | arr items => items.length
  | _ => 0

mutual

/-- **A storable value comes back**, and what comes back is storable and has the same shape. -/
theorem exists_reread? : ∀ {value : Json} {depth : Nat}, Storable depth value →
    ∃ back, reread? depth value = some back ∧ Storable depth back ∧ count back = count value
  | null, _, _ => ⟨null, by simp [reread?], by simp [Storable], rfl⟩
  | bool b, _, _ => ⟨bool b, by simp [reread?], by simp [Storable], rfl⟩
  | str s, _, _ => ⟨str s, by simp [reread?], by simp [Storable], rfl⟩
  | int n, _, storable => by
    -- an integer of 64 bits comes back as it was, and a double as a double
    rw [Storable] at storable
    refine ⟨int n, ?_, by rwa [Storable], rfl⟩
    rw [reread?, numeral?_writeInt storable]
  | double x, _, storable => by
    rw [Storable] at storable
    obtain ⟨y, proper, read⟩ := exists_numeral?_write storable
    refine ⟨double y, ?_, by rwa [Storable], rfl⟩
    rw [reread?, read]
  | arr items, depth, storable => by
    rw [Storable] at storable
    obtain ⟨inside, few, storable⟩ := storable
    obtain ⟨back, read, storable, length⟩ := exists_rereadItems? storable
    refine ⟨arr back, ?_, ?_, length⟩
    · rw [reread?, if_neg inside.ne', read]
      rfl
    · rw [Storable, length]
      exact ⟨inside, few, storable⟩
  | obj fields, depth, storable => by
    rw [Storable] at storable
    obtain ⟨inside, ordered, storable⟩ := storable
    obtain ⟨back, read, storable, same, -⟩ := exists_rereadFields? storable
    refine ⟨obj back, ?_, ?_, rfl⟩
    · rw [reread?, if_neg inside.ne', read]
      rfl
    · rw [Storable, Fields.Ordered, Fields.keys, same]
      exact ⟨inside, ordered, storable⟩

theorem exists_rereadItems? : ∀ {items : List Json} {depth : Nat}, StorableItems depth items →
    ∃ back, rereadItems? depth items = some back ∧ StorableItems depth back ∧
      back.length = items.length
  | [], _, _ => ⟨[], by simp [rereadItems?], by simp [StorableItems], rfl⟩
  | item :: rest, depth, storable => by
    rw [StorableItems] at storable
    obtain ⟨first, readFirst, storableFirst, -⟩ := exists_reread? storable.1
    obtain ⟨others, readOthers, storableOthers, length⟩ := exists_rereadItems? storable.2
    refine ⟨first :: others, ?_, ?_, ?_⟩
    · rw [rereadItems?, readFirst, readOthers]
      rfl
    · rw [StorableItems]
      exact ⟨storableFirst, storableOthers⟩
    · rw [List.length_cons, List.length_cons, length]

theorem exists_rereadFields? : ∀ {fields : List (String × Json)} {depth : Nat},
    StorableFields depth fields →
    ∃ back, rereadFields? depth fields = some back ∧ StorableFields depth back ∧
      back.map Prod.fst = fields.map Prod.fst ∧
      ∀ key, (Fields.get? back key).map count = (Fields.get? fields key).map count
  | [], _, _ => ⟨[], by simp [rereadFields?], by simp [StorableFields], rfl, fun _ => rfl⟩
  | (name, value) :: rest, depth, storable => by
    rw [StorableFields] at storable
    obtain ⟨first, readFirst, storableFirst, size⟩ := exists_reread? storable.1
    obtain ⟨others, readOthers, storableOthers, names, sizes⟩ := exists_rereadFields? storable.2
    refine ⟨(name, first) :: others, ?_, ?_, ?_, fun key => ?_⟩
    · rw [rereadFields?, readFirst, readOthers]
      rfl
    · rw [StorableFields]
      exact ⟨storableFirst, storableOthers⟩
    · rw [List.map_cons, List.map_cons, names]
    · rw [Fields.get?_cons, Fields.get?_cons]
      split
      · rw [Option.map_some, Option.map_some, size]
      · exact sizes key

end

mutual

/-- The fields of a storable value are in order already. -/
theorem canonical_of_storable : ∀ {value : Json} {depth : Nat}, Storable depth value →
    canonical value = value
  | null, _, _ | bool _, _, _ | str _, _, _ | int _, _, _ | double _, _, _ => by simp [canonical]
  | arr items, depth, storable => by
    rw [Storable] at storable
    rw [canonical, canonicalItems_of_storable storable.2.2]
  | obj fields, depth, storable => by
    rw [Storable] at storable
    rw [canonical, canonicalFields_of_storable storable.2.2,
      Fields.ofList_of_ordered storable.2.1]

theorem canonicalItems_of_storable : ∀ {items : List Json} {depth : Nat},
    StorableItems depth items → canonicalItems items = items
  | [], _, _ => by rw [canonicalItems]
  | item :: rest, depth, storable => by
    rw [StorableItems] at storable
    rw [canonicalItems, canonical_of_storable storable.1, canonicalItems_of_storable storable.2]

theorem canonicalFields_of_storable : ∀ {fields : List (String × Json)} {depth : Nat},
    StorableFields depth fields → canonicalFields fields = fields
  | [], _, _ => by rw [canonicalFields]
  | (_, value) :: rest, depth, storable => by
    rw [StorableFields] at storable
    rw [canonicalFields, canonical_of_storable storable.1, canonicalFields_of_storable storable.2]

end

/-! ## Objects -/

/-- The number of items of the list under a key. -/
def Object.count (fields : Object) (key : String) : Nat :=
  ((fields.get? key).map Json.count).getD 0

/-- Storable fields are kept when another one is put among them. -/
theorem Storable.insert {fields : Object} {depth : Nat} (storable : Storable depth (obj fields))
    {value : Json} (small : Storable (depth - 1) value) (key : String) :
    Storable depth (obj (fields.insert key value)) := by
  rw [Storable, storableFields_iff] at storable ⊢
  obtain ⟨inside, ordered, storable⟩ := storable
  refine ⟨inside, ordered.insert key value, fun field member => ?_⟩
  rcases Fields.mem_insert member with rfl | member
  · exact small
  · exact storable field member

theorem Storable.erase {fields : Object} {depth : Nat} (storable : Storable depth (obj fields))
    (key : String) : Storable depth (obj (fields.erase key)) := by
  rw [Storable, storableFields_iff] at storable ⊢
  obtain ⟨inside, ordered, storable⟩ := storable
  exact ⟨inside, ordered.erase key,
    fun field member => storable field (Fields.mem_of_mem_erase member)⟩

/-- Putting a value that is no list under another key leaves the lists as long as they were. -/
theorem Object.count_insert {fields : Object} {key other : String} (apart : key ≠ other)
    (value : Json) : Object.count (fields.insert key value) other = Object.count fields other := by
  rw [Object.count, Fields.get?_insert, if_neg apart]
  rfl

/-- A storable list can be counted in 64 bits. -/
theorem Storable.count_le {data : Object} {depth : Nat} {list : String}
    (stored : Storable depth (.obj data)) {items : List Json}
    (found : Fields.get? data list = some (.arr items)) :
    Object.count data list ≤ maxUnsigned := by
  rw [Storable, storableFields_iff] at stored
  have item := stored.2.2 _ (Fields.mem_of_get? found)
  rw [Storable] at item
  rw [Object.count, found]
  exact item.2.1

end Json

end Runbook
