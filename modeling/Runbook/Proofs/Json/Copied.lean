import Runbook.Proofs.Json.Readable
import Runbook.Proofs.Json.Whole

/-!
# Copies

Data that are saved and read again are a copy of what they were.  All that may differ are the
doubles, for the reader does not always come back to the double whose digits it reads.  A copy of a
copy may differ once more, so nothing settles by saving twice.

## Main definitions

* `Double.copy`: the double that is read from the text of a double
* `Json.copy`, `Json.Object.copy`: values with all their doubles copied

## Main statements

* `Json.Readable.reread?_eq_copy`: what is readable comes back as its copy
* `Json.parseObject?_compress`: so do readable data, with their fields in order
* `Json.parseObject?_compress_of_read`: data that were read have them in order
* `Json.Readable.copy_eq_of_whole`: without doubles they come back as they were

## Design notes

A copy has the keys of what was copied.  So it does not matter whether fields are put in order
before or after, and data that were read, whose fields are in order, stay so.
-/

namespace Runbook

/-! ## Other values under the same keys -/

namespace Fields

variable {α β : Type} (f : α → β)

/-- The fields with other values. -/
def mapValues (fields : Fields α) : Fields β := fields.map fun field => (field.1, f field.2)

theorem mapValues_cons (field : String × α) (rest : Fields α) :
    mapValues f (field :: rest) = (field.1, f field.2) :: mapValues f rest := rfl

theorem mapValues_insert (fields : Fields α) (key : String) (value : α) :
    mapValues f (fields.insert key value) = (mapValues f fields).insert key (f value) := by
  induction fields with
  | nil => rfl
  | cons field rest ih =>
    obtain ⟨name, held⟩ := field
    rw [mapValues_cons, insert, insert]
    split
    · rfl
    split
    · rfl
    · exact congrArg ((name, f held) :: ·) ih

theorem mapValues_ofList (pairs : List (String × α)) :
    mapValues f (ofList pairs) = ofList (mapValues f pairs) := by
  induction pairs using List.reverseRecOn with
  | nil => rfl
  | append_singleton pairs pair ih =>
    have last {γ : Type} (pairs : List (String × γ)) (key : String) (value : γ) :
        ofList (pairs ++ [(key, value)]) = (ofList pairs).insert key value := List.foldl_append
    obtain ⟨key, value⟩ := pair
    rw [last, mapValues_insert, ih, ← last]
    simp [mapValues]

end Fields

/-- The double that is read from the text of a double. -/
def Double.copy (x : Double) : Double :=
  match Json.numeral? (x.write .compact) with
  | some (.double y) => y
  | _ => x

namespace Json

open Runbook.Double

theorem numeral?_write_eq_copy {x : Double} (proper : x.Proper) :
    numeral? (x.write .compact) = some (double x.copy) := by
  obtain ⟨y, -, read⟩ := exists_numeral?_write proper
  rw [Double.copy, read]

/-! ## Copies of values -/

mutual

/-- The value with all its doubles copied. -/
def copy : Json → Json
  | double x => double x.copy
  | arr items => arr (copyItems items)
  | obj fields => obj (copyFields fields)
  | value => value

/-- The items of a list with all their doubles copied. -/
def copyItems : List Json → List Json
  | [] => []
  | item :: rest => copy item :: copyItems rest

/-- The fields of an object with all their doubles copied. -/
def copyFields : List (String × Json) → List (String × Json)
  | [] => []
  | (key, value) :: rest => (key, copy value) :: copyFields rest

end

/-- The data with all their doubles copied. -/
def Object.copy (fields : Object) : Object := copyFields fields

/-! ### Reading again -/

variable {depth : Nat} {value : Json}

theorem rereadItems?_eq_copyItems {items : List Json}
    (each : ∀ item ∈ items, reread? depth item = some item.copy) :
    rereadItems? depth items = some (copyItems items) := by
  induction items with
  | nil => rw [rereadItems?, copyItems]
  | cons item rest ih =>
    rw [List.forall_mem_cons] at each
    rw [rereadItems?, each.1, ih each.2, copyItems]
    rfl

theorem rereadFields?_eq_copyFields {fields : List (String × Json)}
    (each : ∀ field ∈ fields, reread? depth field.2 = some field.2.copy) :
    rereadFields? depth fields = some (copyFields fields) := by
  induction fields with
  | nil => rw [rereadFields?, copyFields]
  | cons field rest ih =>
    obtain ⟨key, value⟩ := field
    rw [List.forall_mem_cons] at each
    rw [rereadFields?, each.1, ih each.2, copyFields]
    rfl

/-- **What is readable comes back as its copy.** -/
theorem Readable.reread?_eq_copy (readable : Readable depth value) :
    reread? depth value = some value.copy := by
  induction readable with
  | null | bool | str => simp [reread?, copy]
  | int fits => rw [reread?, numeral?_writeInt fits, copy]; all_goals simp
  | double proper => rw [reread?, numeral?_write_eq_copy proper, copy]
  | arr inside ih =>
    rw [reread?, if_neg (Nat.succ_ne_zero _), Nat.add_sub_cancel, rereadItems?_eq_copyItems ih,
      copy]
    rfl
  | obj inside ih =>
    rw [reread?, if_neg (Nat.succ_ne_zero _), Nat.add_sub_cancel, rereadFields?_eq_copyFields ih,
      copy]
    rfl

/-- **A readable value without doubles is its own copy.** -/
theorem Readable.copy_eq_of_whole (readable : Readable depth value) (whole : Whole value) :
    value.copy = value := by
  have read := readable.reread?_eq_copy
  rw [reread?_of_whole depth whole] at read
  split at read
  · exact (Option.some.inj read).symm
  · cases read

/-! ### Fields in order -/

theorem canonicalFields_eq_mapValues (fields : List (String × Json)) :
    canonicalFields fields = Fields.mapValues canonical fields := by
  induction fields with
  | nil =>
    rw [canonicalFields]
    rfl
  | cons field rest ih =>
    rw [canonicalFields, ih]
    rfl

theorem copyFields_eq_mapValues (fields : List (String × Json)) :
    copyFields fields = Fields.mapValues copy fields := by
  induction fields with
  | nil =>
    rw [copyFields]
    rfl
  | cons field rest ih =>
    rw [copyFields, ih]
    rfl

mutual

/-- Fields that are in order stay as they are. -/
theorem canonical_canonical : ∀ value : Json, canonical (canonical value) = canonical value
  | null | bool _ | int _ | double _ | str _ => by simp only [canonical]
  | arr items => by rw [canonical, canonical, canonicalItems_canonicalItems items]
  | obj fields => by
    have inside := canonicalFields_canonicalFields fields
    simp only [canonicalFields_eq_mapValues] at inside
    rw [canonical, canonical, canonicalFields_eq_mapValues, canonicalFields_eq_mapValues,
      Fields.mapValues_ofList, inside, Fields.ofList_of_ordered (Fields.ordered_ofList _)]

theorem canonicalItems_canonicalItems : ∀ items : List Json,
    canonicalItems (canonicalItems items) = canonicalItems items
  | [] => by simp only [canonicalItems]
  | item :: rest => by
    simp only [canonicalItems]
    rw [canonical_canonical item, canonicalItems_canonicalItems rest]

theorem canonicalFields_canonicalFields : ∀ fields : List (String × Json),
    canonicalFields (canonicalFields fields) = canonicalFields fields
  | [] => by simp only [canonicalFields]
  | (key, value) :: rest => by
    simp only [canonicalFields]
    rw [canonical_canonical value, canonicalFields_canonicalFields rest]

end

mutual

/-- Fields may be put in order before or after copying. -/
theorem canonical_copy : ∀ value : Json, canonical (copy value) = copy (canonical value)
  | null | bool _ | int _ | double _ | str _ => by simp only [canonical, copy]
  | arr items => by rw [copy, canonical, canonical, copy, canonicalItems_copyItems items]
  | obj fields => by
    have inside := canonicalFields_copyFields fields
    simp only [canonicalFields_eq_mapValues, copyFields_eq_mapValues] at inside
    rw [copy, canonical, canonical, copy, canonicalFields_eq_mapValues,
      canonicalFields_eq_mapValues, copyFields_eq_mapValues, copyFields_eq_mapValues, inside,
      Fields.mapValues_ofList]

theorem canonicalItems_copyItems : ∀ items : List Json,
    canonicalItems (copyItems items) = copyItems (canonicalItems items)
  | [] => by simp only [canonicalItems, copyItems]
  | item :: rest => by
    simp only [canonicalItems, copyItems]
    rw [canonical_copy item, canonicalItems_copyItems rest]

theorem canonicalFields_copyFields : ∀ fields : List (String × Json),
    canonicalFields (copyFields fields) = copyFields (canonicalFields fields)
  | [] => by simp only [canonicalFields, copyFields]
  | (key, value) :: rest => by
    simp only [canonicalFields, copyFields]
    rw [canonical_copy value, canonicalFields_copyFields rest]

end

/-! ## Data that were read -/

/-- The fields of data that were read are in order. -/
theorem canonical_of_parseObject? {text : String} {fields : Object}
    (read : parseObject? text = some fields) : canonical (obj fields) = obj fields := by
  unfold parseObject? parse? at read
  obtain ⟨value, parsed, object⟩ := Option.bind_eq_some_iff.1 read
  obtain ⟨written, -, rfl⟩ := Option.map_eq_some_iff.1 parsed
  have again := canonical_canonical written
  cases same : written.canonical with
  | obj found =>
    rw [same] at object again
    obtain rfl := Option.some.inj object
    exact again
  | _ =>
    rw [same] at object
    cases object

/-- **Readable data come back as their copy, with the fields in order.** -/
theorem parseObject?_compress {fields : Object} (readable : Readable maxDepth (obj fields)) :
    parseObject? (Object.compress fields) =
      some (Fields.ofList (canonicalFields (copyFields fields))) := by
  have scanned : scan? (Object.compress fields) = some (copy (obj fields)) :=
    (scan?_compress _).trans readable.reread?_eq_copy
  rw [parseObject?, parse?, scanned, Option.map_some, copy, canonical]
  rfl

/-- **Data that were read come back as their copy**, for their fields are in order. -/
theorem parseObject?_compress_of_read {text : String} {fields : Object}
    (read : parseObject? text = some fields) :
    parseObject? (Object.compress fields) = some fields.copy := by
  have inOrder : canonical (copy (obj fields)) = copy (obj fields) := by
    rw [canonical_copy, canonical_of_parseObject? read]
  rw [copy, canonical] at inOrder
  rw [parseObject?_compress (readable_of_parseObject? read), obj.inj inOrder]
  rfl

/-- Data without doubles that were read are their own copy. -/
theorem Object.copy_of_read {text : String} {fields : Object}
    (read : parseObject? text = some fields) (whole : Whole (obj fields)) :
    fields.copy = fields := by
  have same := (readable_of_parseObject? read).copy_eq_of_whole whole
  rw [Json.copy] at same
  exact obj.inj same

end Json

end Runbook
