import Runbook.Proofs.Json.ReadBack

/-!
# Whole values

Two things can keep a value from coming back from its text as it was: doubles, and depth.  Where
there are no doubles, only depth is left, and it decides: the value comes back exactly as long as no
more containers nest in it than the reader opens, and beyond that nothing comes back at all.

## Main definitions

* `Json.Whole`: values whose numbers are integers of 64 bits
* `Json.depth`: how many containers nest in a value

## Main statements

* `Json.reread?_of_whole`: a whole value comes back exactly if it does not nest too deep
* `Json.parseObject?_of_whole`: so does the object of a text
-/

namespace Runbook.Json

mutual

/-- Values whose numbers are integers of 64 bits, and whose objects have their fields in order. -/
def Whole : Json → Prop
  | int n => Fits n
  | double _ => False
  | arr items => WholeItems items
  | obj fields => Fields.Ordered fields ∧ WholeFields fields
  | _ => True

/-- Whole items of a list. -/
def WholeItems : List Json → Prop
  | [] => True
  | item :: rest => Whole item ∧ WholeItems rest

/-- Whole fields of an object. -/
def WholeFields : List (String × Json) → Prop
  | [] => True
  | (_, value) :: rest => Whole value ∧ WholeFields rest

end

mutual

/-- How many containers nest in a value, one inside the other. -/
def depth : Json → Nat
  | arr items => depthItems items + 1
  | obj fields => depthFields fields + 1
  | _ => 0

/-- How many containers nest in the items of a list. -/
def depthItems : List Json → Nat
  | [] => 0
  | item :: rest => max (depth item) (depthItems rest)

/-- How many containers nest in the fields of an object. -/
def depthFields : List (String × Json) → Nat
  | [] => 0
  | (_, value) :: rest => max (depth value) (depthFields rest)

end

/-! ## Whole values come back -/

mutual

/-- **A whole value comes back as it was** if no more containers nest in it than may open, and else
it does not come back. -/
theorem reread?_of_whole : ∀ {value : Json} (limit : Nat), Whole value →
    reread? limit value = if depth value ≤ limit then some value else none
  | null, _, _ | bool _, _, _ | str _, _, _ => by
    rw [reread?, depth, if_pos (Nat.zero_le _)]
    all_goals simp
  | int n, _, fits => by
    rw [reread?, depth, if_pos (Nat.zero_le _), numeral?_writeInt fits]
    all_goals simp
  | arr items, 0, _ => by
    rw [reread?, depth, if_pos rfl, if_neg (by simp)]
  | arr items, limit + 1, whole => by
    rw [reread?, depth, if_neg (Nat.succ_ne_zero _), Nat.add_sub_cancel,
      rereadItems?_of_whole limit whole]
    simp only [Nat.add_le_add_iff_right]
    split <;> rfl
  | obj fields, 0, _ => by
    rw [reread?, depth, if_pos rfl, if_neg (by simp)]
  | obj fields, limit + 1, whole => by
    rw [reread?, depth, if_neg (Nat.succ_ne_zero _), Nat.add_sub_cancel,
      rereadFields?_of_whole limit whole.2]
    simp only [Nat.add_le_add_iff_right]
    split <;> rfl

/-- Whole items come back unless one of them nests too deep. -/
theorem rereadItems?_of_whole : ∀ {items : List Json} (limit : Nat), WholeItems items →
    rereadItems? limit items = if depthItems items ≤ limit then some items else none
  | [], _, _ => by
    rw [rereadItems?, depthItems, if_pos (Nat.zero_le _)]
  | item :: rest, limit, ⟨first, others⟩ => by
    rw [rereadItems?, depthItems, reread?_of_whole limit first, rereadItems?_of_whole limit others]
    simp only [Nat.max_le]
    by_cases shallow : depth item ≤ limit
    · by_cases shallow' : depthItems rest ≤ limit <;> simp [shallow, shallow']
    · simp [shallow]

/-- Whole fields come back unless one of them nests too deep. -/
theorem rereadFields?_of_whole : ∀ {fields : List (String × Json)} (limit : Nat),
    WholeFields fields →
      rereadFields? limit fields = if depthFields fields ≤ limit then some fields else none
  | [], _, _ => by
    rw [rereadFields?, depthFields, if_pos (Nat.zero_le _)]
  | (key, value) :: rest, limit, ⟨first, others⟩ => by
    rw [rereadFields?, depthFields, reread?_of_whole limit first,
      rereadFields?_of_whole limit others]
    simp only [Nat.max_le]
    by_cases shallow : depth value ≤ limit
    · by_cases shallow' : depthFields rest ≤ limit <;> simp [shallow, shallow']
    · simp [shallow]

end

mutual

/-- The fields of a whole value are in order already. -/
theorem canonical_of_whole : ∀ {value : Json}, Whole value → canonical value = value
  | null, _ | bool _, _ | str _, _ | int _, _ => by
    rw [canonical]
    all_goals simp
  | arr items, whole => by
    rw [canonical, canonicalItems_of_whole whole]
  | obj fields, ⟨ordered, whole⟩ => by
    rw [canonical, canonicalFields_of_whole whole, Fields.ofList_of_ordered ordered]

/-- So they are in the items of a list. -/
theorem canonicalItems_of_whole : ∀ {items : List Json}, WholeItems items →
    canonicalItems items = items
  | [], _ => by
    rw [canonicalItems]
  | item :: rest, ⟨first, others⟩ => by
    rw [canonicalItems, canonical_of_whole first, canonicalItems_of_whole others]

/-- So they are in the fields of an object. -/
theorem canonicalFields_of_whole : ∀ {fields : List (String × Json)}, WholeFields fields →
    canonicalFields fields = fields
  | [], _ => by
    rw [canonicalFields]
  | (key, value) :: rest, ⟨first, others⟩ => by
    rw [canonicalFields, canonical_of_whole first, canonicalFields_of_whole others]

end

/-- **The object of a text comes back as it was** if it is whole and does not nest too deep. -/
theorem parseObject?_of_whole {fields : Object} (whole : Whole (obj fields))
    (shallow : depth (obj fields) ≤ maxDepth) :
    parseObject? (Object.compress fields) = some fields := by
  rw [parseObject?, parse?, Object.compress, scan?_compress, reread?_of_whole maxDepth whole,
    if_pos shallow, Option.map_some, canonical_of_whole whole]
  rfl

end Runbook.Json
