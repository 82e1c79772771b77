import Runbook.Proofs.Json.ReadBack

/-!
# Values that are read back exactly

What is read from the text of a value may differ from the value in its numbers, and the reader gives
up on a value that is nested too deep.  Of the values of which neither is true one can say that
printing and reading is the identity.  This module says which objects are among them, and that they
stay among them when fields are added and taken away.

## Main definitions

* `Json.Exact`: the text of the value is read as the value itself

## Main statements

* `Json.exact_obj_iff`: an object is read back exactly if its fields are
* `Json.Exact.insert`, `Json.Exact.erase`: so it is with a field more, or a field less
* `Json.Exact.parseObject?`: what is read from its text
-/

namespace Runbook.Json

/-- The text of the value is read as the value itself, as long as `depth` containers may open. -/
def Exact (depth : Nat) (value : Json) : Prop :=
  (reread? depth value).map canonical = some value

/-! ## Depth -/

mutual

/-- Where more containers may open, no less is read. -/
theorem reread?_succ : ∀ {value back : Json} {depth : Nat},
    reread? depth value = some back → reread? (depth + 1) value = some back
  | null, _, _, read | bool _, _, _, read | int _, _, _, read | double _, _, _, read
  | str _, _, _, read => by
    simp only [reread?] at read ⊢
    exact read
  | arr items, back, depth, read => by
    cases depth with
    | zero =>
      rw [reread?, if_pos rfl] at read
      cases read
    | succ depth =>
      rw [reread?, if_neg (Nat.succ_ne_zero _), Nat.add_sub_cancel] at read ⊢
      obtain ⟨items', inside, rfl⟩ := Option.map_eq_some_iff.1 read
      rw [rereadItems?_succ inside]
      rfl
  | obj fields, back, depth, read => by
    cases depth with
    | zero =>
      rw [reread?, if_pos rfl] at read
      cases read
    | succ depth =>
      rw [reread?, if_neg (Nat.succ_ne_zero _), Nat.add_sub_cancel] at read ⊢
      obtain ⟨fields', inside, rfl⟩ := Option.map_eq_some_iff.1 read
      rw [rereadFields?_succ inside]
      rfl

theorem rereadItems?_succ : ∀ {items back : List Json} {depth : Nat},
    rereadItems? depth items = some back → rereadItems? (depth + 1) items = some back
  | [], _, _, read => by
    rw [rereadItems?] at read ⊢
    exact read
  | item :: rest, back, depth, read => by
    rw [rereadItems?] at read ⊢
    obtain ⟨first, readFirst, read⟩ := Option.bind_eq_some_iff.1 read
    obtain ⟨others, readOthers, rfl⟩ := Option.map_eq_some_iff.1 read
    rw [reread?_succ readFirst, rereadItems?_succ readOthers]
    rfl

theorem rereadFields?_succ : ∀ {fields back : List (String × Json)} {depth : Nat},
    rereadFields? depth fields = some back → rereadFields? (depth + 1) fields = some back
  | [], _, _, read => by
    rw [rereadFields?] at read ⊢
    exact read
  | (key, value) :: rest, back, depth, read => by
    rw [rereadFields?] at read ⊢
    obtain ⟨first, readFirst, read⟩ := Option.bind_eq_some_iff.1 read
    obtain ⟨others, readOthers, rfl⟩ := Option.map_eq_some_iff.1 read
    rw [reread?_succ readFirst, rereadFields?_succ readOthers]
    rfl

end

theorem Exact.succ {depth : Nat} {value : Json} (exact : Exact depth value) :
    Exact (depth + 1) value := by
  obtain ⟨back, read, same⟩ := Option.map_eq_some_iff.1 exact
  rw [Exact, reread?_succ read, Option.map_some, same]

/-! ## Objects -/

/-- The keys of an object come back as they were, and so they do in canonical form. -/
theorem keys_of_rereadFields? {depth : Nat} {fields back : List (String × Json)}
    (read : rereadFields? depth fields = some back) :
    Fields.keys (canonicalFields back) = Fields.keys fields := by
  induction fields generalizing back with
  | nil =>
    rw [rereadFields?] at read
    obtain rfl := Option.some.inj read
    rw [canonicalFields]
  | cons field rest ih =>
    obtain ⟨key, value⟩ := field
    rw [rereadFields?] at read
    obtain ⟨first, -, read⟩ := Option.bind_eq_some_iff.1 read
    obtain ⟨others, readOthers, rfl⟩ := Option.map_eq_some_iff.1 read
    rw [canonicalFields]
    exact congrArg (key :: ·) (ih readOthers)

/-- Fields are read back exactly if the values of all of them are. -/
theorem map_rereadFields?_eq_iff {depth : Nat} {fields : List (String × Json)} :
    (rereadFields? depth fields).map canonicalFields = some fields ↔
      ∀ field ∈ fields, Exact depth field.2 := by
  induction fields with
  | nil => simp [rereadFields?, canonicalFields]
  | cons field rest ih =>
    obtain ⟨key, value⟩ := field
    rw [List.forall_mem_cons, ← ih, rereadFields?, Exact]
    cases reread? depth value with
    | none => exact ⟨nofun, nofun⟩
    | some first =>
      cases rereadFields? depth rest with
      | none => exact ⟨nofun, nofun⟩
      | some others => simp [canonicalFields]

/-- **An object is read back exactly** if its keys are in order and the values of its fields are
read back exactly. -/
theorem exact_obj_iff {depth : Nat} {fields : Object} :
    Exact (depth + 1) (obj fields) ↔
      Fields.Ordered fields ∧ ∀ field ∈ fields, Exact depth field.2 := by
  rw [← map_rereadFields?_eq_iff, Exact, reread?, if_neg (Nat.succ_ne_zero depth),
    Nat.add_sub_cancel, Option.map_map]
  cases read : rereadFields? depth fields with
  | none => exact ⟨nofun, fun exact => nomatch exact.2⟩
  | some back =>
    have keys := keys_of_rereadFields? read
    have canonical_obj : canonical (obj back) = obj (Fields.ofList (canonicalFields back)) := by
      rw [canonical]
    simp only [Option.map_some, Function.comp_apply, canonical_obj, Option.some.injEq, obj.injEq]
    constructor
    · intro same
      have ordered : Fields.Ordered fields := same ▸ Fields.ordered_ofList _
      have ordered' : Fields.Ordered (canonicalFields back) := by
        rw [Fields.Ordered, keys]
        exact ordered
      exact ⟨ordered, (Fields.ofList_of_ordered ordered').symm.trans same⟩
    · rintro ⟨ordered, same⟩
      rw [same]
      exact Fields.ofList_of_ordered ordered

namespace Exact

variable {depth : Nat} {fields : Object}

/-- A field may be put among the fields of an object. -/
theorem insert (exact : Exact (depth + 1) (obj fields)) {value : Json} (inside : Exact depth value)
    (key : String) : Exact (depth + 1) (obj (fields.insert key value)) := by
  rw [exact_obj_iff] at exact ⊢
  refine ⟨exact.1.insert key value, fun field member => ?_⟩
  rcases Fields.mem_insert member with rfl | member
  · exact inside
  · exact exact.2 field member

/-- A field may be taken from the fields of an object. -/
theorem erase (exact : Exact (depth + 1) (obj fields)) (key : String) :
    Exact (depth + 1) (obj (fields.erase key)) := by
  rw [exact_obj_iff] at exact ⊢
  exact ⟨exact.1.erase key, fun field member => exact.2 field (Fields.mem_of_mem_erase member)⟩

/-- What is read from the text of an object. -/
theorem parseObject? (exact : Exact maxDepth (obj fields)) :
    Json.parseObject? (Object.compress fields) = some fields := by
  rw [Json.parseObject?, parse?, Object.compress, scan?_compress, exact]
  rfl

end Exact

end Runbook.Json
