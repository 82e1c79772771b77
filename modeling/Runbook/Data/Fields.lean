/-!
# Fields in key order

A mapping from names to values that lists its fields in the order of the names.  The order of
strings is that of their code points, which is also the order of their UTF-8 bytes, so the fields
of a mapping always appear in one order, however it was built.

## Main definitions

* `Fields`: the fields of a mapping
* `Fields.get?`, `Fields.insert`, `Fields.erase`, `Fields.ofList`
* `Fields.Ordered`: the keys increase strictly

## Design notes

The type is a plain list, because data values nest through it; what every operation keeps is the
predicate `Ordered`.
-/

namespace Runbook

/-- The fields of a mapping, by increasing name. -/
abbrev Fields (α : Type) := List (String × α)

namespace Fields

variable {α β : Type}

/-- The value of the field `key`. -/
def get? : Fields α → String → Option α
  | [], _ => none
  | (k, v) :: rest, key => if k = key then some v else get? rest key

/-- Does the mapping have the field `key`? -/
def contains (fields : Fields α) (key : String) : Bool := (fields.get? key).isSome

/-- Put a value under `key`, in place of the one that is there. -/
def insert : Fields α → String → α → Fields α
  | [], key, value => [(key, value)]
  | (k, v) :: rest, key, value =>
    if key < k then (key, value) :: (k, v) :: rest
    else if k = key then (key, value) :: rest
    else (k, v) :: insert rest key value

/-- Remove the field `key`. -/
def erase : Fields α → String → Fields α
  | [], _ => []
  | (k, v) :: rest, key => if k = key then erase rest key else (k, v) :: erase rest key

/-- The names of the fields. -/
def keys (fields : Fields α) : List String := fields.map Prod.fst

/-- The mapping that a list of pairs builds up: a repeated key keeps its last value. -/
def ofList (pairs : List (String × α)) : Fields α :=
  pairs.foldl (fun fields p => fields.insert p.1 p.2) []

/-- The keys increase strictly. -/
def Ordered (fields : Fields α) : Prop := (keys fields).Pairwise (· < ·)

@[simp] theorem get?_nil (key : String) : get? ([] : Fields α) key = none := rfl

theorem get?_cons (k : String) (v : α) (rest : Fields α) (key : String) :
    get? ((k, v) :: rest) key = if k = key then some v else get? rest key := rfl

/-- Looking up what was just put there, or anything else. -/
theorem get?_insert (fields : Fields α) (key : String) (value : α) (other : String) :
    get? (insert fields key value) other =
      if key = other then some value else get? fields other := by
  induction fields with
  | nil => simp [insert, get?]
  | cons p rest ih =>
    obtain ⟨k, v⟩ := p
    simp only [insert]
    split
    · simp [get?]
    · split
      · rename_i h
        subst h
        by_cases h : k = other <;> simp [get?, h]
      · rename_i h
        simp only [get?, ih]
        by_cases h₁ : k = other
        · subst h₁
          simp [Ne.symm h]
        · simp [h₁]

/-- A removed field is gone and the others stay. -/
theorem get?_erase (fields : Fields α) (key other : String) :
    get? (erase fields key) other = if key = other then none else get? fields other := by
  induction fields with
  | nil => simp [erase]
  | cons p rest ih =>
    obtain ⟨k, v⟩ := p
    simp only [erase]
    by_cases h : k = key
    · subst h
      by_cases h₁ : k = other
      · subst h₁
        simp [ih]
      · simp [ih, get?, h₁]
    · by_cases h₁ : k = other
      · subst h₁
        simp [get?, h, Ne.symm h]
      · simp [get?, h, h₁, ih]

/-- What is put under a key is taken out with it. -/
theorem erase_insert (fields : Fields α) (key : String) (value : α) :
    (fields.insert key value).erase key = fields.erase key := by
  induction fields with
  | nil => exact if_pos rfl
  | cons field rest ih =>
    obtain ⟨name, first⟩ := field
    rw [insert]
    split
    · exact if_pos rfl
    split
    · rename_i here
      rw [erase, if_pos rfl, erase, if_pos here]
    · rename_i other
      rw [erase, if_neg other, ih, erase, if_neg other]

/-- There is nothing to take out under a key that has no value. -/
theorem erase_of_get?_eq_none {fields : Fields α} {key : String}
    (absent : fields.get? key = none) : fields.erase key = fields := by
  induction fields with
  | nil => rfl
  | cons field rest ih =>
    obtain ⟨name, first⟩ := field
    rw [get?_cons] at absent
    split at absent
    · cases absent
    · rename_i other
      rw [erase, if_neg other, ih absent]

/-! ## The order of the fields -/

theorem lt_of_not_lt_of_ne {a b : String} (h : ¬ b < a) (hne : a ≠ b) : a < b := by
  rcases Decidable.em (a < b) with h' | h'
  · exact h'
  · exact absurd (String.le_antisymm (String.not_lt.1 h) (String.not_lt.1 h')) hne

theorem mem_keys_insert (fields : Fields α) (key : String) (value : α) (name : String) :
    name ∈ keys (insert fields key value) ↔ name = key ∨ name ∈ keys fields := by
  induction fields with
  | nil => simp [insert, keys]
  | cons p rest ih =>
    obtain ⟨k, v⟩ := p
    simp only [insert]
    split
    · simp [keys]
    · split
      · rename_i h
        subst h
        simp [keys]
      · simp only [keys, List.map_cons, List.mem_cons] at ih ⊢
        rw [ih]
        exact or_left_comm

theorem mem_keys_of_mem_erase {fields : Fields α} {key name : String}
    (h : name ∈ keys (erase fields key)) : name ∈ keys fields := by
  induction fields with
  | nil => exact h
  | cons p rest ih =>
    obtain ⟨k, v⟩ := p
    simp only [erase] at h
    split at h
    · exact List.mem_cons_of_mem _ (ih h)
    · rcases List.mem_cons.1 h with h | h
      · exact List.mem_cons.2 (.inl h)
      · exact List.mem_cons_of_mem _ (ih h)

/-- Putting a value somewhere keeps the fields in order. -/
theorem Ordered.insert {fields : Fields α} (h : Ordered fields) (key : String) (value : α) :
    Ordered (insert fields key value) := by
  induction fields with
  | nil => simp [Ordered, keys, Fields.insert]
  | cons p rest ih =>
    obtain ⟨k, v⟩ := p
    have hk : (∀ name ∈ keys rest, k < name) ∧ Ordered rest := List.pairwise_cons.1 h
    simp only [Fields.insert]
    split
    · rename_i hlt
      refine List.pairwise_cons.2 ⟨fun name hname => ?_, h⟩
      rcases List.mem_cons.1 hname with rfl | hname
      · exact hlt
      · exact String.lt_trans hlt (hk.1 name hname)
    · rename_i hlt
      split
      · rename_i heq
        subst heq
        exact h
      · rename_i hne
        refine List.pairwise_cons.2 ⟨fun name hname => ?_, ih hk.2⟩
        rcases (mem_keys_insert rest key value name).1 hname with rfl | hname
        · exact lt_of_not_lt_of_ne hlt hne
        · exact hk.1 name hname

/-- Removing a field keeps the others in order. -/
theorem Ordered.erase {fields : Fields α} (h : Ordered fields) (key : String) :
    Ordered (erase fields key) := by
  induction fields with
  | nil => exact h
  | cons p rest ih =>
    obtain ⟨k, v⟩ := p
    have hk : (∀ name ∈ keys rest, k < name) ∧ Ordered rest := List.pairwise_cons.1 h
    simp only [Fields.erase]
    split
    · exact ih hk.2
    · exact List.pairwise_cons.2
        ⟨fun name hname => hk.1 name (mem_keys_of_mem_erase hname), ih hk.2⟩

/-- What is built from pairs is in order, however the pairs are. -/
theorem ordered_ofList (pairs : List (String × α)) : Ordered (ofList pairs) := by
  suffices h : ∀ fields : Fields α, Ordered fields →
      Ordered (pairs.foldl (fun fields p => fields.insert p.1 p.2) fields) from
    h [] List.Pairwise.nil
  induction pairs with
  | nil => exact fun _ h => h
  | cons p rest ih => exact fun fields h => ih _ (h.insert p.1 p.2)

/-- A field that comes after all others is put at the end. -/
theorem insert_of_lt {fields : Fields α} {key : String} (value : α)
    (last : ∀ name ∈ keys fields, name < key) :
    fields.insert key value = fields ++ [(key, value)] := by
  induction fields with
  | nil => rfl
  | cons field rest ih =>
    obtain ⟨name, first⟩ := field
    have before : name < key := last name List.mem_cons_self
    have other : name ≠ key := fun same => absurd (same ▸ before) (String.lt_irrefl key)
    rw [insert, if_neg (String.lt_asymm before), if_neg other,
      ih fun name member => last name (List.mem_cons_of_mem _ member), List.cons_append]

/-- Fields that are in order are what they build up. -/
theorem ofList_of_ordered {pairs : List (String × α)} (ordered : Ordered pairs) :
    ofList pairs = pairs := by
  suffices h : ∀ done : Fields α, Ordered (done ++ pairs) →
      pairs.foldl (fun fields p => fields.insert p.1 p.2) done = done ++ pairs from h [] ordered
  clear ordered
  induction pairs with
  | nil => simp
  | cons pair rest ih =>
    intro done ordered
    have last : ∀ name ∈ keys done, name < pair.1 := by
      unfold Ordered keys at ordered
      rw [List.map_append, List.map_cons, List.pairwise_append] at ordered
      exact fun name member => ordered.2.2 name member pair.1 List.mem_cons_self
    rw [List.foldl_cons, insert_of_lt pair.2 last, ih]
    · rw [List.append_assoc]
      rfl
    · rw [List.append_assoc]
      exact ordered

theorem mem_insert {fields : Fields α} {key : String} {value : α} {field : String × α}
    (member : field ∈ fields.insert key value) : field = (key, value) ∨ field ∈ fields := by
  induction fields with
  | nil => exact .inl (List.mem_singleton.1 member)
  | cons first rest ih =>
    rw [insert] at member
    split at member
    · exact List.mem_cons.1 member
    split at member
    · exact (List.mem_cons.1 member).imp_right (List.mem_cons_of_mem first)
    · rcases List.mem_cons.1 member with rfl | member
      · exact .inr List.mem_cons_self
      · exact (ih member).imp_right (List.mem_cons_of_mem _)

/-- What is built from pairs has no other fields. -/
theorem mem_of_mem_ofList {pairs : List (String × α)} {field : String × α}
    (member : field ∈ ofList pairs) : field ∈ pairs := by
  suffices h : ∀ fields : Fields α,
      field ∈ pairs.foldl (fun fields p => fields.insert p.1 p.2) fields →
        field ∈ fields ∨ field ∈ pairs from (h [] member).resolve_left List.not_mem_nil
  clear member
  induction pairs with
  | nil => exact fun fields member => .inl member
  | cons pair rest ih =>
    intro fields member
    rcases ih _ member with among | later
    · rcases mem_insert among with rfl | among
      · exact .inr List.mem_cons_self
      · exact .inl among
    · exact .inr (List.mem_cons_of_mem _ later)

theorem mem_of_mem_erase {fields : Fields α} {key : String} {field : String × α}
    (member : field ∈ fields.erase key) : field ∈ fields := by
  induction fields with
  | nil => exact member
  | cons first rest ih =>
    rw [erase] at member
    split at member
    · exact List.mem_cons_of_mem _ (ih member)
    · rcases List.mem_cons.1 member with rfl | member
      · exact List.mem_cons_self
      · exact List.mem_cons_of_mem _ (ih member)

theorem mem_of_get? {fields : Fields α} {key : String} {value : α}
    (found : fields.get? key = some value) : (key, value) ∈ fields := by
  induction fields with
  | nil => cases found
  | cons field rest ih =>
    obtain ⟨name, first⟩ := field
    rw [get?_cons] at found
    split at found
    · rename_i here
      rw [← here, ← Option.some.inj found]
      exact List.mem_cons_self
    · exact List.mem_cons_of_mem _ (ih found)

end Fields

end Runbook
