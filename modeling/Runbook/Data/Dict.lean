/-!
# Dictionaries in insertion order

A mapping from names to values that remembers the order in which its keys first came.  Steps of a
flow and active loops are kept in one: replacing the value of a key leaves the key where it is.

## Main definitions

* `Dict`: entries with distinct keys
* `Dict.get?`, `Dict.insert`, `Dict.erase`, `Dict.ofList`
-/

namespace Runbook

/-- Entries with distinct keys, in the order in which the keys came. -/
structure Dict (α : Type) where
  /-- The entries. -/
  entries : List (String × α)
  /-- No key has two entries. -/
  nodup : (entries.map Prod.fst).Nodup

namespace Dict

variable {α β : Type}

/-- The dictionary without entries. -/
def empty : Dict α := ⟨[], List.nodup_nil⟩

instance : Inhabited (Dict α) := ⟨empty⟩

theorem ext_entries {d e : Dict α} (h : d.entries = e.entries) : d = e := by
  cases d; cases e; simp_all

instance [DecidableEq α] : DecidableEq (Dict α) := fun d e =>
  if h : d.entries = e.entries then isTrue (ext_entries h)
  else isFalse (fun he => h (congrArg entries he))

/-- The keys, first come first. -/
def keys (d : Dict α) : List String := d.entries.map Prod.fst

/-- The values, in the order of their keys. -/
def values (d : Dict α) : List α := d.entries.map Prod.snd

/-- The number of entries. -/
def size (d : Dict α) : Nat := d.entries.length

/-- Is there no entry? -/
def isEmpty (d : Dict α) : Bool := d.entries.isEmpty

/-- The value of the first entry with the given key. -/
def find? : List (String × α) → String → Option α
  | [], _ => none
  | (k, v) :: rest, key => if k = key then some v else find? rest key

/-- The value under `key`. -/
def get? (d : Dict α) (key : String) : Option α := find? d.entries key

/-- Is there a value under `key`? -/
def contains (d : Dict α) (key : String) : Bool := (d.get? key).isSome

/-- The list with the value of `key` replaced, or with a new last entry. -/
def put : List (String × α) → String → α → List (String × α)
  | [], key, value => [(key, value)]
  | (k, v) :: rest, key, value =>
    if k = key then (k, value) :: rest else (k, v) :: put rest key value

/-- The list without the entries of `key`. -/
def drop (entries : List (String × α)) (key : String) : List (String × α) :=
  entries.filter (fun p => p.1 != key)

theorem map_fst_put (entries : List (String × α)) (key : String) (value : α) :
    (put entries key value).map Prod.fst =
      if key ∈ entries.map Prod.fst then entries.map Prod.fst
      else entries.map Prod.fst ++ [key] := by
  induction entries with
  | nil => simp [put]
  | cons p rest ih =>
    obtain ⟨k, v⟩ := p
    by_cases h : k = key
    · simp [put, h]
    · have h' : ¬ key = k := fun e => h e.symm
      simp only [put, h, if_false, List.map_cons, ih, List.mem_cons, h', false_or]
      split <;> simp

/-- Put a value under `key`: in its place if the key is known, else at the end. -/
def insert (d : Dict α) (key : String) (value : α) : Dict α where
  entries := put d.entries key value
  nodup := by
    rw [map_fst_put]
    split
    · exact d.nodup
    · rename_i h
      rw [List.nodup_append]
      refine ⟨d.nodup, by simp, ?_⟩
      intro a ha b hb
      simp only [List.mem_singleton] at hb
      subst hb
      intro hab
      exact h (hab ▸ ha)

/-- Remove `key`; the other keys keep their order. -/
def erase (d : Dict α) (key : String) : Dict α where
  entries := drop d.entries key
  nodup := d.nodup.sublist (List.Sublist.map _ List.filter_sublist)

/-- The dictionary that a list of pairs builds up: a repeated key keeps its first place and its
last value. -/
def ofList (pairs : List (String × α)) : Dict α :=
  pairs.foldl (fun d p => d.insert p.1 p.2) empty

@[simp] theorem get?_empty (key : String) : (empty : Dict α).get? key = none := rfl

theorem find?_put (entries : List (String × α)) (key : String) (value : α) (other : String) :
    find? (put entries key value) other =
      if key = other then some value else find? entries other := by
  induction entries with
  | nil => simp [put, find?]
  | cons p rest ih =>
    obtain ⟨k, v⟩ := p
    by_cases h : k = key
    · subst h
      by_cases h₁ : k = other <;> simp [put, find?, h₁]
    · by_cases h₁ : k = other
      · subst h₁
        simp [put, find?, h, Ne.symm h]
      · simp [put, find?, h, h₁, ih]

/-- Looking up what was just put there, or anything else. -/
theorem get?_insert (d : Dict α) (key : String) (value : α) (other : String) :
    (d.insert key value).get? other = if key = other then some value else d.get? other :=
  find?_put d.entries key value other

theorem find?_drop (entries : List (String × α)) (key other : String) :
    find? (drop entries key) other = if key = other then none else find? entries other := by
  induction entries with
  | nil => simp [drop, find?]
  | cons p rest ih =>
    obtain ⟨k, v⟩ := p
    simp only [drop] at ih
    by_cases h : k = key
    · subst h
      by_cases h₁ : k = other
      · subst h₁
        simp [drop, ih]
      · simp [drop, find?, ih, h₁]
    · by_cases h₁ : k = other
      · subst h₁
        simp [drop, find?, h, Ne.symm h]
      · simp [drop, find?, h, h₁, ih]

/-- A removed key is gone and the others stay. -/
theorem get?_erase (d : Dict α) (key other : String) :
    (d.erase key).get? other = if key = other then none else d.get? other :=
  find?_drop d.entries key other

/-- A new key comes last, and a known key stays where it is. -/
theorem keys_insert (d : Dict α) (key : String) (value : α) :
    (d.insert key value).keys = if key ∈ d.keys then d.keys else d.keys ++ [key] :=
  map_fst_put d.entries key value

/-- The keys that are left keep their order. -/
theorem keys_erase (d : Dict α) (key : String) :
    (d.erase key).keys = d.keys.filter (fun k => k != key) := by
  unfold keys erase drop
  rw [List.filter_map]
  rfl

/-- A key is known exactly when it is listed. -/
theorem contains_iff (d : Dict α) (key : String) : d.contains key = true ↔ key ∈ d.keys := by
  unfold contains get? keys
  induction d.entries with
  | nil => simp [find?]
  | cons p rest ih =>
    obtain ⟨k, v⟩ := p
    by_cases h : k = key
    · simp [find?, h]
    · simp [find?, h, ih, Ne.symm h]

theorem mem_of_find? {entries : List (String × α)} {key : String} {value : α}
    (h : find? entries key = some value) : (key, value) ∈ entries := by
  induction entries with
  | nil => simp [find?] at h
  | cons p rest ih =>
    obtain ⟨k, v⟩ := p
    simp only [find?] at h
    split at h
    · rename_i hk
      obtain rfl := Option.some.inj h
      exact List.mem_cons.2 (.inl (by rw [hk]))
    · exact List.mem_cons_of_mem _ (ih h)

theorem find?_of_mem {entries : List (String × α)} (hnodup : (entries.map Prod.fst).Nodup)
    {key : String} {value : α} (h : (key, value) ∈ entries) : find? entries key = some value := by
  induction entries with
  | nil => simp at h
  | cons p rest ih =>
    obtain ⟨k, v⟩ := p
    rw [List.map_cons, List.nodup_cons] at hnodup
    rcases List.mem_cons.1 h with heq | hmem
    · cases heq
      simp [find?]
    · have hne : k ≠ key := fun hk => hnodup.1 (hk ▸ List.mem_map.2 ⟨_, hmem, rfl⟩)
      simp only [find?, if_neg hne]
      exact ih hnodup.2 hmem

/-- The value under a key is the one of its entry. -/
theorem get?_eq_some_iff (d : Dict α) (key : String) (value : α) :
    d.get? key = some value ↔ (key, value) ∈ d.entries :=
  ⟨mem_of_find?, find?_of_mem d.nodup⟩

theorem put_of_notMem {entries : List (String × α)} {key : String} (value : α)
    (h : key ∉ entries.map Prod.fst) : put entries key value = entries ++ [(key, value)] := by
  induction entries with
  | nil => rfl
  | cons p rest ih =>
    obtain ⟨k, v⟩ := p
    rw [List.map_cons, List.mem_cons, not_or] at h
    simp [put, Ne.symm h.1, ih h.2]

/-- Pairs with distinct keys are the entries of the dictionary that they build up. -/
theorem entries_ofList {pairs : List (String × α)} (hnodup : (pairs.map Prod.fst).Nodup) :
    (ofList pairs).entries = pairs := by
  suffices h : ∀ d : Dict α, (∀ key ∈ pairs.map Prod.fst, key ∉ d.keys) →
      (pairs.foldl (fun d p => d.insert p.1 p.2) d).entries = d.entries ++ pairs from
    h empty (by simp [keys, empty])
  induction pairs with
  | nil => simp
  | cons p rest ih =>
    intro d hnew
    rw [List.map_cons, List.nodup_cons] at hnodup
    have hp : (d.insert p.1 p.2).entries = d.entries ++ [p] :=
      put_of_notMem p.2 (hnew p.1 (by simp))
    rw [List.foldl_cons, ih hnodup.2, hp, List.append_assoc, List.singleton_append]
    intro key hkey
    rw [keys, hp, List.map_append, List.mem_append, not_or]
    refine ⟨hnew key (by simp [hkey]), ?_⟩
    simpa using fun heq : key = p.1 => hnodup.1 (heq ▸ hkey)

theorem mem_put {entries : List (String × α)} {key : String} {value : α} {entry : String × α}
    (member : entry ∈ put entries key value) : entry = (key, value) ∨ entry ∈ entries := by
  induction entries with
  | nil => exact .inl (List.mem_singleton.1 member)
  | cons first rest ih =>
    obtain ⟨k, v⟩ := first
    rw [put] at member
    split at member
    · rename_i here
      rcases List.mem_cons.1 member with rfl | member
      · exact .inl (by rw [here])
      · exact .inr (List.mem_cons_of_mem _ member)
    · rcases List.mem_cons.1 member with rfl | member
      · exact .inr List.mem_cons_self
      · exact (ih member).imp_right (List.mem_cons_of_mem _)

/-- What is built from pairs has no other entries. -/
theorem mem_of_mem_ofList {pairs : List (String × α)} {entry : String × α}
    (member : entry ∈ (ofList pairs).entries) : entry ∈ pairs := by
  suffices h : ∀ d : Dict α, entry ∈ (pairs.foldl (fun d p => d.insert p.1 p.2) d).entries →
      entry ∈ d.entries ∨ entry ∈ pairs from (h .empty member).resolve_left List.not_mem_nil
  clear member
  induction pairs with
  | nil => exact fun d member => .inl member
  | cons pair rest ih =>
    intro d member
    rcases ih _ member with among | later
    · rcases mem_put among with rfl | among
      · exact .inr List.mem_cons_self
      · exact .inl among
    · exact .inr (List.mem_cons_of_mem _ later)

theorem get?_eq_none_iff (d : Dict α) (key : String) : d.get? key = none ↔ key ∉ d.keys := by
  rw [← contains_iff, contains]
  cases d.get? key <;> simp

theorem put_put (entries : List (String × α)) (key : String) (value other : α) :
    put (put entries key value) key other = put entries key other := by
  induction entries with
  | nil => simp [put]
  | cons first rest ih =>
    obtain ⟨k, v⟩ := first
    by_cases same : k = key
    · simp [put, same]
    · simp [put, same, ih]

/-- Of two values that are put under one key the later one stays. -/
theorem insert_insert (d : Dict α) (key : String) (value other : α) :
    (d.insert key value).insert key other = d.insert key other :=
  ext_entries (put_put d.entries key value other)

/-- Removing a key that was new leaves what was there. -/
theorem erase_insert {d : Dict α} {key : String} (value : α) (fresh : key ∉ d.keys) :
    (d.insert key value).erase key = d := by
  refine ext_entries ?_
  show drop (put d.entries key value) key = d.entries
  rw [put_of_notMem value fresh, drop, List.filter_append]
  have others : d.entries.filter (fun p => p.1 != key) = d.entries := by
    refine List.filter_eq_self.2 fun entry member => ?_
    simpa using fun same : entry.1 = key => fresh (List.mem_map.2 ⟨entry, member, same⟩)
  rw [others]
  simp

theorem get?_insert_self (d : Dict α) (key : String) (value : α) :
    (d.insert key value).get? key = some value := by
  rw [get?_insert, if_pos rfl]

end Dict

end Runbook
