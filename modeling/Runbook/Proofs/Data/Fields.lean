import Runbook.Data.Fields

/-!
# Mappings and the pairs they are built from

A mapping is told by the values under its keys, for its fields have only one order.  So what two
lists of pairs build up is compared key by key: a key has the last of its values, and where no key
has two of them the pairs may stand in any order.

## Main statements

* `Fields.Ordered.ext`: a mapping in key order is told by its values
* `Fields.get?_ofList`: of several values for a key the last one stays
* `Fields.ofList_perm`: pairs with different keys build up the same mapping in any order
-/

namespace Runbook.Fields

variable {α : Type}

/-! ## Values under keys -/

theorem get?_append (fields more : Fields α) (key : String) :
    get? (fields ++ more) key = (get? fields key).or (get? more key) := by
  induction fields with
  | nil => rfl
  | cons field rest ih =>
    obtain ⟨name, first⟩ := field
    rw [List.cons_append, get?_cons, get?_cons]
    split
    · rfl
    · exact ih

theorem get?_eq_none_iff {fields : Fields α} {key : String} :
    get? fields key = none ↔ key ∉ keys fields := by
  induction fields with
  | nil => simp [keys]
  | cons field rest ih =>
    obtain ⟨name, first⟩ := field
    rw [get?_cons, keys, List.map_cons, List.mem_cons, not_or]
    split
    · rename_i here
      simp [here]
    · rename_i other
      rw [ih]
      exact (and_iff_right (Ne.symm other)).symm

/-- Among fields of different names each is the one of its name. -/
theorem get?_eq_some_iff {fields : Fields α} (distinct : (keys fields).Nodup) {key : String}
    {value : α} : get? fields key = some value ↔ (key, value) ∈ fields := by
  refine ⟨mem_of_get?, fun member => ?_⟩
  induction fields with
  | nil => cases member
  | cons field rest ih =>
    obtain ⟨name, first⟩ := field
    rw [keys, List.map_cons, List.nodup_cons] at distinct
    rw [get?_cons]
    rcases List.mem_cons.1 member with same | later
    · obtain ⟨rfl, rfl⟩ := Prod.mk.inj same
      exact if_pos rfl
    · have other : name ≠ key := fun same =>
        distinct.1 (List.mem_map.2 ⟨(key, value), later, same.symm⟩)
      rw [if_neg other, ih distinct.2 later]

/-- A key that comes before the first one of a mapping is not in it. -/
theorem get?_of_before {key : String} {first : String × α} {rest : Fields α}
    (ordered : Ordered (first :: rest)) (before : key < first.1) :
    get? (first :: rest) key = none := by
  refine get?_eq_none_iff.2 fun member => ?_
  rcases List.mem_cons.1 member with rfl | later
  · exact String.lt_irrefl _ before
  · exact String.lt_asymm before ((List.pairwise_cons.1 ordered).1 key later)

/-- Mappings in key order are the same if they have the same value under each key. -/
theorem Ordered.ext {fields others : Fields α} (ordered : Ordered fields)
    (ordered' : Ordered others) (same : ∀ key, get? fields key = get? others key) :
    fields = others := by
  induction fields generalizing others with
  | nil =>
    cases others with
    | nil => rfl
    | cons field rest =>
      have found := same field.1
      rw [get?_cons, if_pos rfl] at found
      cases found
  | cons field rest ih =>
    obtain ⟨name, first⟩ := field
    have here := same name
    rw [get?_cons, if_pos rfl] at here
    cases others with
    | nil => cases here
    | cons other more =>
      obtain ⟨name', first'⟩ := other
      have here' := same name'
      rw [get?_cons name' first', if_pos rfl] at here'
      have sameName : name = name' := by
        refine String.le_antisymm (String.not_lt.1 fun before => ?_)
          (String.not_lt.1 fun before => ?_)
        · rw [get?_of_before ordered before] at here'
          cases here'
        · rw [get?_of_before ordered' before] at here
          cases here
      subst sameName
      rw [get?_cons, if_pos rfl] at here
      obtain rfl := Option.some.inj here
      have later := List.pairwise_cons.1 ordered
      have later' := List.pairwise_cons.1 ordered'
      refine congrArg _ (ih later.2 later'.2 fun key => ?_)
      by_cases this : name = key
      · subst this
        rw [get?_eq_none_iff.2 fun member => String.lt_irrefl _ (later.1 _ member),
          get?_eq_none_iff.2 fun member => String.lt_irrefl _ (later'.1 _ member)]
      · have inside := same key
        rwa [get?_cons, get?_cons, if_neg this, if_neg this] at inside

/-- Fields that are kept by their keys are there, and the others are not. -/
theorem get?_filter (kept : String → Bool) (fields : Fields α) (key : String) :
    get? (fields.filter fun field => kept field.1) key =
      if kept key then get? fields key else none := by
  induction fields with
  | nil => simp
  | cons field rest ih =>
    obtain ⟨name, first⟩ := field
    by_cases stays : kept name = true
    · rw [List.filter_cons, if_pos stays, get?_cons, get?_cons, ih]
      split
      · rename_i here
        rw [if_pos (here ▸ stays)]
      · rfl
    · rw [List.filter_cons, if_neg stays, ih, get?_cons]
      split
      · rename_i free
        rw [if_neg fun (here : name = key) => stays (here ▸ free)]
      · rfl

/-! ## Building up -/

/-- Pairs that are put into a mapping come before what it has. -/
theorem get?_foldl_insert (pairs : List (String × α)) (fields : Fields α) (key : String) :
    get? (pairs.foldl (fun fields p => fields.insert p.1 p.2) fields) key =
      (get? pairs.reverse key).or (get? fields key) := by
  induction pairs generalizing fields with
  | nil => rfl
  | cons pair rest ih =>
    rw [List.foldl_cons, ih, get?_insert, List.reverse_cons, get?_append, Option.or_assoc,
      get?_cons]
    by_cases same : pair.1 = key <;> simp [same]

/-- The last of several values for a key stays. -/
theorem get?_ofList (pairs : List (String × α)) (key : String) :
    get? (ofList pairs) key = get? pairs.reverse key := by
  rw [ofList, get?_foldl_insert, get?_nil, Option.or_none]

/-- What is built from pairs with different keys does not depend on their order. -/
theorem ofList_perm {pairs others : List (String × α)} (perm : pairs.Perm others)
    (distinct : (keys pairs).Nodup) : ofList pairs = ofList others := by
  refine (ordered_ofList pairs).ext (ordered_ofList others) fun key => ?_
  have mirrored {pairs : List (String × α)} (distinct : (keys pairs).Nodup) :
      (keys pairs.reverse).Nodup := by
    rw [keys, List.map_reverse]
    exact List.pairwise_reverse.2 (distinct.imp Ne.symm)
  have distinct' : (keys others).Nodup := (perm.map Prod.fst).nodup_iff.1 distinct
  refine Option.ext fun value => ?_
  rw [get?_ofList, get?_ofList, get?_eq_some_iff (mirrored distinct),
    get?_eq_some_iff (mirrored distinct'), List.mem_reverse, List.mem_reverse, perm.mem_iff]

/-- A pair that no later one overrides is put there last. -/
theorem ofList_append_cons {pairs more : List (String × α)} {key : String} (value : α)
    (last : key ∉ keys more) :
    ofList (pairs ++ (key, value) :: more) = (ofList (pairs ++ more)).insert key value := by
  have absent : get? more.reverse key = none := by
    rw [get?_eq_none_iff, keys, List.map_reverse, List.mem_reverse]
    exact last
  refine (ordered_ofList _).ext ((ordered_ofList _).insert key value) fun name => ?_
  rw [get?_insert, get?_ofList, get?_ofList, List.reverse_append, List.reverse_append,
    List.reverse_cons, get?_append, get?_append, get?_append, get?_cons, get?_nil]
  split
  · rename_i here
    rw [← here, absent]
    rfl
  · rw [Option.or_none]

/-- A pair that a later one overrides may hold any value. -/
theorem ofList_append_cons_of_mem {pairs more : List (String × α)} {key : String}
    (value other : α) (overridden : key ∈ keys more) :
    ofList (pairs ++ (key, value) :: more) = ofList (pairs ++ (key, other) :: more) := by
  have present : get? more.reverse key ≠ none := by
    rw [Ne, get?_eq_none_iff, keys, List.map_reverse, List.mem_reverse, Decidable.not_not]
    exact overridden
  refine (ordered_ofList _).ext (ordered_ofList _) fun name => ?_
  rw [get?_ofList, get?_ofList, List.reverse_append, List.reverse_append, List.reverse_cons,
    List.reverse_cons, get?_append, get?_append, get?_append, get?_append, get?_cons, get?_cons,
    get?_nil]
  split
  · rename_i here
    obtain ⟨last, found⟩ := Option.ne_none_iff_exists'.1 present
    rw [← here, found]
    rfl
  · rfl

/-- A new field is put somewhere between the others. -/
theorem exists_insert_eq {fields : Fields α} {key : String} (value : α)
    (absent : get? fields key = none) :
    ∃ before after, fields = before ++ after ∧
      fields.insert key value = before ++ (key, value) :: after := by
  induction fields with
  | nil => exact ⟨[], [], rfl, rfl⟩
  | cons field rest ih =>
    obtain ⟨name, first⟩ := field
    rw [get?_cons] at absent
    split at absent
    · cases absent
    · rename_i other
      by_cases less : key < name
      · exact ⟨[], (name, first) :: rest, rfl, by rw [insert, if_pos less]; rfl⟩
      · obtain ⟨before, after, same, same'⟩ := ih absent
        rw [insert, if_neg less, if_neg other]
        exact ⟨(name, first) :: before, after, congrArg _ same, congrArg _ same'⟩

end Runbook.Fields
