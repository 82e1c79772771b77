import Runbook.Proofs.Flow.Accepted

/-!
# Declared steps and filed steps

A document is gone through twice.  The first pass collects all names that it declares, at any depth,
and the second one files the steps that it wires, under their names.  The second pass reaches fewer
places than the first one, and the same ones in the same order; so when the first pass finds each
name once, the second one never files two steps under one name.

## Main definitions

* `Outline.declared`: the declared steps in a step, itself before its children

## Main statements

* `Outline.mem_repeated`, `Outline.pairwise_repeated`: the names that occur more than once, by their
  first occurrence
* `Outline.exists_places`: the steps of an outline come from its declared steps, in their order
* `Flow.exists_places_ofOutlines`: each step is filed once, and made from the only declaration of its
  name
* `Flow.ofValue_declared`: which documents are refused for their names, and how the others are filed

## Design notes

Children are entered below loops and branches only.  Names are collected everywhere, also where no
step is filed, so a document may be refused for a name that its flow would have once.
-/

namespace Runbook

/-! ## Names that occur more than once -/

/-- What comes first in the items that are kept comes first in all of them. -/
theorem idxOf_lt_of_filter {kept : String → Bool} {a b : String} (ha : kept a = true)
    (hb : kept b = true) : ∀ {names : List String},
    (names.filter kept).idxOf a < (names.filter kept).idxOf b → names.idxOf a < names.idxOf b
  | [], less => less
  | name :: rest, less => by
    by_cases stays : kept name = true
    · rw [List.filter_cons_of_pos stays] at less
      by_cases first : name = a
      · subst first
        by_cases second : name = b
        · subst second
          exact absurd less (Nat.lt_irrefl _)
        · rw [List.idxOf_cons_self, List.idxOf_cons_ne _ second]
          exact Nat.succ_pos _
      · by_cases second : name = b
        · subst second
          rw [List.idxOf_cons_self] at less
          exact absurd less (Nat.not_lt_zero _)
        · rw [List.idxOf_cons_ne _ first, List.idxOf_cons_ne _ second] at less ⊢
          exact Nat.succ_lt_succ (idxOf_lt_of_filter ha hb (Nat.lt_of_succ_lt_succ less))
    · have first : name ≠ a := fun same => stays (same ▸ ha)
      have second : name ≠ b := fun same => stays (same ▸ hb)
      rw [List.filter_cons_of_neg stays] at less
      rw [List.idxOf_cons_ne _ first, List.idxOf_cons_ne _ second]
      exact Nat.succ_lt_succ (idxOf_lt_of_filter ha hb less)

/-- Without repetitions the names stand in the order of their first occurrences. -/
theorem pairwise_eraseDups : ∀ names : List String,
    names.eraseDups.Pairwise fun a b => names.idxOf a < names.idxOf b
  | [] => .nil
  | name :: rest => by
    rw [List.eraseDups_cons]
    have others {other : String}
        (member : other ∈ (rest.filter fun other => !other == name).eraseDups) :
        name ≠ other ∧ (!other == name) = true := by
      have kept := (List.mem_filter.1 (List.mem_eraseDups.1 member)).2
      exact ⟨fun same => by simp [same] at kept, kept⟩
    refine List.pairwise_cons.2 ⟨fun other member => ?_, ?_⟩
    · rw [List.idxOf_cons_self, List.idxOf_cons_ne _ (others member).1]
      exact Nat.succ_pos _
    · refine (pairwise_eraseDups _).imp_of_mem fun {a b} first second less => ?_
      rw [List.idxOf_cons_ne _ (others first).1, List.idxOf_cons_ne _ (others second).1]
      exact Nat.succ_lt_succ (idxOf_lt_of_filter (others first).2 (others second).2 less)
termination_by names => names.length
decreasing_by exact Nat.lt_succ_of_le (List.length_filter_le _ _)

namespace Outline

/-- The names that occur more than once are listed. -/
theorem mem_repeated {names : List String} {name : String} :
    name ∈ repeated names ↔ 1 < names.count name := by
  rw [repeated, List.mem_filter, List.mem_eraseDups, decide_eq_true_iff]
  exact ⟨And.right, fun many => ⟨List.count_pos_iff.1 (Nat.zero_lt_of_lt many), many⟩⟩

/-- They are listed in the order of their first occurrences. -/
theorem pairwise_repeated (names : List String) :
    (repeated names).Pairwise fun a b => names.idxOf a < names.idxOf b :=
  (pairwise_eraseDups names).filter _

/-- Each of them is listed once. -/
theorem nodup_repeated (names : List String) : (repeated names).Nodup :=
  (pairwise_repeated names).imp fun less => by
    rintro rfl
    exact Nat.lt_irrefl _ less

/-! ## Declared steps -/

mutual

/-- The declared steps in a step, itself before its children. -/
def declared : Outline → List Outline
  | mk name body children => mk name body children :: declaredOfList children

/-- The declared steps in some steps, in order. -/
def declaredOfList : List Outline → List Outline
  | [] => []
  | o :: rest => declared o ++ declaredOfList rest

end

mutual

theorem map_name_declared : ∀ o : Outline, (declared o).map name = names o
  | mk name body children => by
    rw [declared, names, List.map_cons, map_name_declaredOfList]
    rfl

theorem map_name_declaredOfList : ∀ outlines : List Outline,
    (declaredOfList outlines).map name = namesOfList outlines
  | [] => rfl
  | o :: rest => by
    rw [declaredOfList, namesOfList_cons, List.map_append, map_name_declared,
      map_name_declaredOfList]

end

/-- A declared step, and what comes after it. -/
abbrev Place : Type := Outline × Option String

/-- The step that is made in a place. -/
def Place.step (place : Place) : Step := place.1.step place.2

mutual

/-- The steps of an outline are made in its declared steps, each in one of its own, in order. -/
theorem exists_places : ∀ (o : Outline) (next : Option String),
    ∃ places : List Place, steps o next = places.map Place.step ∧
      (places.map Prod.fst).Sublist (declared o)
  | mk name body children, next => by
    rw [steps, declared]
    split
    · rename_i after entered
      obtain ⟨places, made, among⟩ := exists_placesOfList children after
      exact ⟨(mk name body children, next) :: places, congrArg _ made, among.cons_cons _⟩
    · exact ⟨[(mk name body children, next)], rfl, (List.nil_sublist _).cons_cons _⟩

theorem exists_placesOfList : ∀ (outlines : List Outline) (after : Option String),
    ∃ places : List Place, stepsOfList outlines after = places.map Place.step ∧
      (places.map Prod.fst).Sublist (declaredOfList outlines)
  | [], after => ⟨[], rfl, .slnil⟩
  | o :: rest, after => by
    obtain ⟨places, made, among⟩ := exists_places o ((rest.head?.map name).or after)
    obtain ⟨others, made', among'⟩ := exists_placesOfList rest after
    refine ⟨places ++ others, ?_, ?_⟩
    · rw [stepsOfList_cons, made, made', List.map_append]
    · rw [List.map_append, declaredOfList]
      exact among.append among'

end

/-- Distinct names belong to distinct declared steps. -/
theorem eq_of_name_eq {outlines : List Outline} (distinct : (namesOfList outlines).Nodup)
    {o other : Outline} (member : o ∈ declaredOfList outlines)
    (member' : other ∈ declaredOfList outlines) (same : other.name = o.name) : other = o := by
  rw [← map_name_declaredOfList] at distinct
  exact List.inj_on_of_nodup_map distinct member' member same

end Outline

namespace Flow

/-- The flow of some outlines begins at the first of them. -/
theorem entry_eq_head {name description : String} {outlines : List Outline}
    (distinct : (Outline.namesOfList outlines).Nodup) :
    (ofOutlines name description outlines).entry =
      (outlines.head?.map Outline.name).getD "" := by
  show ((Dict.ofList _).entries.map Prod.fst).head?.getD "" = _
  rw [show (Dict.ofList _).entries = _ from entries_ofOutlines name description distinct]
  cases outlines with
  | nil => rfl
  | cons o rest =>
    obtain ⟨name, body, children⟩ := o
    rw [Outline.stepsOfList_cons, Outline.steps]
    rfl

/-- Each step of the flow of some outlines is filed once, under its own name, and is made from the
only declaration of the name. -/
theorem exists_places_ofOutlines {name description : String} {outlines : List Outline}
    (distinct : (Outline.namesOfList outlines).Nodup) :
    ∃ places : List Outline.Place,
      Outline.stepsOfList outlines none = places.map Outline.Place.step ∧
      (ofOutlines name description outlines).steps.entries =
        places.map (fun place => (place.1.name, place.step)) ∧
      (∀ entry ∈ (ofOutlines name description outlines).steps.entries, entry.2.name = entry.1) ∧
      (places.map Prod.fst).Sublist (Outline.declaredOfList outlines) ∧
      ∀ place ∈ places, ∀ other ∈ Outline.declaredOfList outlines,
        other.name = place.1.name → other = place.1 := by
  obtain ⟨places, made, among⟩ := Outline.exists_placesOfList outlines none
  have filed := entries_ofOutlines name description distinct
  refine ⟨places, made, ?_, ?_, among, fun place member other member' => ?_⟩
  · rw [filed, made, List.map_map]
    rfl
  · rw [filed]
    exact List.forall_mem_map.2 fun _ _ => rfl
  · exact Outline.eq_of_name_eq distinct (among.subset (List.mem_map_of_mem member)) member'

/-- A document of distinct names becomes the flow of its outlines. -/
theorem ofValue_of_distinct {document : Json} {root : Json.Object} {items : List Json}
    (mapping : Keyword.normalize document = .obj root)
    (listed : Fields.get? root "steps" = some (.arr items))
    (distinct : Outline.repeated (Outline.namesOfList (Outline.ofValues items)) = []) :
    ofValue document = .ok (ofOutlines
      (((Fields.get? root "name").bind Keyword.scalarText?).getD "unnamed flow")
      (((Fields.get? root "description").bind Keyword.scalarText?).getD "")
      (Outline.ofValues items)) := by
  unfold ofValue
  rw [mapping]
  simp only [listed, distinct]

/-- A document that repeats names is refused, and they are named. -/
theorem ofValue_of_repeated {document : Json} {root : Json.Object} {items : List Json}
    {first : String} {more : List String}
    (mapping : Keyword.normalize document = .obj root)
    (listed : Fields.get? root "steps" = some (.arr items))
    (repeats : Outline.repeated (Outline.namesOfList (Outline.ofValues items)) = first :: more) :
    ofValue document = .error (.duplicateNames (first :: more)) := by
  unfold ofValue
  rw [mapping]
  simp only [listed, repeats]

/-- **Which documents are refused for their names, and how the others are filed.**  A mapping with a
list of steps is refused for its names exactly if one is declared twice, at whatever depth; then all
of those are named, each once, by their first occurrence.  If none is, the document becomes a flow.
It has the steps that were made, each under its own name, in the order in which they are declared,
and each made from the only declaration of the name; none took the place of another.  Its entry is
the first step of the document. -/
theorem ofValue_declared {document : Json} {root : Json.Object} {items : List Json}
    (mapping : Keyword.normalize document = .obj root)
    (listed : Fields.get? root "steps" = some (.arr items)) :
    let outlines := Outline.ofValues items
    let names := Outline.namesOfList outlines
    ((∃ repeated, ofValue document = .error (.duplicateNames repeated)) ↔
      ∃ name, 1 < names.count name) ∧
    (∀ repeated, ofValue document = .error (.duplicateNames repeated) →
      repeated.Nodup ∧ (∀ name, name ∈ repeated ↔ 1 < names.count name) ∧
        repeated.Pairwise fun a b => names.idxOf a < names.idxOf b) ∧
    ((∀ name, names.count name ≤ 1) →
      ∃ flow, ofValue document = .ok flow ∧ ∃ places : List Outline.Place,
        Outline.stepsOfList outlines none = places.map Outline.Place.step ∧
        flow.steps.entries = places.map (fun place => (place.1.name, place.step)) ∧
        (∀ entry ∈ flow.steps.entries, entry.2.name = entry.1) ∧
        (places.map Prod.fst).Sublist (Outline.declaredOfList outlines) ∧
        (∀ place ∈ places, ∀ other ∈ Outline.declaredOfList outlines,
          other.name = place.1.name → other = place.1) ∧
        flow.entry = (outlines.head?.map Outline.name).getD "") := by
  intro outlines names
  cases found : Outline.repeated names with
  | nil =>
    have compiled := ofValue_of_distinct mapping listed found
    have distinct : names.Nodup := Outline.nodup_of_repeated_eq_nil found
    rw [compiled]
    refine ⟨⟨?_, ?_⟩, ?_, fun _ => ⟨_, rfl, ?_⟩⟩
    · rintro ⟨repeated, same⟩
      cases same
    · rintro ⟨name, many⟩
      exact absurd (List.nodup_iff_count.1 distinct name) (Nat.not_le_of_lt many)
    · intro repeated same
      cases same
    obtain ⟨places, made, filed, named, among, only⟩ := exists_places_ofOutlines distinct
    exact ⟨places, made, filed, named, among, only, entry_eq_head distinct⟩
  | cons first more =>
    have named {name : String} : name ∈ first :: more ↔ 1 < names.count name :=
      found ▸ Outline.mem_repeated
    rw [ofValue_of_repeated mapping listed found]
    refine ⟨⟨fun _ => ⟨first, named.1 (.head _)⟩, fun _ => ⟨_, rfl⟩⟩, ?_, fun single => ?_⟩
    · intro repeated same
      obtain rfl := SourceError.duplicateNames.inj (Except.error.inj same)
      exact ⟨found ▸ Outline.nodup_repeated names, fun name => named,
        found ▸ Outline.pairwise_repeated names⟩
    · exact absurd (named.1 (.head _)) (Nat.not_lt_of_le (single first))

/-- A loop between two steps. -/
def nestedItems : List Json :=
  [.str "a", .obj [("children", .arr [.str "b"]), ("iterate", .str "xs"), ("name", .str "l")],
    .str "c"]

/-- Two names that are declared once more below a step that does not enter its children, and after
it. -/
def repeatedItems : List Json :=
  [.str "a", .obj [("children", .arr [.str "b", .str "a"]), ("name", .str "t")], .str "b"]

/-- The loop is filed before its child, and of the names that are repeated none is left out. -/
theorem ofValue_declared_nestedItems :
    (∃ flow, ofValue (.obj [("steps", .arr nestedItems)]) = .ok flow ∧
      flow.steps.keys = ["a", "l", "b", "c"] ∧ flow.entry = "a") ∧
    ∃ repeated, ofValue (.obj [("steps", .arr repeatedItems)]) = .error (.duplicateNames repeated) ∧
      repeated.Nodup ∧ "a" ∈ repeated ∧ "b" ∈ repeated ∧ "t" ∉ repeated := by
  have mapping : Keyword.normalize (.obj [("steps", .arr nestedItems)]) =
      .obj [("steps", .arr nestedItems)] := by cbv
  have mapping' : Keyword.normalize (.obj [("steps", .arr repeatedItems)]) =
      .obj [("steps", .arr repeatedItems)] := by cbv
  have names : Outline.namesOfList (Outline.ofValues nestedItems) = ["a", "l", "b", "c"] := by cbv
  have names' : Outline.namesOfList (Outline.ofValues repeatedItems) =
      ["a", "t", "b", "a", "b"] := by cbv
  have made : (Outline.stepsOfList (Outline.ofValues nestedItems) none).map Step.name =
      ["a", "l", "b", "c"] := by cbv
  constructor
  · obtain ⟨-, -, files⟩ := ofValue_declared mapping rfl
    obtain ⟨flow, compiled, places, steps, entries, -, -, -, entry⟩ := files fun name => by
      rw [names]
      exact List.nodup_iff_count.1 (by decide) name
    have first : ((Outline.ofValues nestedItems).head?.map Outline.name).getD "" = "a" := by cbv
    refine ⟨flow, compiled, ?_, entry.trans first⟩
    rw [Dict.keys, entries, List.map_map, ← made, steps, List.map_map]
    rfl
  · obtain ⟨refused, named, -⟩ := ofValue_declared mapping' rfl
    obtain ⟨repeated, same⟩ := refused.2 ⟨"a", by rw [names']; decide⟩
    obtain ⟨once, many, -⟩ := named repeated same
    rw [names'] at many
    exact ⟨repeated, same, once, (many "a").2 (by decide), (many "b").2 (by decide),
      fun listed => absurd ((many "t").1 listed) (by decide)⟩

end Flow

end Runbook
