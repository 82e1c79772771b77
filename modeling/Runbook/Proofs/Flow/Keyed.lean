import Runbook.Proofs.Flow.Accepted
import Runbook.Proofs.Flow.Spelling

/-!
# Steps keyed by their names

A step may be written as a mapping with a `name`, or as a mapping whose only key is the name, or as
a bare name.  Which form is taken should not matter, wherever the step stands.  What the compiler
makes of the first two differs in one field of the body, the one of the name, and nothing that is
compiled reads it there; so the argument is about bodies that differ in such fields only, and
about lists of steps, at whatever depth, that differ in one step.

The forms do come apart in one case.  The name of a keyed step is a key, and keys are normalised
before anything else is done, so that a name which is the Chinese spelling of some key is not kept.

## Main definitions

* `Outline.BodiesAgree`: bodies that make the same step
* `Outline.Alike`: declared steps that compile to the same
* `Outline.DocumentsDifferIn`: two documents that differ in one written step, at whatever depth
* `Outline.Interchangeable`: written steps that may stand for each other
* `Outline.keyed`, `Outline.named`: the two forms

## Main statements

* `Outline.DifferIn.alike`: one step may be exchanged for another that compiles to the same
* `Outline.name_keyed_iff`: when a keyed step bears its key as its name
* `Outline.interchangeable_keyed_iff`: when the keyed form may stand for the other forms
* `Outline.misnamed_settings`: a definition that is refused because of the form of a step

## Design notes

The children of a step are part of its body, so bodies of steps that have the same children may
still differ under the keys of children, and the children are compared apart from the bodies.  A
mapping may hold a second list under the same key in another spelling, which then counts instead;
so for a list inside a mapping there are two cases, and in the second it does not matter.
-/

namespace Runbook

namespace Keyword

/-- A field of a mapping is put there last when the mapping is normalised, or a later one of the
same key is put in its place. -/
theorem normalize_obj_append_cons (before after : List (String × Json)) (key : String) :
    (∃ base : Json.Object, Fields.Ordered base ∧ ∀ value,
      normalize (.obj (before ++ (key, value) :: after)) =
        .obj (base.insert (normalizeKey key) (normalize value))) ∨
    ∀ value other, normalize (.obj (before ++ (key, value) :: after)) =
      normalize (.obj (before ++ (key, other) :: after)) := by
  have split (value : Json) : (before ++ (key, value) :: after).map normalizeField =
      before.map normalizeField ++
        (normalizeKey key, normalize value) :: after.map normalizeField := by
    rw [List.map_append, List.map_cons, normalizeField]
  by_cases last : normalizeKey key ∈ Fields.keys (after.map normalizeField)
  · refine .inr fun value other => ?_
    rw [normalize_obj, normalize_obj, split, split, Fields.ofList_append_cons_of_mem _ _ last]
  · refine .inl ⟨.ofList (before.map normalizeField ++ after.map normalizeField),
      Fields.ordered_ofList _, fun value => ?_⟩
    rw [normalize_obj, split, Fields.ofList_append_cons _ last]

end Keyword

namespace Outline

/-! ## Steps that compile to the same -/

/-- The bodies make the same step: they hold the same under each key but the ones of the name and
of the children, and children under the same keys. -/
structure BodiesAgree (body other : Json.Object) : Prop where
  /-- The fields are in order. -/
  ordered : Fields.Ordered body
  /-- The fields of the other are, too. -/
  ordered' : Fields.Ordered other
  /-- All other keys hold the same. -/
  held : ∀ key, key ∉ ["name", "steps", "children"] → Fields.get? body key = Fields.get? other key
  /-- Both have the key `steps`, or none of them has. -/
  steps : Fields.contains body "steps" = Fields.contains other "steps"
  /-- Both have the key `children`, or none of them has. -/
  children : Fields.contains body "children" = Fields.contains other "children"

namespace BodiesAgree

variable {body other : Json.Object}

theorem contains (agree : BodiesAgree body other) (key : String)
    (free : key ∉ ["name", "steps", "children"]) :
    Fields.contains body key = Fields.contains other key := by
  rw [Fields.contains, agree.held key free, Fields.contains]

theorem firstText? (agree : BodiesAgree body other) (keys : List String)
    (free : ∀ key ∈ keys, key ∉ ["name", "steps", "children"]) :
    Keyword.firstText? body keys = Keyword.firstText? other keys := by
  unfold Keyword.firstText?
  induction keys with
  | nil => rfl
  | cons key rest ih =>
    rw [List.forall_mem_cons] at free
    rw [List.findSome?_cons, List.findSome?_cons, agree.held key free.1, ih free.2]

theorem infer (agree : BodiesAgree body other) : StepKind.infer body = StepKind.infer other := by
  unfold StepKind.infer
  simp only [agree.held "type" (by decide), agree.steps, agree.children,
    agree.contains "branch" (by decide), agree.contains "if" (by decide),
    agree.contains "loop" (by decide), agree.contains "iterate" (by decide),
    agree.contains "wait" (by decide), agree.contains "jump" (by decide),
    agree.contains "target" (by decide), agree.contains "condition" (by decide),
    agree.contains "assert" (by decide), agree.contains "terminate" (by decide)]

theorem plain (agree : BodiesAgree body other) (kind : StepKind) (next : Option String) :
    Wiring.plain kind body next = Wiring.plain kind other next := by
  unfold Wiring.plain Wiring.assertion Wiring.jump
  simp only [agree.held "next" (by decide), agree.held "jump" (by decide),
    agree.firstText? ["condition", "assert"] (by decide),
    agree.firstText? ["onFail", "target"] (by decide),
    agree.firstText? ["target"] (by decide)]

theorem wiring (agree : BodiesAgree body other) (kind : StepKind) (name : String)
    (first next : Option String) :
    Wiring.ofBody kind name body first next = Wiring.ofBody kind name other first next := by
  unfold Wiring.ofBody Transition.withCondition
  simp only [agree.plain, agree.firstText? ["iterate"] (by decide),
    agree.firstText? ["if", "condition"] (by decide)]

/-- What is handed on is in neither of the keys in which the bodies differ. -/
theorem extraOf (agree : BodiesAgree body other) :
    StepConfig.extraOf body = StepConfig.extraOf other := by
  have kept {fields : Json.Object} (ordered : Fields.Ordered fields) :
      Fields.Ordered (StepConfig.extraOf fields) :=
    List.Pairwise.sublist (List.filter_sublist.map Prod.fst) ordered
  refine (kept agree.ordered).ext (kept agree.ordered') fun key => ?_
  have consumed :
      ∀ key ∈ ["name", "steps", "children"], (!Keyword.consumed.contains key) = false := by
    decide
  unfold StepConfig.extraOf
  rw [Fields.get?_filter (fun key => !Keyword.consumed.contains key),
    Fields.get?_filter (fun key => !Keyword.consumed.contains key)]
  split
  · rename_i free
    exact agree.held key fun member => Bool.false_ne_true ((consumed key member).symm.trans free)
  · rfl

theorem config (agree : BodiesAgree body other) (kind : StepKind) (wiring : Wiring) :
    StepConfig.ofBody kind wiring body = StepConfig.ofBody kind wiring other := by
  unfold StepConfig.ofBody
  rw [agree.extraOf, agree.held "auto" (by decide),
    agree.firstText? ["reason"] (by decide)]

/-- What stands under one of the keys in which bodies may differ does not matter. -/
theorem insert_insert {base : Json.Object} (ordered : Fields.Ordered base) {key : String}
    (free : key ∈ ["name", "steps", "children"]) (value value' : Json) :
    BodiesAgree (base.insert key value) (base.insert key value') := by
  have has (name : String) : Fields.contains (base.insert key value) name =
      Fields.contains (base.insert key value') name := by
    unfold Fields.contains
    rw [Fields.get?_insert, Fields.get?_insert]
    split <;> rfl
  refine ⟨ordered.insert _ _, ordered.insert _ _, fun name other => ?_, has _, has _⟩
  have apart : key ≠ name := fun same => other (same ▸ free)
  rw [Fields.get?_insert, Fields.get?_insert, if_neg apart, if_neg apart]

/-- Nor does a name. -/
theorem insert_name {base : Json.Object} (ordered : Fields.Ordered base) (value : Json) :
    BodiesAgree base (base.insert "name" value) := by
  have held {name : String} (other : "name" ≠ name) :
      Fields.get? base name = Fields.get? (base.insert "name" value) name := by
    rw [Fields.get?_insert, if_neg other]
  refine ⟨ordered, ordered.insert _ _, fun name free => held ?_, ?_, ?_⟩
  · rintro rfl
    exact free List.mem_cons_self
  · rw [Fields.contains, held (by decide), Fields.contains]
  · rw [Fields.contains, held (by decide), Fields.contains]

end BodiesAgree

/-- The declared steps compile to the same: they have the same name, declare the same names, and
become the same steps whatever comes next. -/
structure Alike (o other : Outline) : Prop where
  /-- The name is the same. -/
  name : o.name = other.name
  /-- So are the names that are declared. -/
  names : names o = names other
  /-- So are the steps, whatever comes next. -/
  steps : ∀ next, steps o next = steps other next

namespace Alike

variable {outlines others : List Outline}

@[refl] theorem refl (o : Outline) : Alike o o := ⟨rfl, rfl, fun _ => rfl⟩

theorem head (alike : List.Forall₂ Alike outlines others) :
    outlines.head?.map Outline.name = others.head?.map Outline.name := by
  cases alike with
  | nil => rfl
  | cons first rest => exact congrArg some first.name

theorem namesOfList (alike : List.Forall₂ Alike outlines others) :
    Outline.namesOfList outlines = Outline.namesOfList others := by
  induction alike with
  | nil => rfl
  | cons first rest ih => rw [namesOfList_cons, namesOfList_cons, first.names, ih]

theorem stepsOfList (alike : List.Forall₂ Alike outlines others) (after : Option String) :
    Outline.stepsOfList outlines after = Outline.stepsOfList others after := by
  induction alike with
  | nil => rfl
  | cons first rest ih => rw [stepsOfList_cons, stepsOfList_cons, head rest, first.steps, ih]

/-- Bodies that agree and children that compile to the same make declared steps that do. -/
theorem of_bodies {name : String} {body other : Json.Object} (agree : BodiesAgree body other)
    (children : List.Forall₂ Alike outlines others) :
    Alike (.mk name body outlines) (.mk name other others) := by
  have wired (next : Option String) :
      (Outline.mk name body outlines).wiring next = (Outline.mk name other others).wiring next := by
    show Wiring.ofBody (.infer body) name body (outlines.head?.map Outline.name) next =
      Wiring.ofBody (.infer other) name other (others.head?.map Outline.name) next
    rw [agree.infer, head children, agree.wiring]
  have made (next : Option String) :
      (Outline.mk name body outlines).step next = (Outline.mk name other others).step next := by
    unfold step
    rw [wired next]
    rw [show (Outline.mk name body outlines).body = body from rfl,
      show (Outline.mk name other others).body = other from rfl, agree.infer, agree.config]
    rfl
  refine ⟨rfl, ?_, fun next => ?_⟩
  · show name :: Outline.namesOfList outlines = name :: Outline.namesOfList others
    rw [namesOfList children]
  · rw [Outline.steps, Outline.steps, made next, wired next]
    split
    · rw [stepsOfList children]
    · rfl

end Alike

/-- Written steps compile to the same if they have the same name, bodies that agree, and children
that compile to the same. -/
theorem alike_ofValue {raw other : Json} (name : (heading raw).1 = (heading other).1)
    (agree : BodiesAgree (heading raw).2 (heading other).2)
    (children : List.Forall₂ Alike (ofValues (childItems (heading raw).2))
      (ofValues (childItems (heading other).2))) : Alike (ofValue raw) (ofValue other) := by
  rw [ofValue_eq, ofValue_eq, name]
  exact Alike.of_bodies agree children

/-- A mapping that holds a list and no name is a step without a name. -/
theorem heading_of_list {fields : Json.Object} (key : String) (items : List Json)
    (nameless : Fields.get? fields "name" = none)
    (listed : Fields.get? fields key = some (.arr items)) :
    heading (.obj fields) = (unnamed, fields) := by
  have single {name : String} {value : Json} (same : fields = [(name, value)]) :
      value = .arr items := by
    rw [same, Fields.get?_cons] at listed
    split at listed
    · exact Option.some.inj listed
    · cases listed
  simp only [heading, nameless]
  split
  · cases single rfl
  · cases single rfl
  · rfl

/-! ## Places of steps -/

open Keyword

/-- A mapping with a list of steps in it: in one of the fields is the list, and the others may
hold anything. -/
structure Frame where
  /-- The fields before the list. -/
  before : List (String × Json)
  /-- The key of the list. -/
  key : String
  /-- The fields after the list. -/
  after : List (String × Json)

/-- The mapping with these steps in the list. -/
def Frame.fill (frame : Frame) (items : List Json) : Json :=
  .obj (frame.before ++ (frame.key, .arr items) :: frame.after)

/-- A written step with children: a mapping, which may be keyed by the name of the step. -/
structure Host extends Frame where
  /-- The name by which it is keyed, if it is. -/
  keyed : Option String
  /-- The list is one of children. -/
  listed : normalizeKey key ∈ ["steps", "children"]
  /-- The only key is none for a name. -/
  named : ∀ name ∈ keyed, normalizeKey name ≠ "name"

/-- The step with these children. -/
def Host.fill (host : Host) (items : List Json) : Json :=
  match host.keyed with
  | none => host.toFrame.fill items
  | some name => .obj [(name, host.toFrame.fill items)]

/-- The two lists of written steps differ in one step, at whatever depth: the first has `a` where
the second has `b`. -/
inductive DifferIn (a b : Json) : List Json → List Json → Prop
  /-- The step is in the list itself. -/
  | here (before after : List Json) : DifferIn a b (before ++ a :: after) (before ++ b :: after)
  /-- The step is among the children of a step of the list, or below them. -/
  | inside {items others : List Json} (before after : List Json) (host : Host)
    (differ : DifferIn a b items others) :
    DifferIn a b (before ++ host.fill items :: after) (before ++ host.fill others :: after)

theorem Frame.normalize_fill (frame : Frame) :
    (∃ base : Json.Object, Fields.Ordered base ∧ ∀ items, Keyword.normalize (frame.fill items) =
      .obj (base.insert (normalizeKey frame.key) (.arr (items.map Keyword.normalize)))) ∨
    ∀ items others,
      Keyword.normalize (frame.fill items) = Keyword.normalize (frame.fill others) := by
  rcases normalize_obj_append_cons frame.before frame.after frame.key with
    ⟨base, ordered, last⟩ | overridden
  · exact .inl ⟨base, ordered, fun items => (last _).trans (by rw [normalize_arr])⟩
  · exact .inr fun items others => overridden _ _

/-- The heading of a step with children, for all children at once: either they are put into its body
last, or they do not matter, because the body has another list under the same key. -/
theorem Host.heading_fill (host : Host) :
    (∃ name base, Fields.Ordered base ∧ ∀ items, heading (Keyword.normalize (host.fill items)) =
      (name, base.insert (normalizeKey host.key) (.arr (items.map Keyword.normalize)))) ∨
    ∀ items others, Keyword.normalize (host.fill items) = Keyword.normalize (host.fill others) := by
  have other : normalizeKey host.key ≠ "name" := by
    intro same
    have listed := host.listed
    rw [same] at listed
    exact absurd listed (by decide)
  cases keyed : host.keyed with
  | none =>
    have fill (items : List Json) : host.fill items = host.toFrame.fill items := by
      rw [Host.fill, keyed]
    simp only [fill]
    refine host.toFrame.normalize_fill.imp_left ?_
    rintro ⟨base, ordered, last⟩
    cases named : Fields.get? base "name" with
    | none =>
      refine ⟨unnamed, base, ordered, fun items => ?_⟩
      rw [last]
      refine heading_of_list (normalizeKey host.key) (items.map Keyword.normalize) ?_ ?_
      · rw [Fields.get?_insert, if_neg other, named]
      · rw [Fields.get?_insert, if_pos rfl]
    | some value =>
      refine ⟨givenName value, base, ordered, fun items => ?_⟩
      simp only [last, heading, Fields.get?_insert, if_neg other, named]
  | some name =>
    have single (items : List Json) : Keyword.normalize (host.fill items) =
        .obj [(normalizeKey name, Keyword.normalize (host.toFrame.fill items))] := by
      rw [Host.fill, keyed, normalize_obj]
      rfl
    have different := host.named name keyed
    simp only [single]
    rcases host.toFrame.normalize_fill with ⟨base, ordered, last⟩ | overridden
    · refine .inl ⟨normalizeKey name, base, ordered, fun items => ?_⟩
      rw [last, heading, Fields.get?_cons, if_neg different]
      rfl
    · exact .inr fun items others => by rw [overridden items others]

/-- The children of a body in which they were put last, or those that are taken before them. -/
theorem childItems_insert (base : Json.Object) {key : String}
    (listed : key ∈ ["steps", "children"]) :
    (∀ items, items ≠ [] → childItems (base.insert key (.arr items)) = items) ∨
    ∃ taken, ∀ items, childItems (base.insert key (.arr items)) = taken := by
  have under (items : List Json) (filled : items ≠ []) :
      itemsUnder? (base.insert key (.arr items)) key = some items := by
    unfold itemsUnder?
    rw [Fields.get?_insert, if_pos rfl]
    cases items with
    | nil => exact absurd rfl filled
    | cons item rest => rfl
  have apart (items : List Json) (name : String) (other : key ≠ name) :
      itemsUnder? (base.insert key (.arr items)) name = itemsUnder? base name := by
    unfold itemsUnder?
    rw [Fields.get?_insert, if_neg other]
  simp only [List.mem_cons, List.not_mem_nil, or_false] at listed
  rcases listed with rfl | rfl
  · exact .inl fun items filled => by rw [childItems, under items filled]
  · have before (items : List Json) := apart items "steps" (by decide)
    cases taken : itemsUnder? base "steps" with
    | none =>
      exact .inl fun items filled => by
        rw [childItems, before, taken, under items filled, Option.getD_some]
    | some list => exact .inr ⟨list, fun items => by rw [childItems, before, taken]⟩

/-- A name is no child. -/
theorem childItems_insert_name (base : Json.Object) (value : Json) :
    childItems (base.insert "name" value) = childItems base := by
  have apart {key : String} (other : "name" ≠ key) :
      itemsUnder? (base.insert "name" value) key = itemsUnder? base key := by
    unfold itemsUnder?
    rw [Fields.get?_insert, if_neg other]
  rw [childItems, apart (by decide), apart (by decide), childItems]

/-- **Lists of written steps that differ in one step compile to the same** if the two steps do. -/
theorem DifferIn.alike {a b : Json} {items others : List Json} (differ : DifferIn a b items others)
    (same : Alike (ofValue (Keyword.normalize a)) (ofValue (Keyword.normalize b))) :
    items ≠ [] ∧ others ≠ [] ∧
      List.Forall₂ Alike (ofValues (items.map Keyword.normalize))
        (ofValues (others.map Keyword.normalize)) := by
  have refl (outlines : List Outline) : List.Forall₂ Alike outlines outlines :=
    List.forall₂_same.2 fun o _ => .refl o
  -- one step of the list is exchanged for one that compiles to the same
  have exchange {step other : Json} (before after : List Json)
      (alike : Alike (ofValue (Keyword.normalize step)) (ofValue (Keyword.normalize other))) :
      List.Forall₂ Alike (ofValues ((before ++ step :: after).map Keyword.normalize))
        (ofValues ((before ++ other :: after).map Keyword.normalize)) := by
    simp only [ofValues, List.map_append, List.map_cons]
    exact List.rel_append (refl _) (.cons alike (refl _))
  induction differ with
  | here before after => exact ⟨by simp, by simp, exchange before after same⟩
  | @inside items others before after host differ ih =>
    obtain ⟨filled, filled', alike⟩ := ih
    refine ⟨by simp, by simp, exchange before after ?_⟩
    rcases host.heading_fill with ⟨name, base, ordered, headed⟩ | overridden
    · have agree : BodiesAgree (heading (Keyword.normalize (host.fill items))).2
          (heading (Keyword.normalize (host.fill others))).2 := by
        rw [headed, headed]
        exact .insert_insert ordered (List.mem_cons_of_mem _ host.listed) _ _
      refine alike_ofValue ?_ agree ?_
      · rw [headed, headed]
      · rw [headed, headed]
        rcases childItems_insert base host.listed with put | ⟨taken, before⟩
        · dsimp only
          rw [put _ (by simpa using filled), put _ (by simpa using filled')]
          exact alike
        · dsimp only
          rw [before, before]
          exact refl _
    · rw [overridden items others]

/-- The two documents differ in one written step, at whatever depth: the first has `a` where the
second has `b`. -/
inductive DocumentsDifferIn (a b : Json) : Json → Json → Prop
  /-- The step is in the list of the document, or below it. -/
  | mk {items others : List Json} (frame : Frame) (listed : normalizeKey frame.key = "steps")
    (differ : DifferIn a b items others) :
    DocumentsDifferIn a b (frame.fill items) (frame.fill others)

/-- The written steps may stand for each other: they become the same steps, and in any place of a
document they make no difference to what it compiles to. -/
structure Interchangeable (a b : Json) : Prop where
  /-- They become the same steps, whatever comes next. -/
  steps : ∀ next,
    steps (ofValue (Keyword.normalize a)) next = steps (ofValue (Keyword.normalize b)) next
  /-- They make no difference in any place. -/
  flows : ∀ document other, DocumentsDifferIn a b document other →
    Flow.ofValue document = Flow.ofValue other

theorem DocumentsDifferIn.ofValue_eq {a b document other : Json}
    (differ : DocumentsDifferIn a b document other)
    (same : Alike (ofValue (Keyword.normalize a)) (ofValue (Keyword.normalize b))) :
    Flow.ofValue document = Flow.ofValue other := by
  obtain ⟨frame, listed, differ⟩ := differ
  obtain ⟨-, -, alike⟩ := differ.alike same
  unfold Flow.ofValue
  rcases frame.normalize_fill with ⟨base, -, last⟩ | overridden
  · have apart {name : String} (value : Json) (free : "steps" ≠ name) :
        Fields.get? (base.insert "steps" value) name = Fields.get? base name := by
      rw [Fields.get?_insert, if_neg free]
    have list (items : List Json) :
        Fields.get? (base.insert "steps" (.arr items)) "steps" = some (.arr items) := by
      rw [Fields.get?_insert, if_pos rfl]
    rw [last, last, listed]
    simp only [list, Alike.namesOfList alike, Flow.ofOutlines, Alike.stepsOfList alike,
      apart _ (show "steps" ≠ "name" by decide), apart _ (show "steps" ≠ "description" by decide)]
  · rw [overridden]

/-- Steps that compile to the same may stand for each other. -/
theorem Alike.interchangeable {a b : Json}
    (same : Alike (ofValue (Keyword.normalize a)) (ofValue (Keyword.normalize b))) :
    Interchangeable a b :=
  ⟨same.steps, fun _ _ differ => differ.ofValue_eq same⟩

/-! ## Keyed and named steps -/

/-- A step in keyed form: the only key is its name, and under it is the body. -/
def keyed (name : String) (body : Json.Object) : Json := .obj [(name, .obj body)]

/-- A step with a name: the name is one of the fields of the body. -/
def named (name : String) (body : Json.Object) : Json := .obj (body.insert "name" (.str name))

theorem heading_normalize_keyed {name : String} (other : normalizeKey name ≠ "name")
    (body : Json.Object) : heading (Keyword.normalize (keyed name body)) =
      (normalizeKey name, Fields.ofList (body.map normalizeField)) := by
  have normal : Keyword.normalize (keyed name body) =
      .obj [(normalizeKey name, .obj (Fields.ofList (body.map normalizeField)))] := by
    rw [keyed, normalize_obj, List.map_cons, normalizeField, normalize_obj]
    rfl
  rw [normal, heading, Fields.get?_cons, if_neg other]
  rfl

theorem heading_normalize_named (name : String) {body : Json.Object}
    (nameless : ∀ key ∈ Fields.keys body, ¬ SameKey key "name") :
    heading (Keyword.normalize (named name body)) =
      (name, (Fields.ofList (body.map normalizeField)).insert "name" (.str name)) := by
  have english : normalizeKey "name" = "name" := by decide
  have free {fields : Json.Object} (within : ∀ key ∈ Fields.keys fields, ¬ SameKey key "name") :
      "name" ∉ Fields.keys (fields.map normalizeField) := by
    rw [Fields.keys, List.map_map, List.mem_map]
    rintro ⟨field, member, same⟩
    exact within field.1 (List.mem_map_of_mem member)
      (normalizeKey_eq_iff.1 (Eq.trans same english.symm))
  have absent : Fields.get? body "name" = none :=
    Fields.get?_eq_none_iff.2 fun member => nameless _ member (.inl rfl)
  obtain ⟨before, after, rfl, inserted⟩ := Fields.exists_insert_eq (.str name) absent
  have plain : Keyword.normalize (.str name) = .str name := by simp only [Keyword.normalize]
  have normal : Keyword.normalize (named name (before ++ after)) =
      .obj ((Fields.ofList ((before ++ after).map normalizeField)).insert "name" (.str name)) := by
    rw [named, inserted, normalize_obj, List.map_append, List.map_cons, normalizeField, english,
      plain, Fields.ofList_append_cons _ (free fun key member => nameless key ?_), List.map_append]
    rw [Fields.keys, List.map_append]
    exact List.mem_append_right _ member
  rw [normal]
  simp only [heading, Fields.get?_insert]
  rfl

/-- **A keyed step may stand for the named one**, if the key is taken as it is normalised. -/
theorem interchangeable_keyed {name : String} {body : Json.Object}
    (other : normalizeKey name ≠ "name")
    (nameless : ∀ key ∈ Fields.keys body, ¬ SameKey key "name") :
    Interchangeable (keyed name body) (named (normalizeKey name) body) := by
  refine (alike_ofValue ?_ ?_ ?_).interchangeable
  · rw [heading_normalize_keyed other, heading_normalize_named _ nameless]
  · rw [heading_normalize_keyed other, heading_normalize_named _ nameless]
    exact .insert_name (Fields.ordered_ofList _) _
  · rw [heading_normalize_keyed other, heading_normalize_named _ nameless]
    dsimp only
    rw [childItems_insert_name]
    exact List.forall₂_same.2 fun o _ => .refl o

/-- A keyed step with nothing in its body may stand for the bare name. -/
theorem interchangeable_bare {name : String} (other : normalizeKey name ≠ "name") :
    Interchangeable (keyed name []) (.str (normalizeKey name)) := by
  have same : heading (Keyword.normalize (keyed name [])) =
      heading (Keyword.normalize (.str (normalizeKey name))) := by
    rw [heading_normalize_keyed other]
    simp only [Keyword.normalize]
    rfl
  refine Alike.interchangeable ?_
  rw [ofValue_eq, ofValue_eq, same]

theorem name_of_interchangeable {a b : Json} (same : Interchangeable a b) :
    (heading (Keyword.normalize a)).1 = (heading (Keyword.normalize b)).1 := by
  have first (raw : Json) :
      (steps (ofValue raw) none).head?.map Step.name = some (heading raw).1 := by
    rw [ofValue_eq, steps]
    rfl
  have heads := first (Keyword.normalize a)
  rw [same.steps, first] at heads
  exact (Option.some.inj heads).symm

/-- A keyed step bears its key as its name exactly if the key is not a Chinese spelling. -/
theorem name_keyed_iff {name : String} (other : name ≠ "name") (body : Json.Object) :
    (heading (Keyword.normalize (keyed name body))).1 = name ↔ name ∉ synonyms.map Prod.fst := by
  rw [← normalizeKey_eq_self_iff]
  by_cases reads : normalizeKey name = "name"
  · -- the key is read as the one of a name, and the name is then the text of the body
    refine iff_of_false (fun same => ?_) fun same => other (same.symm.trans reads)
    have chinese : name = "名称" := by
      have listed : ∀ pair ∈ synonyms, pair.2 = "name" → pair.1 = "名称" := by decide +kernel
      have member := (mem_synonyms_or_normalizeKey_eq name).resolve_right fun same =>
        other (same.symm.trans reads)
      exact listed _ member reads
    have normal : Keyword.normalize (keyed name body) =
        .obj [("name", .obj (Fields.ofList (body.map normalizeField)))] := by
      rw [keyed, normalize_obj, List.map_cons, normalizeField, normalize_obj, reads]
      rfl
    rw [normal, heading, Fields.get?_cons, if_pos rfl, chinese] at same
    have brace := congrArg (fun name : String => name.toList.head?) same
    simp only [givenName, Json.compress, String.toList_ofList] at brace
    rw [Json.write, List.head?_cons] at brace
    exact absurd brace (by decide)
  · rw [heading_normalize_keyed reads]

/-- **When the keyed form of a step may stand for the other forms.**  Unless the key is a Chinese
spelling, it may stand for the form with a `name` and the same body, and without a body for the bare
name: they become the same steps, and no document compiles to something else if one is written in
the place of another, at whatever depth.  A Chinese spelling is taken for the key that it spells,
though it is the name of a step here: the step bears the English name then, in all that is compiled,
and the keyed form may stand for no other form with the name that was written. -/
theorem interchangeable_keyed_iff {name : String} {body : Json.Object} (other : name ≠ "name")
    (nameless : ∀ key ∈ Fields.keys body, ¬ SameKey key "name") :
    (Interchangeable (keyed name body) (named name body) ↔ name ∉ synonyms.map Prod.fst) ∧
    (body = [] →
      (Interchangeable (keyed name body) (.str name) ↔ name ∉ synonyms.map Prod.fst)) ∧
    (normalizeKey name ≠ "name" →
      Interchangeable (keyed name body) (named (normalizeKey name) body) ∧
      (body = [] → Interchangeable (keyed name body) (.str (normalizeKey name)))) := by
  have reads (alone : name ∉ synonyms.map Prod.fst) : normalizeKey name ≠ "name" := by
    rw [normalizeKey_eq_self_iff.2 alone]
    exact other
  refine ⟨⟨fun same => ?_, fun alone => ?_⟩, ?_,
    fun free => ⟨interchangeable_keyed free nameless, ?_⟩⟩
  · have names := name_of_interchangeable same
    rw [heading_normalize_named name nameless] at names
    exact (name_keyed_iff other body).1 names
  · have same := interchangeable_keyed (reads alone) nameless
    rwa [normalizeKey_eq_self_iff.2 alone] at same
  · rintro rfl
    refine ⟨fun same => ?_, fun alone => ?_⟩
    · have names := name_of_interchangeable same
      simp only [Keyword.normalize] at names
      exact (name_keyed_iff other []).1 names
    · have same := interchangeable_bare (reads alone)
      rwa [normalizeKey_eq_self_iff.2 alone] at same
  · rintro rfl
    exact interchangeable_bare free

/-! ### A step below a loop -/

/-- The list of a document that has nothing else in it. -/
def bare : Frame := ⟨[], "steps", []⟩

/-- A loop over a list, keyed by its name. -/
def loopHost : Host where
  before := []
  key := "children"
  after := [("iterate", .str "xs")]
  keyed := some "l"
  listed := by decide
  named := by simp +decide

/-- A definition with a keyed step below a loop, whose name is a key in other places. -/
def keyedText : String :=
  "steps: [\x7bl: \x7biterate: xs, children: [\x7bsteps: \x7bwait: true\x7d\x7d]\x7d\x7d, c]"

/-- The definition with the step in the form with a `name`. -/
def namedText : String :=
  "steps: [\x7bl: \x7biterate: xs, children: [\x7bname: steps, wait: true\x7d]\x7d\x7d, c]"

/-- The flow of both. -/
def keyedFlow : Flow where
  name := "unnamed flow"
  steps := .ofList [
    ("l", { name := "l", transitions := [.plain "steps", .plain "c"]
            config := { kind := .loop, iterate := some "xs" } }),
    ("steps", { name := "steps", transitions := [.plain "l"]
                config := { kind := .wait, wait := true } }),
    ("c", { name := "c" })]
  entry := "l"

theorem parse?_keyedText : Yaml.parse? keyedText =
    some (bare.fill [loopHost.fill [keyed "steps" [("wait", .bool true)]], .str "c"]) := by
  decide +kernel

theorem parse?_namedText : Yaml.parse? namedText =
    some (bare.fill [loopHost.fill [named "steps" [("wait", .bool true)]], .str "c"]) := by
  decide +kernel

/-- Both definitions compile to the same flow, with a step that is named `steps`. -/
theorem interchangeable_keyed_iff_below :
    ("steps" ≠ "name" ∧ ∀ key ∈ Fields.keys [("wait", Json.bool true)], ¬ SameKey key "name") ∧
      Interchangeable (keyed "steps" [("wait", .bool true)])
        (named "steps" [("wait", .bool true)]) ∧
      Flow.ofText namedText = .ok keyedFlow ∧ Flow.ofText keyedText = .ok keyedFlow := by
  have nameless : ∀ key ∈ Fields.keys [("wait", Json.bool true)], ¬ SameKey key "name" := by decide
  have same : Interchangeable (keyed "steps" [("wait", .bool true)])
      (named "steps" [("wait", .bool true)]) :=
    (interchangeable_keyed_iff (by decide) nameless).1.2 (by decide)
  have compiled : Flow.ofText namedText = .ok keyedFlow := by
    rw [Flow.ofText, parse?_namedText]
    cbv
  refine ⟨⟨by decide, nameless⟩, same, compiled, ?_⟩
  rw [Flow.ofText, parse?_namedText] at compiled
  rw [Flow.ofText, parse?_keyedText]
  exact (same.flows _ _ (.mk bare (by decide) (.inside [] [.str "c"] loopHost
    (.here [] [])))).trans compiled

/-! ### A name that is taken for a key -/

/-- A definition with a keyed step that another one leads to by its name. -/
def keyedSettingsText : String :=
  "steps: [\x7bname: a, next: 配置\x7d, \x7b配置: \x7bwait: true\x7d\x7d]"

/-- The definition with the step in the form with a `name`. -/
def namedSettingsText : String :=
  "steps: [\x7bname: a, next: 配置\x7d, \x7bname: 配置, wait: true\x7d]"

/-- The step that leads to it. -/
def towardsSettings : Json := .obj [("name", .str "a"), ("next", .str "配置")]

theorem parse?_keyedSettingsText : Yaml.parse? keyedSettingsText =
    some (bare.fill [towardsSettings, keyed "配置" [("wait", .bool true)]]) := by
  decide +kernel

theorem parse?_namedSettingsText : Yaml.parse? namedSettingsText =
    some (bare.fill [towardsSettings, named "配置" [("wait", .bool true)]]) := by
  decide +kernel

/-- **A definition is refused because of the form of a step.**  The two definitions differ in the
form of their second step only.  In the first the step bears the name `config`, which nobody wrote,
and the transition to it leads nowhere; in the second it bears its own name. -/
theorem misnamed_settings :
    Yaml.parse? keyedSettingsText =
      some (bare.fill [towardsSettings, keyed "配置" [("wait", .bool true)]]) ∧
    Yaml.parse? namedSettingsText =
      some (bare.fill [towardsSettings, named "配置" [("wait", .bool true)]]) ∧
    (Flow.ofText keyedSettingsText).map Flow.stepNames = .ok ["a", "config"] ∧
    Engine.compile keyedSettingsText = .error (.invalid [⟨.missingTarget "配置", some "a"⟩]) ∧
    (Flow.ofText namedSettingsText).map Flow.stepNames = .ok ["a", "配置"] ∧
    (Engine.compile namedSettingsText).map (fun loaded => loaded.1.stepNames) =
      .ok ["a", "配置"] := by
  refine ⟨parse?_keyedSettingsText, parse?_namedSettingsText, ?_, ?_, ?_, ?_⟩
  · rw [Flow.ofText, parse?_keyedSettingsText]
    cbv
  · rw [Engine.compile, Flow.ofText, parse?_keyedSettingsText]
    cbv
  · rw [Flow.ofText, parse?_namedSettingsText]
    cbv
  · rw [Engine.compile, Flow.ofText, parse?_namedSettingsText]
    cbv

end Outline

end Runbook
