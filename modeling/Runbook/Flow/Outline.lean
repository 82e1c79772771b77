import Runbook.Flow.Keyword
import Runbook.Json.Printer

/-!
# Outlines

The declared steps of a document as a tree.  A step is written as a bare name, as a mapping with a
`name`, or as a mapping whose only key is the name and whose value is the body; its children are
the items under `steps`, or else under `children`.

## Main definitions

* `Outline`: a declared step with its body and its children
* `Outline.heading`: the name and the body of a written step
* `Outline.ofValue`: the outline of a written step
* `Outline.names`: the declared names, a step before its children
-/

namespace Runbook

/-- A declared step. -/
inductive Outline where
  | mk (name : String) (body : Json.Object) (children : List Outline)

namespace Outline

/-- The name of the declared step. -/
def name : Outline → String
  | mk name _ _ => name

/-- The body of the declared step. -/
def body : Outline → Json.Object
  | mk _ body _ => body

/-- The children of the declared step. -/
def children : Outline → List Outline
  | mk _ _ children => children

/-- The name of a step that has none. -/
def unnamed : String := "unnamed"

/-- The step name that the value of `name` gives. -/
def givenName : Json → String
  | .str s => s
  | .null => unnamed
  | value => value.compress

/-- The name and the body of a written step. -/
def heading : Json → String × Json.Object
  | .str name => (name, [])
  | .obj fields =>
    match Fields.get? fields "name" with
    | some value => (givenName value, fields)
    | none =>
      match fields with
      | [(key, .null)] => (key, [])
      | [(key, .obj body)] => (key, body)
      | fields => (unnamed, fields)
  | _ => (unnamed, [])

/-- The items under a key, if it holds a list that is not empty. -/
def itemsUnder? (body : Json.Object) (key : String) : Option (List Json) :=
  match body.get? key with
  | some (.arr (item :: rest)) => some (item :: rest)
  | _ => none

/-- The written children of a step. -/
def childItems (body : Json.Object) : List Json :=
  match itemsUnder? body "steps" with
  | some items => items
  | none => (itemsUnder? body "children").getD []

theorem sizeOf_lt_of_get? {fields : Json.Object} {key : String} {value : Json}
    (h : fields.get? key = some value) : sizeOf value < sizeOf fields := by
  induction fields with
  | nil => simp at h
  | cons p rest ih =>
    obtain ⟨k, v⟩ := p
    rw [Fields.get?_cons] at h
    simp only [List.cons.sizeOf_spec, Prod.mk.sizeOf_spec]
    split at h
    · obtain rfl := Option.some.inj h
      omega
    · have := ih h
      omega

theorem sizeOf_lt_of_itemsUnder? {body : Json.Object} {key : String} {items : List Json}
    (h : itemsUnder? body key = some items) : sizeOf items < sizeOf body := by
  unfold itemsUnder? at h
  split at h
  · rename_i item rest hget
    obtain rfl := Option.some.inj h
    have := sizeOf_lt_of_get? hget
    simp only [Json.arr.sizeOf_spec] at this
    omega
  · simp at h

theorem sizeOf_childItems_lt (body : Json.Object) : sizeOf (childItems body) < sizeOf body + 1 := by
  unfold childItems
  split
  · rename_i items h
    have := sizeOf_lt_of_itemsUnder? h
    omega
  · cases h : itemsUnder? body "children" with
    | some items =>
      have := sizeOf_lt_of_itemsUnder? h
      simp only [Option.getD_some]
      omega
    | none =>
      have : 0 < sizeOf body := Nat.pos_of_ne_zero (by cases body <;> simp)
      simp only [Option.getD_none, List.nil.sizeOf_spec]
      omega

theorem sizeOf_heading_lt (raw : Json) : sizeOf (heading raw).2 < sizeOf raw + 1 := by
  unfold heading
  split
  · simp only [List.nil.sizeOf_spec, Json.str.sizeOf_spec]
    omega
  · rename_i fields
    split
    · simp only [Json.obj.sizeOf_spec]
      omega
    · split
      · simp only [List.nil.sizeOf_spec, Json.obj.sizeOf_spec, List.cons.sizeOf_spec,
          Prod.mk.sizeOf_spec]
        omega
      · simp only [Json.obj.sizeOf_spec, List.cons.sizeOf_spec, Prod.mk.sizeOf_spec]
        omega
      · simp only [Json.obj.sizeOf_spec]
        omega
  · have : 0 < sizeOf raw := Nat.pos_of_ne_zero (by cases raw <;> simp)
    simp only [List.nil.sizeOf_spec]
    omega

/-- A written child is smaller than the written step. -/
theorem sizeOf_child_lt {raw child : Json} (h : child ∈ childItems (heading raw).2) :
    sizeOf child < sizeOf raw := by
  have h₁ := List.sizeOf_lt_of_mem h
  have h₂ := sizeOf_childItems_lt (heading raw).2
  have h₃ := sizeOf_heading_lt raw
  omega

/-- The outline of a written step. -/
def ofValue (raw : Json) : Outline :=
  .mk (heading raw).1 (heading raw).2
    ((childItems (heading raw).2).attach.map fun child => ofValue child.1)
termination_by sizeOf raw
decreasing_by exact sizeOf_child_lt child.2

/-- The outlines of written steps. -/
def ofValues (items : List Json) : List Outline := items.map ofValue

theorem ofValue_eq (raw : Json) : ofValue raw =
    .mk (heading raw).1 (heading raw).2 (ofValues (childItems (heading raw).2)) := by
  rw [ofValue]
  simp [ofValues]

mutual

/-- The declared names in a step, itself before its children. -/
def names : Outline → List String
  | mk name _ children => name :: namesOfList children

/-- The declared names in some steps, in order. -/
def namesOfList : List Outline → List String
  | [] => []
  | o :: rest => names o ++ namesOfList rest

end

@[simp] theorem name_ofValue (raw : Json) : (ofValue raw).name = (heading raw).1 := by
  rw [ofValue_eq]
  rfl

@[simp] theorem namesOfList_nil : namesOfList [] = [] := rfl

@[simp] theorem namesOfList_cons (o : Outline) (rest : List Outline) :
    namesOfList (o :: rest) = names o ++ namesOfList rest := rfl

end Outline

end Runbook
