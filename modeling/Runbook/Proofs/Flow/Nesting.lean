import Runbook.Proofs.Flow.Accepted

/-!
# Nesting of loops

A document nests its steps and a flow does not.  What is left of the nesting in a flow is how the
transitions go: from the header of a loop into its body, from the last step of the body back to the
header, and from the header out again.  This module says that this is all, as long as the document
leaves the order of its steps to the nesting.

## Main definitions

* `Outline.placesOfList`: the declared names, each with the loops around it
* `Outline.enclosing?`: the loops around a declared name
* `Outline.ImplicitList`: no step says itself where the run goes
* `Flow.Docked`: active loops with which a run may arrive at a name
* `Flow.Wired`: the transitions of a step lead to where they dock

## Main statements

* `Outline.wired_stepsOfList`: the steps of some outlines are wired
* `Flow.Nested.of_compile`: so are those of the flow of a document

## Design notes

A run arrives at a header in two ways, from outside with the loops around the header, and from the
body with the header itself as the innermost one.  `Flow.Docked` has both, and so it is what
transitions keep; that the loops around a step are exactly the active ones is then only a matter of
arriving at a step that is no header.
-/

namespace Runbook

namespace Outline

/-! ## Places -/

/-- Is the declared step a loop with an iterate expression? -/
def isLoop (o : Outline) : Bool :=
  StepKind.infer o.body == .loop && (Keyword.firstText? o.body ["iterate"]).isSome

mutual

/-- The declared names in a step, each with the loops around it, the outermost first. -/
def places (around : List String) : Outline → List (String × List String)
  | mk name body children =>
    (name, around) ::
      placesOfList (if isLoop (mk name body children) then around ++ [name] else around) children

/-- The declared names in some steps, each with the loops around it. -/
def placesOfList (around : List String) : List Outline → List (String × List String)
  | [] => []
  | o :: rest => places around o ++ placesOfList around rest

end

/-- The loops with an iterate expression around a declared name, the outermost first. -/
def enclosing? (outlines : List Outline) (name : String) : Option (List String) :=
  Dict.find? (placesOfList [] outlines) name

mutual

theorem map_fst_places : ∀ (around : List String) (o : Outline),
    (places around o).map Prod.fst = names o
  | around, mk name body children => by
    rw [places, names, List.map_cons, map_fst_placesOfList]

theorem map_fst_placesOfList : ∀ (around : List String) (outlines : List Outline),
    (placesOfList around outlines).map Prod.fst = namesOfList outlines
  | around, [] => rfl
  | around, o :: rest => by
    rw [placesOfList, namesOfList_cons, List.map_append, map_fst_places, map_fst_placesOfList]

end

mutual

/-- A step is not one of the loops around it. -/
theorem notMem_of_mem_places {place : String × List String} :
    ∀ {around : List String} {o : Outline}, place ∈ places around o → (names o).Nodup →
      (∀ name ∈ around, name ∉ names o) → place.1 ∉ place.2
  | around, mk name body children, member, distinct, apart => by
    rw [names, List.nodup_cons] at distinct
    rw [places, List.mem_cons] at member
    rcases member with rfl | member
    · exact fun inside => apart name inside (by rw [names]; exact List.mem_cons_self)
    · refine notMem_of_mem_placesOfList member distinct.2 fun other inside declared => ?_
      have below : other ∈ names (mk name body children) := by
        rw [names]
        exact List.mem_cons_of_mem name declared
      split at inside
      · rcases List.mem_append.1 inside with inside | last
        · exact apart other inside below
        · obtain rfl := List.mem_singleton.1 last
          exact distinct.1 declared
      · exact apart other inside below

theorem notMem_of_mem_placesOfList {place : String × List String} :
    ∀ {around : List String} {outlines : List Outline}, place ∈ placesOfList around outlines →
      (namesOfList outlines).Nodup → (∀ name ∈ around, name ∉ namesOfList outlines) →
      place.1 ∉ place.2
  | around, [], member, _, _ => by cases member
  | around, o :: rest, member, distinct, apart => by
    rw [namesOfList_cons, List.nodup_append] at distinct
    simp only [namesOfList_cons, List.mem_append, not_or] at apart
    rw [placesOfList, List.mem_append] at member
    rcases member with member | member
    · exact notMem_of_mem_places member distinct.1 fun name inside => (apart name inside).1
    · exact notMem_of_mem_placesOfList member distinct.2.1 fun name inside =>
        (apart name inside).2

end

/-! ## Outlines without ways of their own -/

/-- The keys by which a step says itself where the run goes. -/
def wayKeys : List String := ["next", "target", "onFail", "jump"]

mutual

/-- Neither the declared step nor one below it says itself where the run goes. -/
def Implicit : Outline → Prop
  | mk _ body children => (∀ key ∈ wayKeys, Fields.get? body key = none) ∧ ImplicitList children

/-- None of the declared steps, at any depth, says itself where the run goes. -/
def ImplicitList : List Outline → Prop
  | [] => True
  | o :: rest => Implicit o ∧ ImplicitList rest

end

theorem iterate_plain (kind : StepKind) (body : Json.Object) (next : Option String) :
    (Wiring.plain kind body next).iterate = none := by
  unfold Wiring.plain
  split
  · rfl
  · split
    · rfl
    · unfold Wiring.assertion
      split <;> rfl
    · rfl
    · rfl

theorem children_plain (kind : StepKind) (body : Json.Object) (next : Option String) :
    (Wiring.plain kind body next).children = none := by
  unfold Wiring.plain
  split
  · rfl
  · split
    · rfl
    · unfold Wiring.assertion
      split <;> rfl
    · rfl
    · rfl

/-- A step that enters its children is a loop or a branch. -/
theorem wiring_cases (o : Outline) (next : Option String) :
    o.wiring next = .plain (.infer o.body) o.body next ∨
      (∃ child, o.children.head? = some child ∧ StepKind.infer o.body = .loop ∧
        o.wiring next =
          { iterate := Keyword.firstText? o.body ["iterate"]
            transitions := .plain child.name :: Transition.toNext next
            children := some (some o.name) }) ∨
      ∃ child, o.children.head? = some child ∧ StepKind.infer o.body = .branch ∧
        o.wiring next =
          { auto := true
            transitions := .withCondition child.name o.body ["if", "condition"] ::
              Transition.toNext next
            children := some next } := by
  unfold wiring
  cases first : o.children.head? with
  | none =>
    refine .inl ?_
    cases StepKind.infer o.body <;> rfl
  | some child =>
    cases kind : StepKind.infer o.body with
    | loop => exact .inr (.inl ⟨child, rfl, rfl, rfl⟩)
    | branch => exact .inr (.inr ⟨child, rfl, rfl, rfl⟩)
    | _ => exact .inl rfl

/-- A step that enters no children leads to the step after it or nowhere. -/
theorem next_of_mem_plain {kind : StepKind} {body : Json.Object} {next : Option String}
    (implicit : ∀ key ∈ wayKeys, Fields.get? body key = none) :
    ∀ t ∈ (Wiring.plain kind body next).transitions, next = some t.target := by
  have onward : ∀ t ∈ Transition.toNext next, next = some t.target := by
    intro t member
    cases next with
    | none => cases member
    | some name =>
      obtain rfl := List.mem_singleton.1 member
      rfl
  simp only [wayKeys, List.forall_mem_cons] at implicit
  obtain ⟨noNext, noTarget, noFail, noJump, -⟩ := implicit
  intro t member
  simp only [Wiring.plain, noNext] at member
  cases kind with
  | terminate => cases member
  | jump => simp [Wiring.jump, Keyword.firstText?, noTarget, noJump] at member
  | assert =>
    have silent : Keyword.firstText? body ["onFail", "target"] = none := by
      simp [Keyword.firstText?, noFail, noTarget]
    cases asserted : Keyword.firstText? body ["condition", "assert"] with
    | none =>
      simp only [Wiring.assertion, asserted] at member
      exact onward t member
    | some condition =>
      simp only [Wiring.assertion, asserted, silent, Option.map_none, Option.toList_none,
        List.append_nil] at member
      cases next with
      | none => cases member
      | some name =>
        obtain rfl := List.mem_singleton.1 member
        rfl
  | task => exact onward t member
  | wait => exact onward t member
  | branch => exact onward t member
  | loop => exact onward t member

end Outline

/-! ## Docking -/

namespace Flow

section Docking

variable (declared : List (String × List String)) (header : String → Prop)

/-- A run may arrive at the name with these active loops: they are the loops around it, and if it is
a header the run may also come from its body. -/
def Docked (target : String) (active : List String) : Prop :=
  ∃ around, (target, around) ∈ declared ∧
    (active = around ∨ header target ∧ active = around ++ [target])

/-- The transitions of a step lead to where they dock: a header leads into its body, with itself as
the innermost loop, and out again, and any other step leads to names with the same loops around
them. -/
def Wired (step : Step) (around : List String) : Prop :=
  if step.config.isLoopHeader then
    ∃ body exits, step.transitions = body :: exits ∧
      Docked declared header body.target (around ++ [step.name]) ∧
      ∀ exit ∈ exits, Docked declared header exit.target around
  else ∀ t ∈ step.transitions, Docked declared header t.target around

end Docking

end Flow

namespace Outline

section Wiring

open Runbook.Flow

variable {declared : List (String × List String)} {header : String → Prop}

theorem docked_toNext {next : Option String} {around : List String}
    (onward : ∀ target, next = some target → Docked declared header target around) :
    ∀ t ∈ Transition.toNext next, Docked declared header t.target around := by
  intro t member
  cases next with
  | none => cases member
  | some target =>
    obtain rfl := List.mem_singleton.1 member
    exact onward target rfl

/-- A step is wired if what comes next docks with the loops around it, and its first child with
those around the child. -/
theorem wired_step {o : Outline} {next : Option String} {around : List String}
    (implicit : ∀ key ∈ wayKeys, Fields.get? o.body key = none)
    (onward : ∀ target, next = some target → Docked declared header target around)
    (inward : ∀ child, o.children.head? = some child →
      Docked declared header child.name (if o.isLoop then around ++ [o.name] else around)) :
    Wired declared header (o.step next) around := by
  have plain (none : (o.wiring next).iterate = none)
      (docked : ∀ t ∈ (o.wiring next).transitions, Docked declared header t.target around) :
      Wired declared header (o.step next) around := by
    rw [Wired, if_neg (by simp [step, StepConfig.ofBody, StepConfig.isLoopHeader, none])]
    exact docked
  -- a step enters no children, or it is a loop, or a branch
  rcases wiring_cases o next with same | ⟨child, first, kind, same⟩ | ⟨child, first, kind, same⟩
  · refine plain ?_ fun t member => ?_
    · rw [same, iterate_plain]
    · rw [same] at member
      exact onward _ (next_of_mem_plain implicit t member)
  · have docked := inward child first
    cases iterate : Keyword.firstText? o.body ["iterate"] with
    | none =>
      -- a loop without an expression is none for the run, and so it is none here
      have no : o.isLoop = false := by simp [isLoop, iterate]
      rw [no, if_neg Bool.false_ne_true] at docked
      refine plain ?_ ?_
      · rw [same]
        exact iterate
      · rw [same]
        exact List.forall_mem_cons.2 ⟨docked, docked_toNext onward⟩
    | some expression =>
      have yes : o.isLoop = true := by simp [isLoop, iterate, kind]
      rw [yes, if_pos rfl] at docked
      have loops : (o.step next).config.isLoopHeader = true := by
        show (o.wiring next).iterate.isSome = true
        rw [same, iterate]
        rfl
      rw [Wired, if_pos loops]
      refine ⟨.plain child.name, Transition.toNext next, ?_, docked, docked_toNext onward⟩
      show (o.wiring next).transitions = _
      rw [same]
  · have docked := inward child first
    have no : o.isLoop = false := by simp [isLoop, kind]
    rw [no, if_neg Bool.false_ne_true] at docked
    refine plain ?_ ?_
    · rw [same]
    · rw [same]
      exact List.forall_mem_cons.2 ⟨docked, docked_toNext onward⟩

/-- A declared name docks with the loops around it. -/
theorem docked_of_mem {around : List String} {o : Outline} (member : (o.name, around) ∈ declared) :
    Docked declared header o.name around :=
  ⟨around, member, .inl rfl⟩

theorem mem_places (around : List String) (o : Outline) : (o.name, around) ∈ places around o := by
  cases o
  rw [places]
  exact List.mem_cons_self

theorem mem_placesOfList_head {around : List String} {outlines : List Outline} {o : Outline}
    (first : outlines.head? = some o) : (o.name, around) ∈ placesOfList around outlines := by
  cases outlines with
  | nil => cases first
  | cons o' rest =>
    obtain rfl := Option.some.inj first
    rw [placesOfList]
    exact List.mem_append_left _ (mem_places around o')

mutual

/-- **The steps of an outline are wired**, if what comes next docks. -/
theorem wired_steps : ∀ {o : Outline} {next : Option String} {around : List String},
    Implicit o → places around o ⊆ declared →
    (∀ target, next = some target → Docked declared header target around) →
    (∀ made ∈ steps o next, made.config.isLoopHeader = true → header made.name) →
    ∀ made ∈ steps o next, ∃ around, (made.name, around) ∈ declared ∧
      Wired declared header made around
  | mk name body children, next, around, implicit, known, onward, headers => by
    rw [Implicit] at implicit
    rw [places, List.cons_subset] at known
    have wired : Wired declared header (step (mk name body children) next) around := by
      refine wired_step implicit.1 onward fun child first => docked_of_mem (known.2 ?_)
      exact mem_placesOfList_head first
    intro made member
    rw [steps] at member headers
    rcases List.mem_cons.1 member with rfl | member
    · exact ⟨around, known.1, wired⟩
    · cases after : (wiring (mk name body children) next).children with
      | none =>
        rw [after] at member
        cases member
      | some after' =>
        rw [after] at member headers
        refine wired_stepsOfList implicit.2 known.2 (fun target same => ?_)
          (fun made member => headers made (List.mem_cons_of_mem _ member)) made member
        rcases wiring_cases (mk name body children) next with wires | ⟨child, -, kind, wires⟩ |
          ⟨child, -, kind, wires⟩
        · rw [wires, children_plain] at after
          cases after
        · rw [wires] at after
          obtain rfl := Option.some.inj after
          obtain rfl := Option.some.inj same
          -- after the last child the run comes back to the header from its body
          split
          · rename_i loop
            refine ⟨around, known.1, .inr ⟨headers _ List.mem_cons_self ?_, rfl⟩⟩
            show (wiring (mk name body children) next).iterate.isSome = true
            rw [wires]
            simpa [isLoop, kind] using loop
          · exact docked_of_mem (o := mk name body children) known.1
        · rw [wires] at after
          obtain rfl := Option.some.inj after
          have no : isLoop (mk name body children) = false := by
            rw [isLoop, kind]
            rfl
          rw [no, if_neg Bool.false_ne_true]
          exact onward target same

theorem wired_stepsOfList : ∀ {outlines : List Outline} {after : Option String}
    {around : List String}, ImplicitList outlines → placesOfList around outlines ⊆ declared →
    (∀ target, after = some target → Docked declared header target around) →
    (∀ made ∈ stepsOfList outlines after, made.config.isLoopHeader = true → header made.name) →
    ∀ made ∈ stepsOfList outlines after, ∃ around, (made.name, around) ∈ declared ∧
      Wired declared header made around
  | [], _, _, _, _, _, _ => by simp
  | o :: rest, after, around, implicit, known, onward, headers => by
    rw [ImplicitList] at implicit
    rw [placesOfList, List.append_subset] at known
    rw [stepsOfList_cons] at headers ⊢
    rw [List.forall_mem_append] at headers ⊢
    refine ⟨wired_steps implicit.1 known.1 (fun target next => ?_) headers.1,
      wired_stepsOfList implicit.2 known.2 onward headers.2⟩
    cases first : rest.head? with
    | none =>
      rw [first] at next
      exact onward target next
    | some second =>
      rw [first] at next
      obtain rfl := Option.some.inj next
      exact docked_of_mem (known.2 (mem_placesOfList_head first))

end

end Wiring

end Outline

namespace Flow

/-! ## Flows of documents -/

/-- What is left in a flow of the nesting of its document. -/
structure Nested (flow : Flow) (declared : List (String × List String)) : Prop where
  /-- A name is declared once. -/
  distinct : (declared.map Prod.fst).Nodup
  /-- A step is not one of the loops around it. -/
  apart : ∀ place ∈ declared, place.1 ∉ place.2
  /-- The transitions of a step lead to where they dock. -/
  wired : ∀ {name step}, flow.step? name = some step →
    ∃ around, (name, around) ∈ declared ∧ Wired declared flow.IsHeader step around
  /-- The first step is in no loop. -/
  entry : (flow.entry, []) ∈ declared

/-- The loops around a declared name are known. -/
theorem Nested.around_eq {flow : Flow} {declared : List (String × List String)}
    (nested : flow.Nested declared) {name : String} {around other : List String}
    (member : (name, around) ∈ declared) (member' : (name, other) ∈ declared) : around = other :=
  Option.some.inj ((Dict.find?_of_mem nested.distinct member).symm.trans
    (Dict.find?_of_mem nested.distinct member'))

/-- The first step of a flow is the first one that is declared. -/
theorem entry_ofOutlines {name description : String} {outlines : List Outline}
    (distinct : (Outline.namesOfList outlines).Nodup)
    (known : (ofOutlines name description outlines).contains
      (ofOutlines name description outlines).entry = true) :
    ∃ o, outlines.head? = some o ∧ (ofOutlines name description outlines).entry = o.name := by
  cases outlines with
  | nil => cases known
  | cons o rest =>
    refine ⟨o, rfl, ?_⟩
    show (Dict.keys _).head?.getD "" = o.name
    rw [Dict.keys, show (Dict.ofList _).entries = _ from
      entries_ofOutlines name description distinct, Outline.stepsOfList_cons]
    cases o
    rw [Outline.steps]
    rfl

/-- **The flow of a document is nested as the document is**, if no step says itself where the run
goes. -/
theorem nested_of_compile {text : String} {flow : Flow} {warnings : List Diagnostic}
    (loaded : Engine.compile text = .ok (flow, warnings)) {outlines : List Outline}
    (declares : Outline.ofText? text = some outlines) (implicit : Outline.ImplicitList outlines) :
    flow.Nested (Outline.placesOfList [] outlines) := by
  have accepted : flow.Accepted := ⟨text, warnings, loaded⟩
  obtain ⟨⟨document, readable, compiled⟩, -⟩ := compile_eq_ok loaded
  obtain ⟨outlines', declares', distinct, name, description, rfl⟩ := ofValue_eq_ok compiled
  rw [Outline.ofText?, readable, Option.bind_some] at declares
  obtain rfl := Option.some.inj (declares'.symm.trans declares)
  refine ⟨?_, fun place member => ?_, fun {filed step} found => ?_, ?_⟩
  · rw [Outline.map_fst_placesOfList]
    exact distinct
  · exact Outline.notMem_of_mem_placesOfList member distinct (by simp)
  · obtain ⟨member, rfl⟩ := (step?_ofOutlines distinct).1 found
    refine Outline.wired_stepsOfList implicit (List.Subset.refl _) (by simp) ?_ step member
    intro made member header
    exact ⟨made, (step?_ofOutlines distinct).2 ⟨member, rfl⟩, header⟩
  · obtain ⟨o, first, entry⟩ := entry_ofOutlines distinct accepted.sound.entry
    rw [entry]
    exact Outline.mem_placesOfList_head first

/-! ## A flow with a loop -/

/-- A definition with a loop between two steps. -/
def loopText : String := "steps: [a, \x7bname: l, iterate: xs, children: [b]\x7d, c]"

/-- What `loopText` declares. -/
def loopOutlines : List Outline :=
  [.mk "a" [] [],
    .mk "l" [("children", .arr [.str "b"]), ("iterate", .str "xs"), ("name", .str "l")]
      [.mk "b" [] []],
    .mk "c" [] []]

/-- The flow of `loopText`. -/
def loopFlow : Flow where
  name := "unnamed flow"
  steps := .ofList [("a", { name := "a", transitions := [.plain "l"] }),
    ("l", { name := "l", transitions := [.plain "b", .plain "c"]
            config := { kind := .loop, iterate := some "xs" } }),
    ("b", { name := "b", transitions := [.plain "l"] }),
    ("c", { name := "c" })]
  entry := "a"

theorem parse?_loopText : Yaml.parse? loopText = some (.obj [("steps", .arr [.str "a",
    .obj [("children", .arr [.str "b"]), ("iterate", .str "xs"), ("name", .str "l")],
    .str "c"])]) := by
  decide +kernel

theorem ofText?_loopText : Outline.ofText? loopText = some loopOutlines := by
  rw [Outline.ofText?, parse?_loopText]
  cbv

theorem compile_loopText :
    Engine.compile loopText = .ok (loopFlow, [⟨.deadEnd, some "c"⟩]) :=
  compile_of_document parse?_loopText (by cbv) (by cbv) rfl

/-- The step in the loop has the loop around it, and the loop itself has none. -/
example : Outline.enclosing? loopOutlines "b" = some ["l"] ∧
    Outline.enclosing? loopOutlines "l" = some [] := by
  decide

end Flow

end Runbook
