import Runbook.Proofs.Flow.Declared
import Runbook.Proofs.Flow.Nesting

/-!
# Steps that are entered

Names are collected below every step of a document, and steps are made only where the children of a
step are entered.  So a declared name need not be one of the flow, and whether it is depends on the
steps around it and on nothing else.

## Main definitions

* `Outline.Lineage`, `Outline.lineages`: the declared steps with the steps around them
* `Outline.Enters`: a step that enters its children

## Main statements

* `Outline.mem_names_steps_iff`: a declared step is made exactly if all steps around it enter their
  children
* `Flow.contains_iff_entered`: so a flow has the names that are declared at the top, or below loops
  and branches only
* `Flow.lost_belowGate`: what is declared below a gate is not there

## Design notes

The steps around a declaration are part of the document and need not be part of the flow: a loop
below a gate is one of the steps around its body.  Since names are distinct, a name has one
declaration, and the equivalence can be said of declarations.
-/

namespace Runbook

namespace Outline

/-- A declared step, and the steps around it, the outermost first. -/
abbrev Lineage : Type := Outline × List Outline

/-- The lineage inside another step. -/
def Lineage.inside (outer : Outline) (lineage : Lineage) : Lineage :=
  (lineage.1, outer :: lineage.2)

mutual

/-- The declared steps in a step, each with the steps around it. -/
def lineages : Outline → List Lineage
  | mk name body children =>
    (mk name body children, []) ::
      (lineagesOfList children).map (Lineage.inside (mk name body children))

/-- The declared steps in some steps, each with the steps around it. -/
def lineagesOfList : List Outline → List Lineage
  | [] => []
  | o :: rest => lineages o ++ lineagesOfList rest

end

mutual

/-- The lineages are those of the declared steps, in their order. -/
theorem map_fst_lineages : ∀ o : Outline, (lineages o).map Prod.fst = declared o
  | mk name body children => by
    rw [lineages, declared, List.map_cons, List.map_map, ← map_fst_lineagesOfList children]
    rfl

theorem map_fst_lineagesOfList : ∀ outlines : List Outline,
    (lineagesOfList outlines).map Prod.fst = declaredOfList outlines
  | [] => rfl
  | o :: rest => by
    rw [lineagesOfList, declaredOfList, List.map_append, map_fst_lineages,
      map_fst_lineagesOfList rest]

end

/-- A declared name is the name of a lineage. -/
theorem mem_namesOfList_iff {outlines : List Outline} {name : String} :
    name ∈ namesOfList outlines ↔ ∃ lineage ∈ lineagesOfList outlines, lineage.1.name = name := by
  rw [← map_name_declaredOfList, ← map_fst_lineagesOfList, List.map_map, List.mem_map]
  rfl

theorem mem_names {o : Outline} {lineage : Lineage} (member : lineage ∈ lineages o) :
    lineage.1.name ∈ names o := by
  rw [← map_name_declared, ← map_fst_lineages, List.map_map]
  exact List.mem_map_of_mem (f := Outline.name ∘ Prod.fst) member

/-- The step is a loop or a branch, which enter their children. -/
def Enters (o : Outline) : Prop :=
  StepKind.infer o.body = .loop ∨ StepKind.infer o.body = .branch

instance (o : Outline) : Decidable o.Enters :=
  inferInstanceAs (Decidable (_ ∨ _))

/-- If a step has children, its kind decides whether they are entered. -/
theorem children_wiring_iff {o : Outline} (filled : o.children ≠ []) (next : Option String) :
    (∃ after, (o.wiring next).children = some after) ↔ o.Enters := by
  obtain ⟨child, rest, children⟩ := List.exists_cons_of_ne_nil filled
  unfold wiring Enters
  rw [children, List.head?_cons, Option.map_some]
  cases StepKind.infer o.body <;> simp [Wiring.ofBody, children_plain]

mutual

/-- **A declared step is made exactly if all steps around it enter their children.** -/
theorem mem_names_steps_iff : ∀ {o : Outline} {next : Option String}, (names o).Nodup →
    ∀ lineage ∈ lineages o, lineage.1.name ∈ (steps o next).map Step.name ↔
      ∀ outer ∈ lineage.2, outer.Enters
  | mk name body children, next, distinct, lineage, member => by
    rw [names, List.nodup_cons] at distinct
    rw [steps, List.map_cons, List.mem_cons]
    rw [lineages, List.mem_cons] at member
    rcases member with rfl | member
    · exact iff_of_true (.inl rfl) (List.forall_mem_nil _)
    obtain ⟨inner, below, rfl⟩ := List.mem_map.1 member
    -- the step itself has another name, so only the steps of the children count
    have apart : inner.1.name ≠ name := fun same =>
      distinct.1 (mem_namesOfList_iff.2 ⟨inner, below, same⟩)
    have filled : children ≠ [] := by
      rintro rfl
      cases below
    have enters := children_wiring_iff (o := mk name body children) filled next
    show inner.1.name = name ∨ inner.1.name ∈ _ ↔ ∀ outer ∈ mk name body children :: inner.2, _
    rw [or_iff_right apart, List.forall_mem_cons, ← enters]
    cases entered : (wiring (mk name body children) next).children with
    | none =>
      refine iff_of_false List.not_mem_nil ?_
      rintro ⟨⟨after, some⟩, -⟩
      cases some
    | some after =>
      rw [and_iff_right ⟨after, rfl⟩]
      exact mem_names_stepsOfList_iff distinct.2 inner below

theorem mem_names_stepsOfList_iff : ∀ {outlines : List Outline} {after : Option String},
    (namesOfList outlines).Nodup → ∀ lineage ∈ lineagesOfList outlines,
      lineage.1.name ∈ (stepsOfList outlines after).map Step.name ↔
        ∀ outer ∈ lineage.2, outer.Enters
  | [], _, _, _, member => by cases member
  | o :: rest, after, distinct, lineage, member => by
    rw [namesOfList_cons, List.nodup_append] at distinct
    obtain ⟨here, later, apart⟩ := distinct
    rw [stepsOfList_cons, List.map_append, List.mem_append]
    rw [lineagesOfList, List.mem_append] at member
    rcases member with member | member
    · have elsewhere : lineage.1.name ∉ (stepsOfList rest after).map Step.name := fun made =>
        apart _ (mem_names member) _ ((names_stepsOfList_sublist rest after).subset made) rfl
      rw [or_iff_left elsewhere]
      exact mem_names_steps_iff here lineage member
    · have elsewhere : lineage.1.name ∉
          (steps o ((rest.head?.map name).or after)).map Step.name := fun made =>
        apart _ ((names_steps_sublist o _).subset made) _
          (mem_namesOfList_iff.2 ⟨lineage, member, rfl⟩) rfl
      rw [or_iff_right elsewhere]
      exact mem_names_stepsOfList_iff later lineage member

end

end Outline

namespace Flow

/-- A flow has the names of the steps that were made. -/
theorem contains_ofOutlines_iff {name description : String} {outlines : List Outline}
    (distinct : (Outline.namesOfList outlines).Nodup) {filed : String} :
    (ofOutlines name description outlines).contains filed = true ↔
      filed ∈ (Outline.stepsOfList outlines none).map Step.name := by
  rw [contains_iff_step?, List.mem_map]
  exact exists_congr fun step => step?_ofOutlines distinct

/-- **Which of the declared names a flow has.**  A flow has no other names than the declared ones,
and of these it has a name exactly if each step around its declaration is a loop or a branch: the
names at the top of the document, and those below loops and branches at any depth.  What is declared
below a step of another kind is left out, however deep. -/
theorem contains_iff_entered {document : Json} {flow : Flow}
    (compiled : ofValue document = .ok flow) :
    ∃ outlines, Outline.ofDocument? document = some outlines ∧
      (∀ name, flow.contains name = true → name ∈ Outline.namesOfList outlines) ∧
      (∀ name, name ∈ Outline.namesOfList outlines ↔
        ∃ lineage ∈ Outline.lineagesOfList outlines, lineage.1.name = name) ∧
      ∀ lineage ∈ Outline.lineagesOfList outlines,
        flow.contains lineage.1.name = true ↔ ∀ outer ∈ lineage.2, outer.Enters := by
  obtain ⟨outlines, declares, distinct, name, description, rfl⟩ := ofValue_eq_ok compiled
  refine ⟨outlines, declares, fun filed known => ?_, fun name => Outline.mem_namesOfList_iff,
    fun lineage member => ?_⟩
  · have made := (contains_ofOutlines_iff distinct).1 known
    exact (Outline.names_stepsOfList_sublist outlines none).subset made
  · rw [contains_ofOutlines_iff distinct]
    exact Outline.mem_names_stepsOfList_iff distinct lineage member

/-- A gate with a child. -/
def filledGate : Outline :=
  .mk "g" [("children", .arr [.str "x"]), ("name", .str "g"), ("wait", .bool true)] [.mk "x" [] []]

/-- A loop over a step and that gate. -/
def gatedLoop : Outline :=
  .mk "l" [("children", .arr [.str "b", .obj filledGate.body]), ("iterate", .str "xs"),
    ("name", .str "l")] [.mk "b" [] [], filledGate]

/-- What is in the loop is one of the flow, and what is below the gate in the loop is not. -/
theorem contains_iff_entered_gatedLoop :
    ∃ flow, ofValue (.obj [("steps", .arr [.obj gatedLoop.body])]) = .ok flow ∧
      flow.contains "b" = true ∧ flow.contains "g" = true ∧ flow.contains "x" = false := by
  have mapping : Keyword.normalize (.obj [("steps", .arr [.obj gatedLoop.body])]) =
      .obj [("steps", .arr [.obj gatedLoop.body])] := by cbv
  have compiled := ofValue_of_distinct mapping rfl (by cbv)
  have declared : Outline.ofDocument? (.obj [("steps", .arr [.obj gatedLoop.body])]) =
      some [gatedLoop] := by cbv
  obtain ⟨outlines, declares, -, -, has⟩ := contains_iff_entered compiled
  obtain rfl := Option.some.inj (declares.symm.trans declared)
  have lineages : Outline.lineagesOfList [gatedLoop] =
      [(gatedLoop, []), (.mk "b" [] [], [gatedLoop]), (filledGate, [gatedLoop]),
        (.mk "x" [] [], [gatedLoop, filledGate])] := rfl
  rw [lineages] at has
  refine ⟨_, compiled, ?_, ?_, ?_⟩
  · exact (has (.mk "b" [] [], [gatedLoop]) (by simp)).2 (by decide)
  · exact (has (filledGate, [gatedLoop]) (by simp)).2 (by decide)
  · rw [← Bool.not_eq_true]
    exact fun known => absurd
      ((has (.mk "x" [] [], [gatedLoop, filledGate]) (by simp)).1 known) (by decide)

/-- A document with a gate that has a child. -/
def filledGateText : String := "steps: [\x7bname: g, wait: true, children: [x]\x7d]"

theorem parse?_filledGateText :
    Yaml.parse? filledGateText = some (.obj [("steps", .arr [.obj filledGate.body])]) := by
  decide +kernel

/-- **What is declared below a gate is lost.**  The document becomes a flow and declares the child
of the gate, but its flow does not have it. -/
theorem lost_belowGate : ∃ flow outlines, ofText filledGateText = .ok flow ∧
    Outline.ofText? filledGateText = some outlines ∧ "x" ∈ Outline.namesOfList outlines ∧
    flow.contains "x" = false := by
  have compiled : ofText filledGateText = .ok
      { name := "unnamed flow"
        steps := .ofList [("g", { name := "g", config := { kind := .wait, wait := true } })]
        entry := "g" } := by
    rw [ofText, parse?_filledGateText]
    cbv
  have declared : Outline.ofText? filledGateText = some [filledGate] := by
    rw [Outline.ofText?, parse?_filledGateText]
    cbv
  exact ⟨_, _, compiled, declared, .tail _ (.head _), by cbv⟩

end Flow

end Runbook
