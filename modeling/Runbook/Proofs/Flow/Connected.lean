import Runbook.Proofs.Flow.Entered
import Runbook.Proofs.Flow.Reachable

/-!
# The wiring leaves nothing out

A document that leaves the order of its steps to the nesting says nowhere itself where the run
goes, and ends it nowhere.  All transitions of its flow are then invented by the compiler, and none
of them dangles and no step is stranded, however the steps are nested.

## Main definitions

* `Outline.Silent`: a step that does not say itself where the run goes
* `Step.Lasts`: a step that is neither a jump nor an end

## Main statements

* `Outline.targets_step`: such a step leads to its first child, if it enters its children, and to
  what comes next
* `Outline.connected_stepsOfList`: if the first of some steps is reached, all of them are
* `Flow.check_of_silent`: so the checks find no missing target and no unreachable step

## Design notes

It does not matter where a body leads back to.  The step around it leads to what comes next as well,
so the steps after the body are reached without going through it.
-/

namespace Runbook

namespace Outline

/-- The step does not say itself where the run goes. -/
def Silent (o : Outline) : Prop :=
  ∀ key ∈ ["next", "onFail", "target"], Fields.get? o.body key = none

instance (o : Outline) : Decidable o.Silent :=
  inferInstanceAs (Decidable (∀ key ∈ _, _ = none))

end Outline

/-- The step is neither a jump nor an end. -/
def Step.Lasts (step : Step) : Prop := step.config.kind ≠ .jump ∧ step.config.kind ≠ .terminate

instance (step : Step) : Decidable step.Lasts :=
  inferInstanceAs (Decidable (_ ∧ _))

namespace Outline

open Runbook.Flow

/-- The name that a body leads to in the end, if it is entered: the loop, or what comes after the
branch. -/
theorem after_of_children {o : Outline} {next after : Option String}
    (entered : (o.wiring next).children = some after) {target : String}
    (leads : after = some target) : target = o.name ∨ next = some target := by
  rcases wiring_cases o next with same | ⟨child, -, -, same⟩ | ⟨child, -, -, same⟩
  · rw [same, children_plain] at entered
    cases entered
  · rw [same] at entered
    obtain rfl := Option.some.inj entered
    exact .inl (Option.some.inj leads).symm
  · rw [same] at entered
    obtain rfl := Option.some.inj entered
    exact .inr leads

theorem map_target_toNext (next : Option String) :
    (Transition.toNext next).map Transition.target = next.toList := by
  cases next <;> rfl

/-- A step that enters no children leads to what comes next, and nowhere else. -/
theorem targets_plain {kind : StepKind} {body : Json.Object} {next : Option String}
    (silent : ∀ key ∈ ["next", "onFail", "target"], Fields.get? body key = none)
    (jumps : kind ≠ .jump) (ends : kind ≠ .terminate) :
    (Wiring.plain kind body next).transitions.map Transition.target = next.toList := by
  simp only [List.forall_mem_cons] at silent
  obtain ⟨noNext, noFail, noTarget, -⟩ := silent
  simp only [Wiring.plain, noNext]
  cases kind with
  | jump => exact absurd rfl jumps
  | terminate => exact absurd rfl ends
  | assert =>
    have unhandled : Keyword.firstText? body ["onFail", "target"] = none := by
      simp [Keyword.firstText?, noFail, noTarget]
    simp only [Wiring.assertion, unhandled]
    cases Keyword.firstText? body ["condition", "assert"] with
    | none => exact map_target_toNext next
    | some condition => cases next <;> rfl
  | task | wait | branch | loop => exact map_target_toNext next

/-- **A step that leaves its ways to the nesting leads to what comes next**, and before that to its
first child if it enters its children. -/
theorem targets_step {o : Outline} {next : Option String} (silent : o.Silent)
    (lasts : (o.step next).Lasts) :
    targets (o.step next) = next.toList ∧ (o.wiring next).children = none ∨
      ∃ child after, o.children.head? = some child ∧
        targets (o.step next) = child.name :: next.toList ∧
        (o.wiring next).children = some after := by
  show (o.wiring next).transitions.map Transition.target = _ ∧ _ ∨
    ∃ child after, _ ∧ (o.wiring next).transitions.map Transition.target = _ ∧ _
  rcases wiring_cases o next with same | ⟨child, first, -, same⟩ | ⟨child, first, -, same⟩
  · rw [same, children_plain]
    exact .inl ⟨targets_plain silent lasts.1 lasts.2, rfl⟩
  · rw [same]
    exact .inr ⟨child, _, first, congrArg (child.name :: ·) (map_target_toNext next), rfl⟩
  · rw [same]
    exact .inr ⟨child, _, first, congrArg (child.name :: ·) (map_target_toNext next), rfl⟩

/-- So what comes next is one of the names it leads to. -/
theorem mem_targets_of_next {o : Outline} {next : Option String} {target : String}
    (silent : o.Silent) (lasts : (o.step next).Lasts) (same : next = some target) :
    target ∈ targets (o.step next) := by
  have member : target ∈ next.toList := Option.mem_toList.2 same
  rcases targets_step silent lasts with ⟨leads, -⟩ | ⟨child, after, -, leads, -⟩
  · rwa [leads]
  · rw [leads]
    exact List.mem_cons_of_mem _ member

theorem step_mem_steps (o : Outline) (next : Option String) : o.step next ∈ steps o next := by
  obtain ⟨name, body, children⟩ := o
  rw [steps]
  exact List.mem_cons_self

theorem mem_declared_self (o : Outline) : o ∈ declared o := by
  obtain ⟨name, body, children⟩ := o
  rw [declared]
  exact List.mem_cons_self

section Connected

variable {flow : Flow} {start : String}

/-- If all steps made of a list are filed, its first one is. -/
theorem contains_of_head? {outlines : List Outline} {after : Option String} {first : Outline}
    (filed : ∀ made ∈ stepsOfList outlines after, flow.step? made.name = some made ∧ made.Lasts)
    (head : outlines.head? = some first) : flow.contains first.name = true := by
  obtain ⟨rest, rfl⟩ := List.head?_eq_some_iff.1 head
  rw [stepsOfList_cons, List.forall_mem_append] at filed
  exact contains_iff_step?.2 ⟨_, (filed.1 _ (step_mem_steps first _)).1⟩

mutual

/-- If a step is reached and what comes next is filed, all steps in it are reached, and their
transitions lead to filed steps. -/
theorem connected_steps : ∀ {o : Outline} {next : Option String},
    (∀ made ∈ steps o next, flow.step? made.name = some made ∧ made.Lasts) →
    (∀ inner ∈ declared o, inner.Silent) →
    (∀ target, next = some target → flow.contains target = true) → flow.Reaches start o.name →
    ∀ made ∈ steps o next, flow.Reaches start made.name ∧
      ∀ target ∈ targets made, flow.contains target = true
  | mk name body children, next, filed, silent, onward, reached => by
    rw [steps, List.forall_mem_cons] at filed
    rw [declared, List.forall_mem_cons] at silent
    obtain ⟨⟨here, lasts⟩, below⟩ := filed
    rw [steps, List.forall_mem_cons]
    rcases targets_step silent.1 lasts with
      ⟨leads, unentered⟩ | ⟨child, after, first, leads, entered⟩
    · refine ⟨⟨reached, fun target member => ?_⟩, ?_⟩
      · rw [leads, Option.mem_toList] at member
        exact onward target member
      · rw [unentered]
        exact List.forall_mem_nil _
    · rw [entered] at below ⊢
      refine ⟨⟨reached, fun target member => ?_⟩, ?_⟩
      · rw [leads, List.mem_cons, Option.mem_toList] at member
        rcases member with rfl | next
        · exact contains_of_head? below first
        · exact onward target next
      · refine connected_stepsOfList below silent.2 (fun target same => ?_) fun other head => ?_
        · rcases after_of_children entered same with rfl | next
          · exact contains_iff_step?.2 ⟨_, here⟩
          · exact onward target next
        · obtain rfl := Option.some.inj (head.symm.trans first)
          exact .tail reached here (leads ▸ List.mem_cons_self)

/-- **If the first of some steps is reached** and what comes after them is filed, all steps in them
are reached, and their transitions lead to filed steps. -/
theorem connected_stepsOfList : ∀ {outlines : List Outline} {after : Option String},
    (∀ made ∈ stepsOfList outlines after, flow.step? made.name = some made ∧ made.Lasts) →
    (∀ inner ∈ declaredOfList outlines, inner.Silent) →
    (∀ target, after = some target → flow.contains target = true) →
    (∀ first, outlines.head? = some first → flow.Reaches start first.name) →
    ∀ made ∈ stepsOfList outlines after, flow.Reaches start made.name ∧
      ∀ target ∈ targets made, flow.contains target = true
  | [], _, _, _, _, _ => List.forall_mem_nil _
  | o :: rest, after, filed, silent, onward, reached => by
    rw [stepsOfList_cons, List.forall_mem_append] at filed ⊢
    rw [declaredOfList, List.forall_mem_append] at silent
    obtain ⟨here, later⟩ := filed
    have onward' : ∀ target, (rest.head?.map name).or after = some target →
        flow.contains target = true := by
      intro target same
      cases next : rest.head? with
      | none =>
        rw [next] at same
        exact onward target same
      | some follower =>
        rw [next] at same
        obtain rfl : follower.name = target := Option.some.inj same
        exact contains_of_head? later next
    refine ⟨connected_steps here silent.1 onward' (reached o rfl), ?_⟩
    refine connected_stepsOfList later silent.2 onward fun follower next => ?_
    have leads : follower.name ∈ targets (o.step ((rest.head?.map name).or after)) :=
      mem_targets_of_next (silent.1 o (mem_declared_self o)) (here _ (step_mem_steps o _)).2
        (by rw [next]; rfl)
    exact .tail (reached o rfl) (here _ (step_mem_steps o _)).1 leads

end

end Connected

end Outline

namespace Flow

/-- In a flow without dangling transitions and without stranded steps, the checks find neither. -/
theorem check_of_connected {flow : Flow} (named : flow.entry ≠ "")
    (onto : ∀ step ∈ flow.steps.values, ∀ target ∈ targets step, flow.contains target = true)
    (entered : flow.contains flow.entry = true)
    (reached : ∀ name, flow.contains name = true → flow.Reaches flow.entry name) :
    flow.check = flow.checkDeadEnds ++ flow.checkLoops ∧
      ∀ d ∈ flow.check, d.finding ≠ .unreachable ∧ ∀ target, d.finding ≠ .missingTarget target := by
  have onward : flow.check = flow.checkDeadEnds ++ flow.checkLoops := by
    rw [check_of_entry named entered,
      checkTargets_eq_nil_iff.2 fun step member => List.forall_mem_map.1 (onto step member),
      checkReachability_eq_nil_iff.2 reached, List.append_nil, List.nil_append]
  refine ⟨onward, fun d found => ?_⟩
  rw [onward, List.mem_append] at found
  rcases found with ended | loop
  · rw [finding_of_mem_checkDeadEnds ended]
    exact ⟨nofun, nofun⟩
  · rcases finding_of_mem_checkLoops loop with same | same
    · rw [same]
      exact ⟨nofun, nofun⟩
    · rw [same]
      exact ⟨nofun, nofun⟩

/-- **The wiring never dangles and strands no step.**  Take a document whose first step has a name.
If no declared step says itself where the run goes and no step of the flow is a jump or an end, then
all transitions lead to filed steps and every filed step is on a path from the first one, to
whatever depth loops, branches and assertions are nested.  So the checks find neither a missing
target nor an unreachable step, and what they do find are dead ends and loops without a body. -/
theorem check_of_silent {document : Json} {flow : Flow} {outlines : List Outline} {first : Outline}
    (compiled : ofValue document = .ok flow)
    (declares : Outline.ofDocument? document = some outlines)
    (leads : outlines.head? = some first) (named : first.name ≠ "")
    (silent : ∀ o ∈ Outline.declaredOfList outlines, o.Silent)
    (lasts : ∀ name step, flow.step? name = some step → step.Lasts) :
    flow.entry = first.name ∧
      (∀ step ∈ flow.steps.values, ∀ target ∈ targets step, flow.contains target = true) ∧
      (∀ name, flow.contains name = true → flow.Reaches flow.entry name) ∧
      flow.check = flow.checkDeadEnds ++ flow.checkLoops ∧
      ∀ d ∈ flow.check, d.finding ≠ .unreachable ∧ ∀ target, d.finding ≠ .missingTarget target := by
  obtain ⟨outlines, declares', distinct, name, description, rfl⟩ := ofValue_eq_ok compiled
  obtain rfl := Option.some.inj (declares.symm.trans declares')
  have entry : (ofOutlines name description outlines).entry = first.name := by
    rw [entry_eq_head distinct, leads]
    rfl
  have filed : ∀ made ∈ Outline.stepsOfList outlines none,
      (ofOutlines name description outlines).step? made.name = some made ∧ made.Lasts := by
    intro made member
    have here : (ofOutlines name description outlines).step? made.name = some made :=
      (step?_ofOutlines distinct).2 ⟨member, rfl⟩
    exact ⟨here, lasts _ _ here⟩
  -- nothing comes after the last step, and the first one is the entry
  have connected := Outline.connected_stepsOfList filed silent nofun fun other head => by
    obtain rfl := Option.some.inj (head.symm.trans leads)
    rw [← entry]
    exact .refl _
  have onto : ∀ step ∈ (ofOutlines name description outlines).steps.values,
      ∀ target ∈ targets step, (ofOutlines name description outlines).contains target = true := by
    intro step member
    obtain ⟨filed, entry, rfl⟩ := List.mem_map.1 member
    rw [entries_ofOutlines name description distinct] at entry
    obtain ⟨made, among, rfl⟩ := List.mem_map.1 entry
    exact (connected made among).2
  have reached : ∀ filed, (ofOutlines name description outlines).contains filed = true →
      (ofOutlines name description outlines).Reaches
        (ofOutlines name description outlines).entry filed := by
    intro filed known
    obtain ⟨step, some⟩ := contains_iff_step?.1 known
    obtain ⟨member, rfl⟩ := (step?_ofOutlines distinct).1 some
    exact (connected step member).1
  have entered := Outline.contains_of_head? filed leads
  rw [← entry] at named entered
  exact ⟨entry, onto, reached, check_of_connected named onto entered reached⟩

/-- A loop over a branch around a step, and over an assertion. -/
def nestedLoop : Outline :=
  .mk "l" [("children", .arr [.obj branch.body, .obj check.body]), ("iterate", .str "xs"),
    ("name", .str "l")] [branch, check]
where
  branch : Outline :=
    .mk "b" [("branch", .bool true), ("children", .arr [.str "c"]), ("if", .str "on"),
      ("name", .str "b")] [.mk "c" [] []]
  check : Outline := .mk "k" [("assert", .str "c == 1"), ("name", .str "k")] []

/-- The body of the branch leads to the assertion, which leads back to the loop. -/
theorem check_of_silent_nestedLoop :
    ∃ flow, ofValue (.obj [("steps", .arr [.obj nestedLoop.body])]) = .ok flow ∧
      flow.Reaches "l" "k" ∧
      ∀ d ∈ flow.check, d.finding ≠ .unreachable ∧ ∀ target, d.finding ≠ .missingTarget target := by
  have compiled : ofValue (.obj [("steps", .arr [.obj nestedLoop.body])]) =
      .ok (ofOutlines "unnamed flow" "" [nestedLoop]) := by cbv
  have declared : Outline.ofDocument? (.obj [("steps", .arr [.obj nestedLoop.body])]) =
      some [nestedLoop] := by cbv
  have silent : ∀ o ∈ Outline.declaredOfList [nestedLoop], o.Silent := by
    have listed : Outline.declaredOfList [nestedLoop] =
      [nestedLoop, nestedLoop.branch, .mk "c" [] [], nestedLoop.check] := rfl
    rw [listed]
    decide
  have kinds : ∀ step ∈ (ofOutlines "unnamed flow" "" [nestedLoop]).steps.values, step.Lasts := by
    decide
  obtain ⟨entry, -, reached, -, clean⟩ := check_of_silent compiled declared rfl (by decide) silent
    fun _ step filed => kinds step (mem_values_of_step? filed)
  rw [entry] at reached
  exact ⟨_, compiled, reached "k" (by cbv), clean⟩

end Flow

end Runbook
