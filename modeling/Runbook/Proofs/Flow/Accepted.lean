import Mathlib
import Runbook.Engine.Basic

/-!
# Accepted flows

A definition is accepted when it compiles and nothing that the checks say against it is an error.
Everything that is said about runs rests on a handful of facts about such flows, and they come from
two places: that a step is filed under its own name and that a gate is nothing else besides come
from the compiler, and that no transition dangles and no loop lacks an exit come from the checks.

## Main definitions

* `Flow.Accepted`: the flow of a definition that can be loaded
* `Flow.WellFormed`: what the checks ask of a flow
* `Flow.Sound`: what is known of an accepted flow
* `Outline.ofDocument?`: the outlines that a document declares

## Main statements

* `Flow.ofValue_eq_ok`: what a document that compiles looks like, and the flow it becomes
* `Flow.hasErrors_check_iff`: the checks find no error in a flow exactly if it is well-formed
* `Flow.Accepted.sound`: an accepted flow is sound
-/

namespace Runbook

namespace Outline

/-- The outlines that a document declares, in the order in which they are written. -/
def ofDocument? (document : Json) : Option (List Outline) :=
  match Keyword.normalize document with
  | .obj root =>
    match Fields.get? root "steps" with
    | some (.arr items) => some (ofValues items)
    | _ => none
  | _ => none

/-- The outlines that a text declares. -/
def ofText? (text : String) : Option (List Outline) := (Yaml.parse? text).bind ofDocument?

theorem nodup_of_repeated_eq_nil {names : List String} (none : repeated names = []) :
    names.Nodup := by
  rw [List.nodup_iff_count]
  intro name
  by_cases member : name ∈ names
  · have := (List.filter_eq_nil_iff.1 none) name (List.mem_eraseDups.2 member)
    simpa using this
  · rw [List.count_eq_zero.2 member]
    exact Nat.zero_le 1

mutual

/-- The steps of an outline have declared names, each at most once and in their order. -/
theorem names_steps_sublist : ∀ (o : Outline) (next : Option String),
    ((steps o next).map Step.name).Sublist (names o)
  | mk name body children, next => by
    rw [steps, names, List.map_cons]
    refine List.Sublist.cons_cons name ?_
    split
    · exact names_stepsOfList_sublist children _
    · exact List.nil_sublist _

theorem names_stepsOfList_sublist : ∀ (outlines : List Outline) (after : Option String),
    ((stepsOfList outlines after).map Step.name).Sublist (namesOfList outlines)
  | [], _ => List.Sublist.refl []
  | o :: rest, after => by
    rw [stepsOfList_cons, namesOfList_cons, List.map_append]
    exact (names_steps_sublist o _).append (names_stepsOfList_sublist rest after)

end

mutual

/-- Every step of an outline is what one of its declarations becomes. -/
theorem exists_of_mem_steps {made : Step} : ∀ {o : Outline} {next : Option String},
    made ∈ steps o next → ∃ (declared : Outline) (after : Option String), made = declared.step after
  | mk name body children, next, member => by
    rw [steps, List.mem_cons] at member
    rcases member with rfl | member
    · exact ⟨_, _, rfl⟩
    · split at member
      · exact exists_of_mem_stepsOfList member
      · exact absurd member List.not_mem_nil

theorem exists_of_mem_stepsOfList {made : Step} :
    ∀ {outlines : List Outline} {after : Option String}, made ∈ stepsOfList outlines after →
      ∃ (declared : Outline) (after : Option String), made = declared.step after
  | [], _, member => absurd member List.not_mem_nil
  | o :: rest, after, member => by
    rw [stepsOfList_cons, List.mem_append] at member
    rcases member with member | member
    · exact exists_of_mem_steps member
    · exact exists_of_mem_stepsOfList member

end

/-- A gate is no loop header and does not end the run. -/
theorem step_gate {o : Outline} {next : Option String} (gate : (o.step next).config.wait = true) :
    (o.step next).config.isLoopHeader = false ∧ (o.step next).config.terminate = false := by
  have kind : StepKind.infer o.body = .wait := by
    simpa [step, StepConfig.ofBody] using gate
  constructor
  · simp only [step, StepConfig.ofBody, StepConfig.isLoopHeader, wiring, kind]
    simp only [Wiring.ofBody, Wiring.plain]
    split <;> rfl
  · simp [step, StepConfig.ofBody, kind]

end Outline

/-- A run goes along a declared transition. -/
theorem Step.mem_targets_of_route {hooks : Registry} {state : RunState} {step : Step}
    {target : String} (towards : step.route hooks state = .towards target) :
    target ∈ Flow.targets step := by
  unfold Step.route at towards
  split at towards
  · rename_i t found
    obtain rfl := Route.towards.inj towards
    exact List.mem_map.2 ⟨t, List.mem_of_find?_eq_some found, rfl⟩
  · split at towards
    · cases towards
    · split at towards
      · rename_i t found
        obtain rfl := Route.towards.inj towards
        exact List.mem_map.2 ⟨t, List.mem_of_find?_eq_some found, rfl⟩
      · split at towards <;> cases towards

namespace Flow

/-! ## Compiled flows -/

/-- The flow of some outlines files the step of each of them under its name. -/
theorem entries_ofOutlines (name description : String) {outlines : List Outline}
    (distinct : (Outline.namesOfList outlines).Nodup) :
    (ofOutlines name description outlines).steps.entries =
      (Outline.stepsOfList outlines none).map fun step => (step.name, step) := by
  refine Dict.entries_ofList ?_
  rw [List.map_map]
  exact distinct.sublist (Outline.names_stepsOfList_sublist outlines none)

theorem step?_ofOutlines {name description : String} {outlines : List Outline}
    (distinct : (Outline.namesOfList outlines).Nodup) {filed : String} {step : Step} :
    (ofOutlines name description outlines).step? filed = some step ↔
      step ∈ Outline.stepsOfList outlines none ∧ step.name = filed := by
  rw [step?, Dict.get?_eq_some_iff, entries_ofOutlines name description distinct, List.mem_map]
  constructor
  · rintro ⟨found, member, same⟩
    obtain ⟨rfl, rfl⟩ := Prod.mk.inj same
    exact ⟨member, rfl⟩
  · rintro ⟨member, rfl⟩
    exact ⟨step, member, rfl⟩

/-- A document that compiles declares outlines with distinct names, and becomes their flow. -/
theorem ofValue_eq_ok {document : Json} {flow : Flow} (compiled : ofValue document = .ok flow) :
    ∃ outlines, Outline.ofDocument? document = some outlines ∧
      (Outline.namesOfList outlines).Nodup ∧
      ∃ name description, flow = ofOutlines name description outlines := by
  unfold ofValue at compiled
  split at compiled
  · rename_i root normal
    split at compiled
    · rename_i items listed
      dsimp only at compiled
      split at compiled
      · rename_i once
        obtain rfl := Except.ok.inj compiled
        refine ⟨Outline.ofValues items, ?_, Outline.nodup_of_repeated_eq_nil once, _, _, rfl⟩
        simp only [Outline.ofDocument?, normal, listed]
      · cases compiled
    · cases compiled
  · cases compiled

/-- A definition can be loaded exactly if it describes a flow in which the checks find no error;
what they find is then what the definition is warned of. -/
theorem compile_eq_ok_iff {text : String} {flow : Flow} {warnings : List Diagnostic} :
    Engine.compile text = .ok (flow, warnings) ↔
      ofText text = .ok flow ∧ hasErrors flow.check = false ∧ warnings = flow.check := by
  unfold Engine.compile
  cases described : ofText text with
  | error fault => exact ⟨nofun, nofun⟩
  | ok found =>
    dsimp only
    split
    · rename_i wrong
      refine ⟨nofun, ?_⟩
      rintro ⟨same, clean, -⟩
      obtain rfl := Except.ok.inj same
      rw [clean] at wrong
      cases wrong
    · rename_i clean
      constructor
      · intro loaded
        obtain ⟨rfl, rfl⟩ := Prod.mk.inj (Except.ok.inj loaded)
        exact ⟨rfl, by simpa using clean, rfl⟩
      · rintro ⟨same, -, rfl⟩
        obtain rfl := Except.ok.inj same
        rfl

/-- So a readable document is, if the checks find no error in its flow. -/
theorem compile_of_document {text : String} {document : Json} {flow : Flow}
    {warnings : List Diagnostic} (readable : Yaml.parse? text = some document)
    (described : ofValue document = .ok flow) (found : flow.check = warnings)
    (clean : hasErrors warnings = false) : Engine.compile text = .ok (flow, warnings) := by
  refine compile_eq_ok_iff.2 ⟨?_, found ▸ clean, found.symm⟩
  rw [ofText, readable]
  exact described

/-- A definition that can be loaded is a readable document that compiles to the flow, and the checks
find no error in it. -/
theorem compile_eq_ok {text : String} {flow : Flow} {warnings : List Diagnostic}
    (loaded : Engine.compile text = .ok (flow, warnings)) :
    (∃ document, Yaml.parse? text = some document ∧ ofValue document = .ok flow) ∧
      hasErrors flow.check = false := by
  obtain ⟨described, clean, -⟩ := compile_eq_ok_iff.1 loaded
  refine ⟨?_, clean⟩
  unfold ofText at described
  split at described
  · rename_i document readable
    exact ⟨document, readable, described⟩
  · cases described

/-- There is a declared transition from the step filed under `a` to `b`. -/
def Edge (flow : Flow) (a b : String) : Prop :=
  ∃ step, flow.step? a = some step ∧ b ∈ targets step

/-- The step filed under the name is a loop header. -/
def IsHeader (flow : Flow) (name : String) : Prop :=
  ∃ step, flow.step? name = some step ∧ step.config.isLoopHeader = true

/-- The flow of a definition that can be loaded. -/
def Accepted (flow : Flow) : Prop :=
  ∃ text warnings, Engine.compile text = .ok (flow, warnings)

/-- What is known of an accepted flow. -/
structure Sound (flow : Flow) : Prop where
  /-- A step is filed under its own name. -/
  filed : ∀ {name step}, flow.step? name = some step → step.name = name
  /-- The first step is one of the flow. -/
  entry : flow.contains flow.entry = true
  /-- No transition dangles. -/
  targets : ∀ {name step}, flow.step? name = some step →
    ∀ t ∈ step.transitions, flow.contains t.target = true
  /-- A loop has a body and an exit. -/
  loops : ∀ {name step}, flow.step? name = some step → step.config.isLoopHeader = true →
    ∃ body exit more, step.transitions = body :: exit :: more
  /-- A gate is no loop header and does not end the run. -/
  gates : ∀ {name step}, flow.step? name = some step → step.config.wait = true →
    step.config.isLoopHeader = false ∧ step.config.terminate = false

theorem contains_iff_step? {flow : Flow} {name : String} :
    flow.contains name = true ↔ ∃ step, flow.step? name = some step :=
  Option.isSome_iff_exists

/-- The step filed under a name is one of the steps that are checked. -/
theorem mem_values_of_step? {flow : Flow} {name : String} {step : Step}
    (filed : flow.step? name = some step) : step ∈ flow.steps.values :=
  List.mem_map.2 ⟨_, (Dict.get?_eq_some_iff _ _ _).1 filed, rfl⟩

/-! ### The checks -/

/-- What the checks ask of a flow.  It has a step; its entry has a name, under which a step is
filed; no transition dangles; and a loop has two transitions at least, into its body and out of
it. -/
structure WellFormed (flow : Flow) : Prop where
  /-- There is a step. -/
  nonempty : flow.steps.isEmpty = false
  /-- The entry has a name. -/
  named : flow.entry ≠ ""
  /-- The first step is one of the flow. -/
  entry : flow.contains flow.entry = true
  /-- No transition dangles. -/
  targets : ∀ step ∈ flow.steps.values, ∀ t ∈ step.transitions, flow.contains t.target = true
  /-- A loop has a body and an exit. -/
  loops : ∀ step ∈ flow.steps.values, step.config.isLoopHeader = true →
    2 ≤ step.transitions.length

theorem isEmpty_of_contains {flow : Flow} {name : String} (known : flow.contains name = true) :
    flow.steps.isEmpty = false := by
  have member := (Dict.contains_iff _ _).1 known
  cases empty : flow.steps.isEmpty with
  | false => rfl
  | true =>
    rw [Dict.keys, show flow.steps.entries = [] from List.isEmpty_iff.1 empty] at member
    cases member

theorem loopFinding?_eq_none_iff {transitions : List Transition} :
    loopFinding? transitions = none ↔ 2 ≤ transitions.length := by
  match transitions with
  | [] => simp [loopFinding?]
  | [_] => simp [loopFinding?]
  | _ :: _ :: _ => simp [loopFinding?]

theorem checkTargets_eq_nil_iff {flow : Flow} : flow.checkTargets = [] ↔
    ∀ step ∈ flow.steps.values, ∀ t ∈ step.transitions, flow.contains t.target = true := by
  rw [checkTargets, List.flatMap_eq_nil_iff]
  refine forall₂_congr fun step _ => ?_
  rw [List.filterMap_eq_nil_iff, targets, List.forall_mem_map]
  refine forall₂_congr fun t _ => ?_
  cases flow.contains t.target <;> simp

theorem checkLoops_eq_nil_iff {flow : Flow} : flow.checkLoops = [] ↔
    ∀ step ∈ flow.steps.values, step.config.isLoopHeader = true →
      2 ≤ step.transitions.length := by
  rw [checkLoops, List.filterMap_eq_nil_iff]
  refine forall₂_congr fun step _ => ?_
  cases step.config.isLoopHeader with
  | false => simp
  | true => simp [loopFinding?_eq_none_iff]

/-- A transition that dangles is an error. -/
theorem isError_of_mem_checkTargets {flow : Flow} {d : Diagnostic}
    (found : d ∈ flow.checkTargets) : d.isError = true := by
  obtain ⟨step, -, found⟩ := List.mem_flatMap.1 found
  obtain ⟨target, -, found⟩ := List.mem_filterMap.1 found
  split at found
  · cases found
  · cases found
    rfl

/-- What is wrong with a loop is that it has no body, or nothing at all. -/
theorem finding_of_mem_checkLoops {flow : Flow} {d : Diagnostic} (found : d ∈ flow.checkLoops) :
    d.finding = .loopWithoutTransitions ∨ d.finding = .loopWithoutBody := by
  obtain ⟨step, -, found⟩ := List.mem_filterMap.1 found
  split at found
  · obtain ⟨finding, kind, rfl⟩ := Option.map_eq_some_iff.1 found
    unfold loopFinding? at kind
    split at kind <;> cases kind
    · exact .inl rfl
    · exact .inr rfl
  · cases found

/-- A loop without a body or an exit is an error. -/
theorem isError_of_mem_checkLoops {flow : Flow} {d : Diagnostic}
    (found : d ∈ flow.checkLoops) : d.isError = true := by
  rcases finding_of_mem_checkLoops found with same | same <;> rw [Diagnostic.isError, same] <;> rfl

/-- A step that is not reached is no error. -/
theorem isError_of_mem_checkReachability {flow : Flow} {d : Diagnostic}
    (found : d ∈ flow.checkReachability) : d.isError = false := by
  obtain ⟨name, -, found⟩ := List.mem_filterMap.1 found
  split at found
  · cases found
  · obtain rfl := Option.some.inj found
    simp [Diagnostic.isError, Finding.level]

/-- What is wrong with a dead end is that it is one. -/
theorem finding_of_mem_checkDeadEnds {flow : Flow} {d : Diagnostic}
    (found : d ∈ flow.checkDeadEnds) : d.finding = .deadEnd := by
  obtain ⟨step, -, found⟩ := List.mem_filterMap.1 found
  split at found
  · cases found
  · rw [← Option.some.inj found]

/-- A dead end is no error. -/
theorem isError_of_mem_checkDeadEnds {flow : Flow} {d : Diagnostic}
    (found : d ∈ flow.checkDeadEnds) : d.isError = false := by
  rw [Diagnostic.isError, finding_of_mem_checkDeadEnds found]
  rfl

/-- Errors are found unless nothing is, and what is no error is not. -/
theorem hasErrors_eq_false_iff {errors : List Diagnostic}
    (bad : ∀ d ∈ errors, d.isError = true) : hasErrors errors = false ↔ errors = [] := by
  rw [hasErrors, List.any_eq_false]
  refine ⟨fun clean => List.eq_nil_iff_forall_not_mem.2 fun d member => ?_, ?_⟩
  · exact clean d member (bad d member)
  · rintro rfl d member
    cases member

/-- **The checks find no error in a flow exactly if it is well-formed.** -/
theorem hasErrors_check_iff {flow : Flow} : hasErrors flow.check = false ↔ flow.WellFormed := by
  unfold check
  split
  · rename_i empty
    refine ⟨nofun, fun formed => ?_⟩
    rw [formed.nonempty] at empty
    cases empty
  split
  · rename_i lost
    refine ⟨nofun, fun formed => ?_⟩
    rcases lost with unnamed | unknown
    · exact absurd unnamed formed.named
    · rw [formed.entry] at unknown
      cases unknown
  · rename_i nonempty entered
    rw [not_or, Bool.not_eq_false] at entered
    have silent : hasErrors flow.checkReachability = false ∧
        hasErrors flow.checkDeadEnds = false := by
      simp only [hasErrors, List.any_eq_false, Bool.not_eq_true]
      exact ⟨fun d => isError_of_mem_checkReachability, fun d => isError_of_mem_checkDeadEnds⟩
    have parts : hasErrors (flow.checkTargets ++ flow.checkReachability ++ flow.checkDeadEnds ++
        flow.checkLoops) = false ↔ flow.checkTargets = [] ∧ flow.checkLoops = [] := by
      rw [← hasErrors_eq_false_iff fun d => isError_of_mem_checkTargets,
        ← hasErrors_eq_false_iff fun d => isError_of_mem_checkLoops]
      unfold hasErrors at silent ⊢
      simp [List.any_append, silent]
    rw [parts, checkTargets_eq_nil_iff, checkLoops_eq_nil_iff]
    exact ⟨fun ⟨targets, loops⟩ => ⟨by simpa using nonempty, entered.1, entered.2, targets, loops⟩,
      fun formed => ⟨formed.targets, formed.loops⟩⟩

/-- **An accepted flow is sound.** -/
theorem Accepted.sound {flow : Flow} (accepted : flow.Accepted) : flow.Sound := by
  obtain ⟨text, warnings, loaded⟩ := accepted
  obtain ⟨⟨document, -, compiled⟩, clean⟩ := compile_eq_ok loaded
  obtain ⟨outlines, -, distinct, name, description, rfl⟩ := ofValue_eq_ok compiled
  have formed := hasErrors_check_iff.1 clean
  refine ⟨fun filed => ((step?_ofOutlines distinct).1 filed).2, formed.entry,
    fun filed => formed.targets _ (mem_values_of_step? filed), @fun _ step filed header => ?_,
    fun filed gate => ?_⟩
  · have two := formed.loops step (mem_values_of_step? filed) header
    match transitions : step.transitions with
    | body :: exit :: more => exact ⟨body, exit, more, rfl⟩
    | [] | [_] => simp [transitions] at two
  · obtain ⟨o, after, rfl⟩ :=
      Outline.exists_of_mem_stepsOfList ((step?_ofOutlines distinct).1 filed).1
    exact Outline.step_gate gate

/-! ## Two small flows -/

/-- A definition of two steps. -/
def pairText : String := "steps: [a, b]"

/-- Its flow. -/
def pairFlow : Flow where
  name := "unnamed flow"
  steps := .ofList [("a", { name := "a", transitions := [.plain "b"] }), ("b", { name := "b" })]
  entry := "a"

theorem parse?_pairText :
    Yaml.parse? pairText = some (.obj [("steps", .arr [.str "a", .str "b"])]) := by
  decide +kernel

theorem compile_pairText : Engine.compile pairText = .ok (pairFlow, [⟨.deadEnd, some "b"⟩]) :=
  compile_of_document parse?_pairText (by cbv) (by cbv) rfl

/-- The flow of `gateText`. -/
def gateFlow : Flow where
  name := "unnamed flow"
  steps := .ofList [("a", { name := "a", transitions := [.plain "g"] }),
    ("g", { name := "g", config := { kind := .wait, wait := true } })]
  entry := "a"

end Flow

end Runbook
