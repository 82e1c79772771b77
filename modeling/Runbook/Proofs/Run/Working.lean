import Runbook.Proofs.Run.Guarded

/-!
# Working loops

A step may be a loop by what is written in it and yet not loop.  Its kind comes from one set of
keys, the list that it runs over from the key `iterate`, and its body from the children; the checks
look at steps with an expression only.  So there are three forms of a step that is compiled as a
loop, and only the first of them works.

## Main definitions

* `Step.WorksAsLoop`: a header that leads into a body first and then out
* `Outline.LoopForm`: what becomes of a declared step of kind loop

## Main statements

* `Outline.isLoopHeader_step_iff`: headers are made of loops with a body and a usable expression
* `Outline.route_step_of_endless`: without the expression a run never leaves such a body
* `Flow.loopForm_of_ofValue`: what the steps of kind loop in the flow of a document are
* `Flow.accepted_idleLoops`: loops that do not work, and that are accepted all the same

## Design notes

The checks call a header with a single transition a loop without body steps.  The compiler gives
each header a transition into its body, so what such a loop lacks is the way out; and a loop that
has no body is no header, so that the checks have nothing to say about it.
-/

namespace Runbook

/-- The step works as a loop with this body: it has an expression for the list, it leads to the
first step of the body, and then out of the loop. -/
structure Step.WorksAsLoop (step : Step) (flow : Flow) (body : List Outline) : Prop where
  /-- It is a loop header. -/
  header : step.config.isLoopHeader = true
  /-- It leads into the body first, and then out, and both ways lead to steps of the flow. -/
  ways : ∃ child exit, body.head? = some child ∧
    step.transitions = [.plain child.name, .plain exit] ∧
    flow.contains child.name = true ∧ flow.contains exit = true

/-- The value under the key is a text, a number or a boolean, and neither empty, zero nor false. -/
theorem Keyword.isSome_firstText?_iff {body : Json.Object} {key : String} :
    (Keyword.firstText? body [key]).isSome = true ↔
      ∃ value, Fields.get? body key = some value ∧ value.truthy = true ∧
        value.isScalar = true := by
  rw [Keyword.firstText?, List.findSome?_cons, List.findSome?_nil]
  cases Fields.get? body key with
  | none => simp
  | some value =>
    have usable : Keyword.scalarText? value = none ↔ _ := Keyword.scalarText?_eq_none_iff
    cases text : Keyword.scalarText? value with
    | none =>
      rcases usable.1 text with untrue | compound
      · simp [text, untrue]
      · simp [text, compound]
    | some written =>
      have := mt usable.2 (by simp [text])
      simpa [text] using this

namespace Outline

/-! ## Headers -/

/-- The wiring of a loop with a body. -/
theorem wiring_loop {o child : Outline} {next : Option String}
    (kind : StepKind.infer o.body = .loop) (first : o.children.head? = some child) :
    o.wiring next =
      { iterate := Keyword.firstText? o.body ["iterate"]
        transitions := .plain child.name :: Transition.toNext next
        children := some (some o.name) } := by
  rw [wiring, kind, first]
  rfl

/-- The wiring of a loop without one is that of a task. -/
theorem wiring_bodiless {o : Outline} {next : Option String}
    (kind : StepKind.infer o.body = .loop) (bodiless : o.children = []) :
    o.wiring next = .plain .task o.body next := by
  rw [wiring, kind, bodiless]
  rfl

/-- **Headers are made of loops with a body and a usable expression**, and of nothing else. -/
theorem isLoopHeader_step_iff {o : Outline} {next : Option String} :
    (o.step next).config.isLoopHeader = true ↔
      StepKind.infer o.body = .loop ∧ o.children ≠ [] ∧
        (Keyword.firstText? o.body ["iterate"]).isSome = true := by
  show (o.wiring next).iterate.isSome = true ↔ _
  by_cases kind : StepKind.infer o.body = .loop
  · cases first : o.children.head? with
    | none =>
      have bodiless := List.head?_eq_none_iff.1 first
      rw [wiring_bodiless kind bodiless, iterate_plain]
      simp [bodiless]
    | some child =>
      have body : o.children ≠ [] := by
        rintro empty
        rw [empty] at first
        cases first
      rw [wiring_loop kind first]
      simp [kind, body]
  · rcases wiring_cases o next with same | ⟨child, -, loop, -⟩ | ⟨child, -, -, same⟩
    · simp [same, iterate_plain, kind]
    · exact absurd loop kind
    · simp [same, kind]

/-- **Without the expression a run never leaves the body.**  The step is no header, and both its
transitions are unguarded ones, so that a run always takes the first of them. -/
theorem route_step_of_endless {o child : Outline} {next : Option String}
    (kind : StepKind.infer o.body = .loop) (first : o.children.head? = some child)
    (hooks : Registry) (state : RunState) :
    (o.step next).route hooks state = .towards child.name := by
  have unguarded : (Transition.plain child.name).isDefault = true := rfl
  have clear : (o.step next).ClearTo hooks state (.plain child.name) := by
    refine ⟨[], Transition.toNext next, ?_, by simp, fun other member guarded => ?_⟩
    · show (o.wiring next).transitions = _
      rw [wiring_loop kind first]
      rfl
    · have onward : other ∈ (next.map Transition.plain).toList := member
      obtain ⟨target, -, rfl⟩ := Transition.exists_of_mem_toList onward
      cases guarded
  exact clear.route unguarded

/-! ## Forms -/

/-- What becomes of a declared step of kind loop. -/
structure LoopForm (o : Outline) (flow : Flow) (step : Step) : Prop where
  /-- It is a header exactly if it has a body and a usable expression. -/
  header : step.config.isLoopHeader = true ↔ o.children ≠ [] ∧
    ∃ value, Fields.get? o.body "iterate" = some value ∧ value.truthy = true ∧
      value.isScalar = true
  /-- A header works, unless the flow has errors. -/
  works : Flow.hasErrors flow.check = false → step.config.isLoopHeader = true →
    step.WorksAsLoop flow o.children
  /-- The checks object to headers only, and for want of a way out. -/
  objected : ∀ finding, ⟨finding, some o.name⟩ ∈ flow.checkLoops ↔
    finding = .loopWithoutBody ∧ step.config.isLoopHeader = true ∧
      ∃ child, o.children.head? = some child ∧ step.transitions = [.plain child.name]
  /-- Without a body it leads where a task would lead. -/
  bodiless : o.children = [] →
    ∃ next, step.transitions = (Wiring.plain .task o.body next).transitions
  /-- Without an expression a run never leaves the body. -/
  endless : step.config.isLoopHeader = false → ∀ child, o.children.head? = some child →
    ∀ hooks state, step.route hooks state = .towards child.name

/-- The transitions of a header: one into the body, and one out if anything follows. -/
theorem transitions_of_header {o : Outline} {next : Option String}
    (header : (o.step next).config.isLoopHeader = true) :
    ∃ child, o.children.head? = some child ∧
      (o.step next).transitions = .plain child.name :: Transition.toNext next := by
  obtain ⟨kind, body, -⟩ := isLoopHeader_step_iff.1 header
  obtain ⟨child, first⟩ := Option.ne_none_iff_exists'.1 (mt List.head?_eq_none_iff.1 body)
  refine ⟨child, first, ?_⟩
  show (o.wiring next).transitions = _
  rw [wiring_loop kind first]

/-- What the checks say of the transitions of a header. -/
theorem loopFinding?_of_header {o : Outline} {next : Option String}
    (header : (o.step next).config.isLoopHeader = true) (finding : Finding) :
    Flow.loopFinding? (o.step next).transitions = some finding ↔
      finding = .loopWithoutBody ∧
        ∃ child, o.children.head? = some child ∧
          (o.step next).transitions = [.plain child.name] := by
  obtain ⟨child, first, ways⟩ := transitions_of_header header
  rw [ways, first]
  cases next with
  | none => simp [Transition.toNext, Flow.loopFinding?, eq_comm]
  | some exit => simp [Transition.toNext, Flow.loopFinding?]

end Outline

namespace Flow

/-- What the checks say of the loop filed under a name. -/
theorem mem_checkLoops_iff {flow : Flow} (named : ∀ {name step}, flow.step? name = some step →
      step.name = name) {name : String} {step : Step} (filed : flow.step? name = some step)
    (finding : Finding) : ⟨finding, some name⟩ ∈ flow.checkLoops ↔
      step.config.isLoopHeader = true ∧ loopFinding? step.transitions = some finding := by
  rw [checkLoops, List.mem_filterMap]
  constructor
  · rintro ⟨other, member, found⟩
    obtain ⟨⟨key, other⟩, inside, rfl⟩ := List.mem_map.1 member
    have other_filed : flow.step? key = some other := (Dict.get?_eq_some_iff _ _ _).2 inside
    split at found
    · rename_i header
      obtain ⟨said, kind, same⟩ := Option.map_eq_some_iff.1 found
      obtain ⟨rfl, about⟩ := Diagnostic.mk.inj same
      -- a name is filed once, so the finding is about this very step
      obtain rfl : key = name := (named other_filed).symm.trans (Option.some.inj about)
      obtain rfl := Option.some.inj (other_filed.symm.trans filed)
      exact ⟨header, kind⟩
    · cases found
  · rintro ⟨header, kind⟩
    refine ⟨step, mem_values_of_step? filed, ?_⟩
    rw [if_pos header, kind, ← named filed]
    rfl

/-- Each step of the flow of a document is made from the only declaration of its name. -/
theorem exists_declared_of_ofValue {document : Json} {flow : Flow}
    (compiled : ofValue document = .ok flow) :
    ∃ outlines, Outline.ofDocument? document = some outlines ∧
      ∀ name step, flow.step? name = some step →
        ∃ o ∈ Outline.declaredOfList outlines, o.name = name ∧
          (∀ other ∈ Outline.declaredOfList outlines, other.name = name → other = o) ∧
          ∃ next, step = o.step next := by
  obtain ⟨outlines, declares, distinct, name, description, rfl⟩ := ofValue_eq_ok compiled
  refine ⟨outlines, declares, fun name step filed => ?_⟩
  obtain ⟨places, -, entries, -, among, only⟩ := exists_places_ofOutlines distinct
  rw [step?, Dict.get?_eq_some_iff, entries, List.mem_map] at filed
  obtain ⟨place, inside, same⟩ := filed
  obtain ⟨rfl, rfl⟩ := Prod.mk.inj same
  exact ⟨place.1, among.subset (List.mem_map_of_mem inside), rfl, only place inside, place.2, rfl⟩

/-- **What the steps of kind loop in the flow of a document are.**  Each of them is made from the
only declaration of its name.  It is a loop header exactly if there is a body and a usable
expression, and then, in a flow without errors, it works.  The checks object to no loop that is
without a body or without a usable expression: the first is a step like any other for a run, and the
second leads into its body and never out. -/
theorem loopForm_of_ofValue {document : Json} {flow : Flow}
    (compiled : ofValue document = .ok flow) :
    ∃ outlines, Outline.ofDocument? document = some outlines ∧
      ∀ name step, flow.step? name = some step →
        ∃ o ∈ Outline.declaredOfList outlines, o.name = name ∧
          (∀ other ∈ Outline.declaredOfList outlines, other.name = name → other = o) ∧
          (step.config.isLoopHeader = true → step.config.kind = .loop) ∧
          (step.config.kind = .loop → o.LoopForm flow step) := by
  have named : ∀ {name step}, flow.step? name = some step → step.name = name := by
    obtain ⟨outlines, -, distinct, _, _, rfl⟩ := ofValue_eq_ok compiled
    exact fun filed => ((step?_ofOutlines distinct).1 filed).2
  obtain ⟨outlines, declares, only⟩ := exists_declared_of_ofValue compiled
  refine ⟨outlines, declares, fun name step filed => ?_⟩
  obtain ⟨o, member, rfl, unique, next, rfl⟩ := only name step filed
  refine ⟨o, member, rfl, unique, fun header => (Outline.isLoopHeader_step_iff.1 header).1,
    fun kind => ?_⟩
  have kind : StepKind.infer o.body = .loop := kind
  refine ⟨?_, fun clean header => ⟨header, ?_⟩, fun finding => ?_, fun bodiless => ?_,
    fun _ child first => Outline.route_step_of_endless kind first⟩
  · rw [Outline.isLoopHeader_step_iff, Keyword.isSome_firstText?_iff]
    exact and_iff_right kind
  · have formed := hasErrors_check_iff.1 clean
    obtain ⟨child, first, ways⟩ := Outline.transitions_of_header header
    have two := formed.loops _ (mem_values_of_step? filed) header
    have known := formed.targets _ (mem_values_of_step? filed)
    cases next with
    | none => simp [ways, Transition.toNext] at two
    | some exit =>
      rw [ways] at known
      exact ⟨child, exit, first, ways, known _ (.head _), known _ (.tail _ (.head _))⟩
  · rw [mem_checkLoops_iff named filed]
    constructor
    · rintro ⟨header, found⟩
      obtain ⟨same, way⟩ := (Outline.loopFinding?_of_header header finding).1 found
      exact ⟨same, header, way⟩
    · rintro ⟨same, header, way⟩
      exact ⟨header, (Outline.loopFinding?_of_header header finding).2 ⟨same, way⟩⟩
  · refine ⟨next, ?_⟩
    show (o.wiring next).transitions = _
    rw [Outline.wiring_bodiless kind bodiless]

/-- In the document of `loopText` the loop has a body and an expression, and it works. -/
theorem loopForm_of_ofValue_loopText :
    ofText loopText = .ok loopFlow ∧ ∃ step o, loopFlow.step? "l" = some step ∧
      o ∈ Outline.declaredOfList loopOutlines ∧ o.name = "l" ∧ o.LoopForm loopFlow step ∧
      step.WorksAsLoop loopFlow o.children := by
  obtain ⟨⟨document, readable, compiled⟩, clean⟩ := compile_eq_ok compile_loopText
  have declared := ofText?_loopText
  rw [Outline.ofText?, readable, Option.bind_some] at declared
  obtain ⟨outlines, declares, forms⟩ := loopForm_of_ofValue compiled
  obtain rfl := Option.some.inj (declares.symm.trans declared)
  have filed : loopFlow.step? "l" = some
      { name := "l", transitions := [.plain "b", .plain "c"]
        config := { kind := .loop, iterate := some "xs" } } := by cbv
  obtain ⟨o, member, same, -, -, form⟩ := forms "l" _ filed
  exact ⟨(compile_eq_ok_iff.1 compile_loopText).1, _, o, filed, member, same, form rfl,
    (form rfl).works clean rfl⟩

/-! ## Loops that do not work -/

/-- A definition with a loop without a body. -/
def bodilessText : String := "steps: [a, \x7bname: l, iterate: xs\x7d, c]"

/-- The flow of `bodilessText`. -/
def bodilessFlow : Flow where
  name := "unnamed flow"
  steps := .ofList [("a", { name := "a", transitions := [.plain "l"] }),
    ("l", { name := "l", transitions := [.plain "c"], config := { kind := .loop } }),
    ("c", { name := "c" })]
  entry := "a"

theorem parse?_bodilessText : Yaml.parse? bodilessText = some (.obj [("steps", .arr [.str "a",
    .obj [("iterate", .str "xs"), ("name", .str "l")], .str "c"])]) := by
  decide +kernel

theorem compile_bodilessText :
    Engine.compile bodilessText = .ok (bodilessFlow, [⟨.deadEnd, some "c"⟩]) :=
  compile_of_document parse?_bodilessText (by cbv) (by cbv) rfl

/-- A definition with a loop without an expression for its list. -/
def endlessText : String := "steps: [a, \x7bname: l, loop: true, children: [b]\x7d, c]"

/-- The step that its loop becomes. -/
def endlessStep : Step where
  name := "l"
  transitions := [.plain "b", .plain "c"]
  config := { kind := .loop, extra := [("loop", .bool true)] }

/-- The flow of `endlessText`. -/
def endlessFlow : Flow where
  name := "unnamed flow"
  steps := .ofList [("a", { name := "a", transitions := [.plain "l"] }),
    ("l", endlessStep),
    ("b", { name := "b", transitions := [.plain "l"] }),
    ("c", { name := "c" })]
  entry := "a"

theorem parse?_endlessText : Yaml.parse? endlessText = some (.obj [("steps", .arr [.str "a",
    .obj [("children", .arr [.str "b"]), ("loop", .bool true), ("name", .str "l")],
    .str "c"])]) := by
  decide +kernel

theorem compile_endlessText :
    Engine.compile endlessText = .ok (endlessFlow, [⟨.deadEnd, some "c"⟩]) :=
  compile_of_document parse?_endlessText (by cbv) (by cbv) rfl

/-- **Loops that do not work are accepted.**  In both definitions the step is compiled as a loop and
is no header.  The first has no body, and a run goes on to the step after it, whatever list there
is.  The second always leads into its body, and the body leads back to it, so that a run never goes
on to the step after it. -/
theorem accepted_idleLoops :
    (Engine.compile bodilessText = .ok (bodilessFlow, [⟨.deadEnd, some "c"⟩]) ∧
      (bodilessFlow.step? "l").map (fun step => (step.config.kind, step.config.isLoopHeader)) =
        some (.loop, false) ∧
      ((Engine.new .empty {}).after [(⟨0⟩, .start bodilessText [("xs", .arr [.int 5, .int 7])]),
        (⟨0⟩, .submit []), (⟨0⟩, .submit [])]).current =
        .ok (some (.initial "unnamed flow" "c"
          [("a", .obj []), ("l", .obj []), ("xs", .arr [.int 5, .int 7])] ⟨0⟩))) ∧
    Engine.compile endlessText = .ok (endlessFlow, [⟨.deadEnd, some "c"⟩]) ∧
      endlessFlow.step? "l" = some endlessStep ∧
      (endlessStep.config.kind = .loop ∧ endlessStep.config.isLoopHeader = false) ∧
      (∀ hooks state, endlessStep.route hooks state = .towards "b") ∧
      endlessFlow.step? "b" = some { name := "b", transitions := [.plain "l"] } := by
  refine ⟨⟨compile_bodilessText, ?_, ?_⟩, compile_endlessText, ?_, ⟨rfl, rfl⟩, ?_, ?_⟩
  · cbv
  · rw [Engine.after_cons,
      Engine.execute_start (Engine.free_of_empty rfl) _ compile_bodilessText]
    cbv
  · cbv
  · exact fun hooks state => rfl
  · cbv

end Flow

end Runbook
