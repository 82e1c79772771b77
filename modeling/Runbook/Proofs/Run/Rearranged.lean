import Runbook.Proofs.Engine.Session
import Runbook.Proofs.Flow.Reachable

/-!
# Where defaults are written

Among the transitions of a plain step the guarded ones come first, wherever they are written, and
the unguarded ones last.  So it makes no difference how the two kinds are mixed, as long as the order
of each is kept.  At a loop header it does: there the first transition leads into the body.

Five places look at the transitions of a step: the search for a guard that holds, the decisions that
are pending, the search for a default, the question whether there is any transition, and the question
whether the run goes on by itself.  This module shows that none of them can tell two arrangements
apart, and from there that two runs cannot either, whatever happens to them.

## Main definitions

* `Step.Rearranged`, `Flow.Rearranged`: the same but for the places of unguarded transitions
* `Flow.TextsAlike`: two definitions of such flows
* `Command.Alike`, `Event.Alike`: the same but for such definitions
* `Engine.Alike`: the same but for such a flow

## Main statements

* `Step.Rearranged.route_eq`: rearranged steps lead to the same steps
* `Track.arrive_rearranged`, `Track.follow_rearranged`: journeys through rearranged flows are the same
* `Engine.execute_alike`: so is what operations do
* `Flow.Rearranged.check_eq`: rearranged flows that are accepted get the same warnings
* `Engine.sessions_alike`: sessions with rearranged flows cannot be told apart

## Design notes

Journeys, writes and answers are not merely alike but equal, as none of them mentions transitions.
Only the flow that an operation binds, and so the flow that is loaded, is another one.  That is why
there is a relation for engines and plans, and none for stores, journeys or outcomes.
-/

namespace Runbook

/-! ## Steps and flows -/

namespace Step

/-- The steps are the same, but the unguarded transitions may stand elsewhere among the guarded ones.
A loop header is not rearranged at all. -/
structure Rearranged (step other : Step) : Prop where
  name : other.name = step.name
  config : other.config = step.config
  guarded : other.transitions.filter (fun t => !t.isDefault) =
    step.transitions.filter fun t => !t.isDefault
  defaults : other.transitions.filter Transition.isDefault =
    step.transitions.filter Transition.isDefault
  header : step.config.isLoopHeader = true → other.transitions = step.transitions

variable {step other : Step}

theorem Rearranged.refl (step : Step) : step.Rearranged step := ⟨rfl, rfl, rfl, rfl, fun _ => rfl⟩

theorem Rearranged.symm (alike : step.Rearranged other) : other.Rearranged step where
  name := alike.name.symm
  config := alike.config.symm
  guarded := alike.guarded.symm
  defaults := alike.defaults.symm
  header header := (alike.header (alike.config ▸ header)).symm

/-- A loop header is the same. -/
theorem Rearranged.eq_of_header (alike : step.Rearranged other)
    (header : step.config.isLoopHeader = true) : other = step := by
  obtain ⟨name, transitions, config⟩ := step
  obtain ⟨name', transitions', config'⟩ := other
  obtain ⟨rfl, rfl, -, -, same⟩ := alike
  obtain rfl := same header
  rfl

/-- Only guards can hold. -/
theorem find?_fires (hooks : Registry) (state : RunState) (transitions : List Transition) :
    (transitions.filter fun t => !t.isDefault).find? (Transition.fires hooks state) =
      transitions.find? (Transition.fires hooks state) := by
  rw [List.find?_filter]
  refine congrArg (List.find? · transitions) (funext fun t => ?_)
  obtain ⟨target, condition⟩ := t
  cases condition <;> simp [Transition.isDefault, Transition.fires]

/-- Only guards can be left to someone outside. -/
theorem pending_guarded (transitions : List Transition) :
    Decision.pending (transitions.filter fun t => !t.isDefault) = Decision.pending transitions := by
  rw [Decision.pending, List.filterMap_filter]
  refine congrArg (List.filterMap · transitions) (funext fun t => ?_)
  obtain ⟨target, condition⟩ := t
  cases condition <;> rfl

theorem find?_default (transitions : List Transition) :
    (transitions.filter Transition.isDefault).find? Transition.isDefault =
      transitions.find? Transition.isDefault := by
  rw [List.find?_filter]
  exact congrArg (List.find? · transitions) (funext fun t => by simp)

theorem isEmpty_transitions (transitions : List Transition) :
    ((transitions.filter fun t => !t.isDefault).isEmpty &&
      (transitions.filter Transition.isDefault).isEmpty) = transitions.isEmpty := by
  cases transitions with
  | nil => rfl
  | cons t rest => cases default : t.isDefault <;> simp [default]

namespace Rearranged

theorem pending_eq (alike : step.Rearranged other) :
    Decision.pending other.transitions = Decision.pending step.transitions := by
  rw [← pending_guarded, alike.guarded, pending_guarded]

theorem isEmpty_eq (alike : step.Rearranged other) :
    other.transitions.isEmpty = step.transitions.isEmpty := by
  rw [← isEmpty_transitions, alike.guarded, alike.defaults, isEmpty_transitions]

/-- **Rearranged steps lead to the same steps.** -/
theorem route_eq (alike : step.Rearranged other) (hooks : Registry) (state : RunState) :
    other.route hooks state = step.route hooks state := by
  have fires : other.transitions.find? (Transition.fires hooks state) =
      step.transitions.find? (Transition.fires hooks state) := by
    rw [← find?_fires, alike.guarded, find?_fires]
  have default : other.transitions.find? Transition.isDefault =
      step.transitions.find? Transition.isDefault := by
    rw [← find?_default, alike.defaults, find?_default]
  unfold route
  rw [fires, alike.pending_eq, default, alike.isEmpty_eq]

theorem advances_eq (alike : step.Rearranged other) : other.advances = step.advances := by
  unfold advances
  rw [alike.config, alike.pending_eq]

theorem mem_transitions (alike : step.Rearranged other) (t : Transition) :
    t ∈ other.transitions ↔ t ∈ step.transitions := by
  have split (transitions : List Transition) : t ∈ transitions ↔
      t ∈ transitions.filter (fun t => !t.isDefault) ∨
        t ∈ transitions.filter Transition.isDefault := by
    cases default : t.isDefault <;> simp [default]
  rw [split, alike.guarded, alike.defaults, ← split]

end Rearranged

/-- **A default is taken after everything else**, wherever it is written.  The run leaves a step along
a transition whose guard holds, or no guard holds and none is left to someone outside, and it goes
along the first default. -/
theorem towards_cases (step : Step) (hooks : Registry) (state : RunState) {target : String}
    (towards : step.route hooks state = .towards target) :
    (∃ t ∈ step.transitions, t.fires hooks state = true ∧ t.target = target) ∨
      (∀ t ∈ step.transitions, t.fires hooks state = false ∧ t.decision? = none) ∧
        (step.transitions.find? Transition.isDefault).map Transition.target = some target := by
  unfold route at towards
  split at towards
  · rename_i t found
    exact .inl ⟨t, List.mem_of_find?_eq_some found, List.find?_some found,
      Route.towards.inj towards⟩
  · rename_i none
    split at towards
    · cases towards
    · rename_i settled
      rw [List.find?_eq_none] at none
      rw [Decision.pending, List.filterMap_eq_nil_iff] at settled
      refine .inr ⟨fun t member => ⟨by simpa using none t member, settled t member⟩, ?_⟩
      split at towards
      · rename_i t found
        rw [found, ← Route.towards.inj towards]
        rfl
      · split at towards <;> cases towards

end Step

namespace Flow

/-- The flows are the same, but for rearranged steps. -/
structure Rearranged (flow other : Flow) : Prop where
  name : other.name = flow.name
  description : other.description = flow.description
  entry : other.entry = flow.entry
  steps : List.Forall₂ (fun filed filed' => filed.1 = filed'.1 ∧ filed.2.Rearranged filed'.2)
    flow.steps.entries other.steps.entries

namespace Rearranged

variable {flow other : Flow}

theorem refl (flow : Flow) : flow.Rearranged flow where
  name := rfl
  description := rfl
  entry := rfl
  steps := List.forall₂_same.2 fun filed _ => ⟨rfl, .refl filed.2⟩

theorem symm (alike : flow.Rearranged other) : other.Rearranged flow where
  name := alike.name.symm
  description := alike.description.symm
  entry := alike.entry.symm
  steps := alike.steps.flip.imp fun _ _ same => ⟨same.1.symm, same.2.symm⟩

theorem stepNames_eq (alike : flow.Rearranged other) : other.stepNames = flow.stepNames := by
  obtain ⟨-, -, -, steps⟩ := alike
  unfold stepNames Dict.keys
  generalize flow.steps.entries = entries at steps ⊢
  generalize other.steps.entries = entries' at steps ⊢
  induction steps with
  | nil => rfl
  | cons filed _ ih => rw [List.map_cons, List.map_cons, filed.1, ih]

/-- Under each name both flows have a step, or neither has. -/
theorem step?_rel (alike : flow.Rearranged other) (name : String) :
    Option.Rel Step.Rearranged (flow.step? name) (other.step? name) := by
  obtain ⟨-, -, -, steps⟩ := alike
  unfold step? Dict.get?
  generalize flow.steps.entries = entries at steps ⊢
  generalize other.steps.entries = entries' at steps ⊢
  induction steps with
  | nil => exact .none
  | @cons first second _ _ filed _ ih =>
    obtain ⟨key, step⟩ := first
    obtain ⟨key', step'⟩ := second
    obtain ⟨rfl, same⟩ := filed
    unfold Dict.find?
    split
    · exact .some same
    · exact ih

theorem contains_eq (alike : flow.Rearranged other) (name : String) :
    other.contains name = flow.contains name := by
  have found := alike.step?_rel name
  unfold contains Dict.contains
  show (other.step? name).isSome = (flow.step? name).isSome
  generalize flow.step? name = step at found
  generalize other.step? name = step' at found
  cases found <;> rfl

/-- A run is shown the same, whichever of the two it follows. -/
theorem build_eq (alike : flow.Rearranged other) (state : RunState) (last : Option HistoryEntry)
    (hook : Option Hook) (now : Instant) :
    Report.build other state last hook now = Report.build flow state last hook now := by
  have size : other.steps.size = flow.steps.size := by
    have names := congrArg List.length alike.stepNames_eq
    unfold stepNames Dict.keys at names
    rwa [List.length_map, List.length_map] at names
  have pending : (other.step? state.currentStep).map (fun s => Decision.pending s.transitions) =
      (flow.step? state.currentStep).map fun s => Decision.pending s.transitions := by
    have found := alike.step?_rel state.currentStep
    generalize flow.step? state.currentStep = here at found ⊢
    generalize other.step? state.currentStep = here' at found ⊢
    cases found with
    | none => rfl
    | some same => exact congrArg some same.pending_eq
  unfold Report.build Report.summarize
  rw [alike.name, size, pending]

/-- The two flows have the same paths. -/
theorem reaches (alike : flow.Rearranged other) {a b : String} (path : flow.Reaches a b) :
    other.Reaches a b := by
  induction path with
  | refl => exact .refl _
  | @tail b c step path filed leads ih =>
    have found := alike.step?_rel b
    rw [filed] at found
    generalize here : other.step? b = step' at found
    cases found with
    | some same =>
      refine .tail ih here ?_
      obtain ⟨t, member, rfl⟩ := List.mem_map.1 leads
      exact List.mem_map_of_mem ((same.mem_transitions t).2 member)

end Rearranged

/-! ## Warnings -/

/-- What an accepted flow is warned about: steps that no path leads to, and steps that lead
nowhere. -/
theorem Accepted.check_eq {flow : Flow} (accepted : flow.Accepted) :
    flow.check = flow.checkReachability ++ flow.checkDeadEnds := by
  obtain ⟨text, warnings, loaded⟩ := accepted
  obtain ⟨-, clean, -⟩ := compile_eq_ok_iff.1 loaded
  have formed := hasErrors_check_iff.1 clean
  rw [check_of_entry formed.named formed.entry, checkTargets_eq_nil_iff.2 formed.targets,
    checkLoops_eq_nil_iff.2 formed.loops, List.nil_append, List.append_nil]

/-- **Rearranged flows that are accepted get the same warnings.** -/
theorem Rearranged.check_eq {flow other : Flow} (alike : flow.Rearranged other)
    (accepted : flow.Accepted) (accepted' : other.Accepted) : other.check = flow.check := by
  have reachable (name : String) (filed : name ∈ flow.stepNames) :
      other.reachable.contains name = flow.reachable.contains name := by
    rw [Bool.eq_iff_iff, List.contains_iff_mem, List.contains_iff_mem, mem_reachable_iff,
      mem_reachable_iff, alike.contains_eq, alike.entry]
    exact and_congr_right fun _ => ⟨alike.symm.reaches, alike.reaches⟩
  have unreachable : other.checkReachability = flow.checkReachability := by
    unfold checkReachability
    rw [alike.stepNames_eq]
    exact List.filterMap_congr fun name filed => by rw [reachable name filed]
  have deadEnds : other.checkDeadEnds = flow.checkDeadEnds := by
    obtain ⟨-, -, -, steps⟩ := alike
    unfold checkDeadEnds Dict.values
    generalize flow.steps.entries = entries at steps ⊢
    generalize other.steps.entries = entries' at steps ⊢
    induction steps with
    | nil => rfl
    | cons filed _ ih =>
      rw [List.map_cons, List.map_cons, List.filterMap_cons, List.filterMap_cons, ih,
        filed.2.config, filed.2.isEmpty_eq, filed.2.name]
  rw [accepted.check_eq, accepted'.check_eq, unreachable, deadEnds]

/-- Two definitions become rearranged flows, or both fail for the same reason. -/
inductive CompiledAlike : Except RunFault (Flow × List Diagnostic) →
    Except RunFault (Flow × List Diagnostic) → Prop where
  | fault (fault : RunFault) : CompiledAlike (.error fault) (.error fault)
  | flow {flow other : Flow} {warnings warnings' : List Diagnostic} (same : flow.Rearranged other) :
      CompiledAlike (.ok (flow, warnings)) (.ok (other, warnings'))

/-- Two definitions of rearranged flows. -/
def TextsAlike (text other : String) : Prop :=
  CompiledAlike (Engine.compile text) (Engine.compile other)

theorem TextsAlike.refl (text : String) : TextsAlike text text := by
  unfold TextsAlike
  cases Engine.compile text with
  | error fault => exact .fault fault
  | ok compiled => exact .flow (.refl compiled.1)

/-- Such definitions get the same warnings. -/
theorem TextsAlike.warnings_eq {text other : String} (texts : TextsAlike text other) :
    Prod.snd <$> Engine.compile other = Prod.snd <$> Engine.compile text := by
  unfold TextsAlike at texts
  generalize compiled : Engine.compile text = result at texts ⊢
  generalize compiled' : Engine.compile other = result' at texts ⊢
  cases texts with
  | fault fault => rfl
  | flow same =>
    obtain ⟨-, -, rfl⟩ := compile_eq_ok_iff.1 compiled
    obtain ⟨-, -, rfl⟩ := compile_eq_ok_iff.1 compiled'
    exact congrArg Except.ok (same.check_eq ⟨_, _, compiled⟩ ⟨_, _, compiled'⟩)

end Flow

/-! ## Journeys -/

namespace Track

/-- The track through another flow. -/
def onto (track : Track) (flow : Flow) : Track := { track with flow }

variable {other : Flow}

theorem leave_rearranged (track : Track) {step step' : Step} (alike : step.Rearranged step')
    (go : RunState → String → Journey) (state : RunState) :
    (track.onto other).leave go state step' = track.leave go state step := by
  unfold leave
  rw [alike.route_eq, alike.name]
  rfl

/-- **Journeys through rearranged flows are the same.** -/
theorem arrive_rearranged (track : Track) (alike : track.flow.Rearranged other) (budget : Nat)
    (state : RunState) (target : String) (recorded : Bool) :
    (track.onto other).arrive budget state target recorded =
      track.arrive budget state target recorded := by
  induction budget generalizing state target recorded with
  | zero => rfl
  | succ budget ih =>
    have onward : (fun state target => (track.onto other).arrive budget state target true) =
        fun state target => track.arrive budget state target true :=
      funext fun state => funext fun target => ih state target true
    rw [arrive, arrive, onward]
    have found : Option.Rel Step.Rearranged (track.flow.step? target)
        ((track.onto other).flow.step? target) := alike.step?_rel target
    generalize track.flow.step? target = here at found ⊢
    generalize (track.onto other).flow.step? target = here' at found ⊢
    cases found with
    | none => rfl
    | @some step step' same =>
      dsimp only
      rw [same.config]
      split
      · rename_i header
        rw [same.eq_of_header header]
      split
      · rw [same.name, atEnd, same.name]
        rfl
      · have at_ : atStep step' state = atStep step state := by
          rw [atStep, same.name, same.config]
          rfl
        rw [at_, same.name, same.advances_eq, leave_rearranged track same]

/-- **So are those that start with leaving a step.** -/
theorem follow_rearranged (track : Track) (alike : track.flow.Rearranged other)
    {step step' : Step} (same : step.Rearranged step') (state : RunState) :
    (track.onto other).follow state step' = track.follow state step := by
  have onward (budget : Nat) :
      (fun state target => (track.onto other).arrive budget state target true) =
        fun state target => track.arrive budget state target true :=
    funext fun state => funext fun target =>
        track.arrive_rearranged alike budget state target true
  unfold follow enter
  rw [same.config]
  split
  · rename_i header
    rw [same.eq_of_header header]
    exact congrArg (passThrough · state step) (onward track.limit)
  · rw [leave_rearranged track same]
    exact congrArg (track.leave · state step) (onward track.budget)

theorem onward_rearranged (track : Track) (alike : track.flow.Rearranged other)
    {step step' : Step} (same : step.Rearranged step') (state : RunState) (choice : Option String) :
    Engine.onward (track.onto other) state step' choice =
      Engine.onward track state step choice := by
  cases choice with
  | none => exact track.follow_rearranged alike same state
  | some target => exact track.arrive_rearranged alike track.budget state target true

end Track

/-! ## Operations -/

/-- The commands are the same, but for the definition of a run that begins. -/
inductive Command.Alike : Command → Command → Prop where
  | start {text other : String} (texts : Flow.TextsAlike text other) (data : Json.Object) :
      Alike (.start text data) (.start other data)
  | same (command : Command) : Alike command command

namespace Plan

/-- The plans are the same, but for the flow that is bound. -/
structure Alike (plan other : Plan) : Prop where
  binds : Option.Rel Flow.Rearranged plan.binds other.binds
  writes : other.writes = plan.writes
  outcome : other.outcome = plan.outcome

theorem Alike.refl (plan : Plan) : plan.Alike plan where
  binds := by
    cases plan.binds with
    | none => exact .none
    | some flow => exact .some (.refl flow)
  writes := rfl
  outcome := rfl

end Plan

namespace Engine

/-- The engine with another flow loaded, or none. -/
def bindTo (e : Engine) (flow : Option Flow) : Engine := { e with flow }

@[simp] theorem flow_bindTo (e : Engine) (flow : Option Flow) : (e.bindTo flow).flow = flow := rfl

@[simp] theorem hooks_bindTo (e : Engine) (flow : Option Flow) : (e.bindTo flow).hooks = e.hooks :=
  rfl

/-- The engines are the same, but for a rearranged flow that is loaded. -/
def Alike (e other : Engine) : Prop :=
  ∃ flow, Option.Rel Flow.Rearranged e.flow flow ∧ other = e.bindTo flow

/-- Two decisions with the same fault, or plans that are alike. -/
inductive Agree : Except RunFault Plan → Except RunFault Plan → Prop where
  | fault (fault : RunFault) : Agree (.error fault) (.error fault)
  | plan {plan other : Plan} (alike : plan.Alike other) : Agree (.ok plan) (.ok other)

theorem Agree.refl (decision : Except RunFault Plan) : Agree decision decision := by
  cases decision with
  | error fault => exact .fault fault
  | ok plan => exact .plan (.refl plan)

variable {e : Engine} {other : Option Flow}

/-- The flow of a run is loaded in both engines, or it is missed in both for the same reason. -/
theorem flowOf_alike (alike : Option.Rel Flow.Rearranged e.flow other) (state : RunState) :
    (∃ why, e.flowOf state = .error why ∧ (e.bindTo other).flowOf state = .error why) ∨
      ∃ flow flow', e.flowOf state = .ok flow ∧ (e.bindTo other).flowOf state = .ok flow' ∧
        flow.Rearranged flow' := by
  unfold flowOf
  rw [flow_bindTo]
  generalize e.flow = loaded at alike ⊢
  cases alike with
  | none => exact .inl ⟨_, rfl, rfl⟩
  | @some flow flow' same =>
    dsimp only
    rw [same.name]
    split
    · exact .inr ⟨flow, flow', rfl, rfl, same⟩
    · exact .inl ⟨_, rfl, rfl⟩

theorem onFlow_alike (alike : Option.Rel Flow.Rearranged e.flow other) (state : RunState)
    {decide decide' : Flow → Plan}
    (decides : ∀ flow flow', flow.Rearranged flow' → (decide flow).Alike (decide' flow')) :
    (e.onFlow state decide).Alike ((e.bindTo other).onFlow state decide') := by
  unfold onFlow
  rcases flowOf_alike alike state with ⟨why, missed, missed'⟩ | ⟨flow, flow', found, found', same⟩
  · rw [missed, missed']
    exact .refl _
  · rw [found, found']
    exact decides flow flow' same

/-- A plan that records an output. -/
theorem planOutput_alike (alike : Option.Rel Flow.Rearranged e.flow other) (state : RunState)
    (payload : Json.Object) (approving : Bool) :
    (e.planOutput state payload approving).Alike
      ((e.bindTo other).planOutput state payload approving) := by
  refine onFlow_alike alike state fun flow flow' same => ?_
  have found := same.step?_rel state.currentStep
  generalize flow.step? state.currentStep = here at found ⊢
  generalize flow'.step? state.currentStep = here' at found ⊢
  cases found with
  | none => exact .refl _
  | @some step step' kept =>
    have onward (next : RunState) (choice : Option String) :
        Engine.onward ((e.bindTo other).track flow') next step' choice =
          Engine.onward (e.track flow) next step choice :=
      (e.track flow).onward_rearranged same kept next choice
    simp only [same.contains_eq, same.stepNames_eq, onward, hooks_bindTo, kept.name, withOutput,
      output, approval]
    exact .refl _

/-- A plan that skips a step. -/
theorem planSkip_alike (alike : Option.Rel Flow.Rearranged e.flow other)
    (reason : Option String) (state : RunState) :
    (e.planSkip reason state).Alike ((e.bindTo other).planSkip reason state) := by
  have leaves (flow flow' : Flow) (same : flow.Rearranged flow') (next : RunState)
      {step step' : Step} (kept : step.Rearranged step') :
      ((e.bindTo other).track flow').follow next step' = (e.track flow).follow next step :=
    (e.track flow).follow_rearranged same kept next
  unfold planSkip
  split
  · exact .refl _
  · exact .refl _
  all_goals
    refine onFlow_alike alike state fun flow flow' same => ?_
    have found := same.step?_rel state.currentStep
    generalize flow.step? state.currentStep = here at found ⊢
    generalize flow'.step? state.currentStep = here' at found ⊢
    cases found with
    | none => exact .refl _
    | @some step step' kept =>
      dsimp only
      rw [leaves flow flow' same _ kept, kept.name]
      exact .refl _

/-- A plan that puts the run to a step. -/
theorem planGoto_alike (alike : Option.Rel Flow.Rearranged e.flow other) (target : String)
    (state : RunState) :
    (e.planGoto target state).Alike ((e.bindTo other).planGoto target state) := by
  refine onFlow_alike alike state fun flow flow' same => ?_
  rw [same.contains_eq, same.stepNames_eq]
  exact .refl _

/-- A plan that resumes the run. -/
theorem planResume_alike (alike : Option.Rel Flow.Rearranged e.flow other) (state : RunState) :
    (e.planResume state).Alike ((e.bindTo other).planResume state) := by
  unfold planResume
  split
  · refine onFlow_alike alike state fun flow flow' same => ?_
    have gated : isGated flow' state = isGated flow state := by
      unfold isGated
      have found := same.step?_rel state.currentStep
      generalize flow.step? state.currentStep = here at found ⊢
      generalize flow'.step? state.currentStep = here' at found ⊢
      cases found with
      | none => rfl
      | some kept => exact congrArg StepConfig.wait kept.config
    rw [gated]
    exact .refl _
  · exact .refl _

/-- The runs can go back to the same entries. -/
theorem leadsBack_alike (alike : Option.Rel Flow.Rearranged e.flow other) (state : RunState) :
    (e.bindTo other).leadsBack state = e.leadsBack state := by
  funext entry
  unfold leadsBack
  refine congrArg (entry.step != state.currentStep && ·) ?_
  show other.all _ = e.flow.all _
  generalize e.flow = loaded at alike ⊢
  cases alike with
  | none => rfl
  | some same => exact same.contains_eq entry.step

/-- A plan that begins a run. -/
theorem planStart_agree {text text' : String} (texts : Flow.TextsAlike text text') (now : Instant)
    (data : Json.Object) :
    Agree (e.planStart now text data) ((e.bindTo other).planStart now text' data) := by
  unfold planStart
  show Agree (e.current >>= _) (e.current >>= _)
  cases e.current with
  | error fault => exact .fault fault
  | ok previous =>
    simp only [bind, Except.bind]
    split
    · exact .refl _
    · unfold Flow.TextsAlike at texts
      generalize compile text = compiled at texts ⊢
      generalize compile text' = compiled' at texts ⊢
      cases texts with
      | fault fault => exact .fault fault
      | @flow flow flow' _ _ same =>
        have enters (state : RunState) :
            ((e.bindTo other).track flow').enter state flow.entry false =
              (e.track flow).enter state flow.entry false :=
          (e.track flow).arrive_rearranged same _ state flow.entry false
        dsimp only
        rw [same.name, same.entry, enters]
        exact .plan ⟨.some same, rfl, rfl⟩

/-- An operation on the run. -/
theorem onRun_agree {decide decide' : RunState → Except RunFault Plan}
    (decides : ∀ state, Agree (decide state) (decide' state)) :
    Agree (e.onRun decide) ((e.bindTo other).onRun decide') := by
  unfold onRun
  show Agree (e.current >>= _) (e.current >>= _)
  cases e.current with
  | error fault => exact .fault fault
  | ok previous =>
    cases previous with
    | none => exact .refl _
    | some state => exact decides state

/-- **What an operation is going to do is the same**, but for the flow that it binds. -/
theorem plan_agree (alike : Option.Rel Flow.Rearranged e.flow other) (now : Instant)
    {command command' : Command} (commands : command.Alike command') :
    Agree (e.plan now command) ((e.bindTo other).plan now command') := by
  cases commands with
  | start texts data => exact planStart_agree texts now data
  | same command =>
    cases command with
    | start text data => exact planStart_agree (.refl text) now data
    | submit payload =>
      refine onRun_agree fun state => .plan ?_
      unfold planSubmit
      split
      · exact .refl _
      · exact .refl _
      · exact .refl _
      · exact planOutput_alike alike state payload false
    | approve payload =>
      refine onRun_agree fun state => .plan ?_
      unfold planApprove
      split
      · exact planOutput_alike alike state payload true
      · exact .refl _
    | skip reason => exact onRun_agree fun state => .plan (planSkip_alike alike reason state)
    | goto target => exact onRun_agree fun state => .plan (planGoto_alike alike target state)
    | resume => exact onRun_agree fun state => .plan (planResume_alike alike state)
    | back =>
      refine onRun_agree fun state => ?_
      unfold planBack
      rw [leadsBack_alike alike]
      exact .refl _
    | reject | retry | stop | saveCheckpoint | restoreCheckpoint | reset => exact .refl _

/-- **What an operation answers is the same**, and so is what it leaves behind, but for the flow. -/
theorem execute_alike {e' : Engine} (alike : e.Alike e') (now : Instant)
    {command command' : Command} (commands : command.Alike command') :
    (e.execute now command).2 = (e'.execute now command').2 ∧
      (e.execute now command).1.Alike (e'.execute now command').1 := by
  obtain ⟨other, same, rfl⟩ := alike
  have agree := plan_agree same now commands
  unfold execute perform
  generalize e.plan now command = decision at agree ⊢
  generalize (e.bindTo other).plan now command' = decision' at agree ⊢
  cases agree with
  | fault fault => exact ⟨rfl, other, same, rfl⟩
  | @plan plan plan' alike =>
    refine ⟨alike.outcome.symm, plan'.binds.or other, ?_, ?_⟩
    · show Option.Rel _ (plan.binds.or e.flow) _
      have binds := alike.binds
      generalize plan.binds = bound at binds ⊢
      generalize plan'.binds = bound' at binds ⊢
      cases binds with
      | none => exact same
      | some same => exact .some same
    · show (e.bindTo other).commit now plan' = (e.commit now plan).bindTo _
      unfold commit
      rw [alike.writes]
      rfl

/-- So is what is reported of a run. -/
theorem report_alike {e' : Engine} (alike : e.Alike e') (now : Instant) :
    e'.report now = e.report now := by
  obtain ⟨other, same, rfl⟩ := alike
  unfold report
  show (e.current >>= _) = (e.current >>= _)
  refine congrArg (e.current >>= ·) (funext fun live => ?_)
  cases live with
  | none => rfl
  | some state =>
    dsimp only
    rcases flowOf_alike same state with
      ⟨why, missed, missed'⟩ | ⟨flow, flow', found, found', kept⟩
    · rw [missed, missed']
    · have hook : (e.bindTo other).currentHook? flow' state = e.currentHook? flow state := by
        unfold currentHook?
        rw [kept.contains_eq]
        rfl
      rw [found, found']
      dsimp only
      rw [hook]
      exact congrArg (e.history (some 1) >>= ·)
        (funext fun entries => by rw [kept.build_eq])

end Engine

/-! ## Sessions -/

/-- The events are the same, but for definitions of rearranged flows. -/
inductive Event.Alike : Event → Event → Prop where
  | operate (now : Instant) {command command' : Command} (commands : command.Alike command') :
      Alike (.operate now command) (.operate now command')
  | load {text other : String} (texts : Flow.TextsAlike text other) :
      Alike (.load text) (.load other)
  | equip (hooks : Registry) : Alike (.equip hooks) (.equip hooks)
  | reopen (hooks : Registry) (limits : Limits) : Alike (.reopen hooks limits) (.reopen hooks limits)

namespace Engine

variable {e e' : Engine}

/-- Loading a definition binds its flow, if it has one. -/
theorem apply_load_eq (e : Engine) (text : String) : (Event.load text).apply e =
    e.bindTo (((compile text).toOption.map Prod.fst).or e.flow) := by
  unfold Event.apply
  dsimp only
  unfold load
  cases compile text <;> rfl

/-- Loading a definition answers the warnings about it. -/
theorem load_warnings (e : Engine) (text : String) :
    Prod.snd <$> e.load text = Prod.snd <$> compile text := by
  unfold load
  cases compile text <;> rfl

/-- Engines that are alike stay so, whatever happens to both of them. -/
theorem apply_alike (alike : e.Alike e') {event event' : Event} (events : event.Alike event') :
    event.answer? e = event'.answer? e' ∧ (event.apply e).Alike (event'.apply e') := by
  cases events with
  | operate now commands =>
    obtain ⟨answers, after⟩ := execute_alike alike now commands
    exact ⟨congrArg some answers, after⟩
  | load texts =>
    obtain ⟨other, same, rfl⟩ := alike
    refine ⟨rfl, ?_⟩
    rw [apply_load_eq, apply_load_eq]
    unfold Flow.TextsAlike at texts
    generalize compile _ = compiled at texts ⊢
    generalize compile _ = compiled' at texts ⊢
    cases texts with
    | fault fault => exact ⟨other, same, rfl⟩
    | flow kept => exact ⟨_, .some kept, rfl⟩
  | equip hooks =>
    obtain ⟨other, same, rfl⟩ := alike
    exact ⟨rfl, other, same, rfl⟩
  | reopen hooks limits =>
    obtain ⟨other, same, rfl⟩ := alike
    exact ⟨rfl, none, .none, rfl⟩

/-- **Where unguarded transitions are written makes no difference.**  Take two definitions that are
accepted and differ only in where unguarded transitions stand among the guarded ones of steps that
are no loop headers.  Two sessions that differ in these definitions only cannot be told apart: the
operations answer the same, the definitions get the same warnings, and the store and the reports on
the run are the same at all times.  For a default is taken after everything else, wherever it is
written. -/
theorem sessions_alike (alike : e.Alike e') {events events' : List Event}
    (pairs : List.Forall₂ Event.Alike events events') :
    e.replies events = e'.replies events' ∧
      (e.through events).store = (e'.through events').store ∧
      (∀ now, (e.through events).report now = (e'.through events').report now) ∧
      (∀ text other, Flow.TextsAlike text other →
        Prod.snd <$> (e.through events).load text = Prod.snd <$> (e'.through events').load other) ∧
      ∀ (step : Step) (hooks : Registry) (state : RunState) (target : String),
        step.route hooks state = .towards target →
          (∃ t ∈ step.transitions, t.fires hooks state = true ∧ t.target = target) ∨
          (∀ t ∈ step.transitions, t.fires hooks state = false ∧ t.decision? = none) ∧
            (step.transitions.find? Transition.isDefault).map Transition.target = some target := by
  obtain ⟨replies, after⟩ := through_pairwise Alike Event.Alike
    (fun e e' event event' alike events => apply_alike alike events) pairs alike
  refine ⟨replies, ?_, fun now => (report_alike after now).symm, fun text other texts => ?_,
    fun step hooks state target towards => step.towards_cases hooks state towards⟩
  · obtain ⟨flow, -, same⟩ := after
    rw [same]
    rfl
  · rw [load_warnings, load_warnings, texts.warnings_eq]

end Engine

/-! ## A default in front -/

namespace Flow

/-- A definition whose first step names its default last. -/
def defaultLastText : String :=
  "steps: [\x7bname: a, next: [\x7bif: x > 1, go: b\x7d, c]\x7d, b, c]"

/-- The same with the default in front. -/
def defaultFirstText : String :=
  "steps: [\x7bname: a, next: [c, \x7bif: x > 1, go: b\x7d]\x7d, b, c]"

/-- The flow of such a definition, by the transitions of its first step. -/
def branching (transitions : List Transition) : Flow where
  name := "unnamed flow"
  steps := .ofList [("a", { name := "a", transitions }),
    ("b", { name := "b", transitions := [.plain "c"] }), ("c", { name := "c" })]
  entry := "a"

theorem parse?_defaultLastText : Yaml.parse? defaultLastText = some (.obj [("steps", .arr [
    .obj [("name", .str "a"),
      ("next", .arr [.obj [("go", .str "b"), ("if", .str "x > 1")], .str "c"])],
    .str "b", .str "c"])]) := by
  decide +kernel

theorem compile_defaultLastText : Engine.compile defaultLastText =
    .ok (branching [.guarded "b" "x > 1", .plain "c"], [⟨.deadEnd, some "c"⟩]) :=
  compile_of_document parse?_defaultLastText (by cbv) (by cbv) rfl

theorem parse?_defaultFirstText : Yaml.parse? defaultFirstText = some (.obj [("steps", .arr [
    .obj [("name", .str "a"),
      ("next", .arr [.str "c", .obj [("go", .str "b"), ("if", .str "x > 1")]])],
    .str "b", .str "c"])]) := by
  decide +kernel

theorem compile_defaultFirstText : Engine.compile defaultFirstText =
    .ok (branching [.plain "c", .guarded "b" "x > 1"], [⟨.deadEnd, some "c"⟩]) :=
  compile_of_document parse?_defaultFirstText (by cbv) (by cbv) rfl

theorem textsAlike_default : TextsAlike defaultLastText defaultFirstText := by
  unfold TextsAlike
  rw [compile_defaultLastText, compile_defaultFirstText]
  refine .flow ⟨rfl, rfl, rfl, ?_⟩
  exact .cons ⟨rfl, rfl, rfl, rfl, rfl, nofun⟩ (.cons ⟨rfl, .refl _⟩ (.cons ⟨rfl, .refl _⟩ .nil))

end Flow

namespace Engine

/-- A run along such a definition, up to the first output. -/
def branchEvents (text : String) : List Event :=
  [.operate ⟨0⟩ (.start text [("x", .int 2)]), .operate ⟨1⟩ (.submit [])]

/-- The guard comes first though the default is written in front of it. -/
theorem sessions_alike_default :
    Flow.defaultLastText ≠ Flow.defaultFirstText ∧
      (new .empty {}).replies (branchEvents Flow.defaultLastText) =
        [.started "unnamed flow" (.arrived "a"), .arrived "b"] ∧
      (new .empty {}).replies (branchEvents Flow.defaultFirstText) =
        [.started "unnamed flow" (.arrived "a"), .arrived "b"] := by
  have alike : (new .empty {}).Alike (new .empty {}) := ⟨none, .none, rfl⟩
  have pairs : List.Forall₂ Event.Alike (branchEvents Flow.defaultLastText)
      (branchEvents Flow.defaultFirstText) :=
    .cons (.operate ⟨0⟩ (.start Flow.textsAlike_default _))
      (.cons (.operate ⟨1⟩ (.same _)) .nil)
  have last : (new .empty {}).replies (branchEvents Flow.defaultLastText) =
      [.started "unnamed flow" (.arrived "a"), .arrived "b"] := by
    rw [branchEvents, replies_cons, Event.answer?, Event.apply,
      execute_start (free_of_empty rfl) _ Flow.compile_defaultLastText]
    cbv
  exact ⟨by decide, last, (sessions_alike alike pairs).1.symm.trans last⟩

end Engine

end Runbook
