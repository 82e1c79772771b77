import Runbook.Proofs.Engine.Session

/-!
# Journeys, hop by hop

Four functions that call each other move a run, and they recurse on a budget.  This module follows
them once.  What comes out is a list of the hops that a journey through a sound flow is made of,
each with the circumstances under which it is made; whatever is said about all journeys is then said
hop by hop, and neither the functions nor the budget come up again.

## Main definitions

* `Track.Travels`: the journeys of a run through a flow

## Main statements

* `Track.travels_arrive`, `Track.travels_follow`: journeys are of these hops
* `Track.travels_onward`: so is the journey after an output
* `Track.Travels.same`: on a journey only the step, the status and the active loops change
* `Engine.Records.exists_journey`: an output sends the run on a journey

## Design notes

Two things that the functions provide for are missing here, as a sound flow has no use for them: a
target without a step, and a run that ends at a loop header.  Which transition a hop goes along is
not said here, for that is what walks are about.

The first arrival of a run is the only one that is not recorded, and it is an arrival where the run
already stands.
-/

namespace Runbook

namespace Track

/-- The journeys of a run through a flow. -/
inductive Travels (track : Track) : RunState → Journey → Prop where
  /-- There were too many arrivals. -/
  | giveUp {state : RunState} :
      Travels track state (.stay (.refused (.tooManySteps state.currentStep track.limit)))
  /-- No transition can be taken. -/
  | stuck {state : RunState} {step : Step}
      (filed : track.flow.step? state.currentStep = some step)
      (plain : step.config.isLoopHeader = false) (route : step.route track.hooks state = .stuck) :
      Travels track state (.stay (.refused (.noTransition step.name)))
  /-- Someone outside has to decide. -/
  | undecided {state : RunState} {step : Step} {pending : List Decision}
      (filed : track.flow.step? state.currentStep = some step)
      (plain : step.config.isLoopHeader = false)
      (route : step.route track.hooks state = .undecided pending) :
      Travels track state (.stay (.undecided step.name pending))
  /-- The run is done, for there is no transition. -/
  | finish {state : RunState} {step : Step}
      (filed : track.flow.step? state.currentStep = some step)
      (plain : step.config.isLoopHeader = false) (route : step.route track.hooks state = .done) :
      Travels track state (.after (.finish { state with status := .done }) (.stay .completed))
  /-- The run comes to a step that ends it. -/
  | terminate {state : RunState} {step : Step} {reason : String}
      (filed : track.flow.step? step.name = some step)
      (plain : step.config.isLoopHeader = false) (ends : step.config.terminate = true) :
      Travels track state
        (.after (.terminate step.name reason (atEnd step state))
          (.stay (.terminated step.name reason)))
  /-- The run comes to a step and stands there. -/
  | stand {state : RunState} {step : Step} {recorded : Bool}
      (filed : track.flow.step? step.name = some step)
      (plain : step.config.isLoopHeader = false) (lasts : step.config.terminate = false)
      (stands : step.advances = false)
      (first : recorded = false → step.name = state.currentStep) :
      Travels track state
        (.after (.arrive step.name recorded (atStep step state)) (.stay (.arrived step.name)))
  /-- The run comes to a step and goes on from it. -/
  | advance {state : RunState} {step : Step} {recorded : Bool} {journey : Journey}
      (filed : track.flow.step? step.name = some step)
      (plain : step.config.isLoopHeader = false) (lasts : step.config.terminate = false)
      (advances : step.advances = true)
      (first : recorded = false → step.name = state.currentStep)
      (onward : Travels track (atStep step state) journey) :
      Travels track state (.after (.arrive step.name recorded (atStep step state)) journey)
  /-- The run passes through a loop header. -/
  | pass {state : RunState} {step : Step} {journey : Journey}
      (filed : track.flow.step? step.name = some step)
      (header : step.config.isLoopHeader = true)
      (onward : Travels track ((step.pass state).apply step.name state) journey) :
      Travels track state
        (.after (.pass step.name (step.pass state) ((step.pass state).apply step.name state))
          journey)

variable {track : Track} {state : RunState} {step : Step} {go : RunState → String → Journey}

/-- A pass through a header, and a journey from where it leads. -/
theorem travels_passThrough (sound : track.flow.Sound)
    (filed : track.flow.step? step.name = some step) (header : step.config.isLoopHeader = true)
    (onward : ∀ next target, track.flow.contains target = true →
      track.Travels next (go next target)) :
    track.Travels state (passThrough go state step) := by
  obtain ⟨body, exit, more, transitions⟩ := sound.loops filed header
  have known := sound.targets filed
  rw [transitions, List.forall_mem_cons, List.forall_mem_cons] at known
  unfold passThrough
  rw [transitions]
  refine .pass filed header ?_
  split
  · exact onward _ _ known.1
  · exact onward _ _ known.2.1

/-- Leaving the step at which the run stands. -/
theorem travels_leave (sound : track.flow.Sound)
    (filed : track.flow.step? state.currentStep = some step)
    (plain : step.config.isLoopHeader = false)
    (onward : ∀ target, track.flow.contains target = true →
      track.Travels state (go state target)) :
    track.Travels state (track.leave go state step) := by
  unfold leave
  split
  · rename_i target towards
    obtain ⟨t, taken, rfl⟩ := List.mem_map.1 (Step.mem_targets_of_route towards)
    exact onward _ (sound.targets filed t taken)
  · rename_i pending route
    exact .undecided filed plain route
  · rename_i route
    exact .finish filed plain route
  · rename_i route
    exact .stuck filed plain route

/-- **A journey that starts with an arrival**, at a step of the flow. -/
theorem travels_arrive (track : Track) (sound : track.flow.Sound) (budget : Nat) (state : RunState)
    {target : String} (known : track.flow.contains target = true) {recorded : Bool}
    (first : recorded = false → target = state.currentStep) :
    track.Travels state (track.arrive budget state target recorded) := by
  induction budget generalizing state target recorded with
  | zero => exact .giveUp
  | succ budget ih =>
    obtain ⟨step, filed⟩ := Flow.contains_iff_step?.1 known
    obtain rfl := sound.filed filed
    have onward (next : RunState) (target : String) (known : track.flow.contains target = true) :
        track.Travels next (track.arrive budget next target true) := ih next known nofun
    unfold arrive
    rw [filed]
    dsimp only
    split
    · rename_i header
      exact travels_passThrough sound filed header onward
    · rename_i plain
      rw [Bool.not_eq_true] at plain
      split
      · rename_i ends
        exact .terminate filed plain ends
      · rename_i lasts
        rw [Bool.not_eq_true] at lasts
        split
        · rename_i advances
          exact .advance filed plain lasts advances first
            (travels_leave sound filed plain (onward _))
        · rename_i stands
          rw [Bool.not_eq_true] at stands
          exact .stand filed plain lasts stands first

/-- **A journey that starts with leaving the step at which the run stands.** -/
theorem travels_follow (track : Track) (sound : track.flow.Sound) (state : RunState)
    (filed : track.flow.step? state.currentStep = some step) :
    track.Travels state (track.follow state step) := by
  unfold follow
  split
  · rename_i header
    refine travels_passThrough sound ?_ header fun next target known =>
      track.travels_arrive sound track.limit next known nofun
    rwa [sound.filed filed]
  · rename_i plain
    rw [Bool.not_eq_true] at plain
    exact travels_leave sound filed plain fun target known =>
      track.travels_arrive sound track.budget state known nofun

/-- A run that begins comes to its first step. -/
theorem travels_enter (track : Track) (sound : track.flow.Sound) (state : RunState)
    (begins : state.currentStep = track.flow.entry) :
    track.Travels state (track.enter state track.flow.entry false) :=
  track.travels_arrive sound track.budget state sound.entry fun _ => begins.symm

/-- The journey after an output, along the flow or to the step that the output names. -/
theorem travels_onward (track : Track) (sound : track.flow.Sound) (state : RunState)
    (filed : track.flow.step? state.currentStep = some step) {choice : Option String}
    (chosen : ∀ target, choice = some target → track.flow.contains target = true) :
    track.Travels state (Engine.onward track state step choice) := by
  cases choice with
  | none => exact track.travels_follow sound state filed
  | some target => exact track.travels_arrive sound track.budget state (chosen target rfl) nofun

/-- On a journey only the step, the status and the active loops change. -/
theorem Travels.same {journey : Journey} (travels : track.Travels state journey) :
    journey.final state =
      { state with
        currentStep := (journey.final state).currentStep
        status := (journey.final state).status
        loops := (journey.final state).loops } := by
  induction travels with
  | giveUp | stuck | undecided | finish | terminate | stand => rfl
  | advance filed plain lasts advances first onward same =>
    rw [Journey.final_after]
    exact same
  | pass filed header onward same =>
    rw [Journey.final_after, Hop.saved?_pass]
    exact same

end Track

/-- **An output that is recorded sends the run on a journey** from the state that has the output. -/
theorem Engine.Records.exists_journey {e : Engine} (vetted : e.Vetted) {state : RunState}
    {payload : Json.Object} {approving : Bool} {plan : Plan}
    (records : e.Records state payload approving plan) :
    ∃ track next writes journey, plan = .travel writes journey ∧ Track.Travels track next journey ∧
      next = { state with
        status := .running
        data := state.data.insert state.currentStep (.obj (payload.erase Refusal.choiceKey)) } ∧
      Write.Keep writes ∧
      Write.notes writes = outputNotes state.flowName state.currentStep
        (payload.erase Refusal.choiceKey) approving ∧
      (writes.filterMap Write.saved?).getLast? = some next := by
  obtain ⟨flow, loaded⟩ := records.exists_flow
  have sound := vetted.sound loaded
  obtain ⟨step, writes, filed, chosen, rfl, keeps, notes, last⟩ := records.travels loaded
  have travels := (e.track flow).travels_onward sound
    (withOutput state step (payload.erase Refusal.choiceKey)) filed chosen
  rw [sound.filed filed] at notes
  refine ⟨_, _, writes, _, rfl, travels, ?_, keeps, notes, last⟩
  rw [withOutput, sound.filed filed]

end Runbook
