import Runbook.Flow.Basic
import Runbook.Guard.Kind

/-!
# Pending decisions

The transitions of a step whose guard nobody inside can decide.  They are offered to whoever drives
the run.

## Main definitions

* `Decision`: a target with the condition that leads to it
* `Decision.pending`: the pending decisions among some transitions
-/

namespace Runbook

/-- A transition that someone outside has to decide about. -/
structure Decision where
  /-- Where the transition leads. -/
  target : String
  /-- What has to be decided. -/
  condition : String
deriving DecidableEq, Repr

namespace Transition

/-- The kind of the guard, if there is one. -/
def kind? (t : Transition) : Option Guard.Kind := t.condition.map fun c => .ofChars c.toList

/-- The transition as a decision, if its guard is left to someone outside. -/
def decision? (t : Transition) : Option Decision :=
  t.condition.bind fun c =>
    if Guard.Kind.ofChars c.toList = .deferred then some ⟨t.target, c⟩ else none

end Transition

namespace Decision

/-- The pending decisions among some transitions, in their order. -/
def pending (transitions : List Transition) : List Decision :=
  transitions.filterMap Transition.decision?

@[simp] theorem pending_nil : pending [] = [] := rfl

end Decision

end Runbook
