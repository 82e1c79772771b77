import Runbook.Flow.Decision
import Runbook.Hook.Registry
import Runbook.Run.Outcome
import Runbook.Run.State

/-!
# Routes

Where a run goes from a step.  At a plain step the guards decide; at a loop header the list that the
loop runs over does, together with the counter of the loop.

## Main definitions

* `Transition.fires`: does the guard of a transition hold?
* `Step.route`: where the run goes from a plain step
* `Step.advances`: does the run go on by itself?
* `Step.pass`: what a pass through a loop header does
* `Pass.apply`: the state after a pass

## Design notes

Guarded transitions come before the unguarded one wherever they are declared, and the decisions that
are left to someone outside come in between: as long as there is one, the unguarded transition is
not taken.

A loop header has two transitions, the first into the body and the second out of the loop.  A
counter is there exactly while the run is in the body.
-/

namespace Runbook

/-! ## Guards -/

/-- The hook that decides a guard, by the name after the mark. -/
def Registry.guard? (hooks : Registry) (condition : String) : Option Hook :=
  hooks.hook? (String.ofList ((Text.trim condition.toList).dropWhile (· == '@')))

/-- A guard that is left to a hook holds if the hook has a check, and that has nothing to say
against the data of the run. -/
def Registry.permits (hooks : Registry) (condition : String) (data : Json.Object) : Bool :=
  match hooks.guard? condition with
  | some hook => hook.check.isSome && (hook.complaint? (.obj data)).isNone
  | none => false

/-- Does a condition hold in a state, as far as that can be decided inside? -/
def Registry.decides (hooks : Registry) (state : RunState) (condition : String) : Bool :=
  match Guard.Kind.ofChars condition.toList with
  | .expression => Guard.holds condition.toList state.context
  | .capability => hooks.permits condition state.data
  | .deferred => false

/-- Is the transition guarded, and does the guard hold? -/
def Transition.fires (hooks : Registry) (state : RunState) (t : Transition) : Bool :=
  t.condition.any (hooks.decides state)

/-! ## Plain steps -/

/-- Where a run goes from a plain step. -/
inductive Route where
  /-- To a step. -/
  | towards (target : String)
  /-- Someone outside has to decide. -/
  | undecided (pending : List Decision)
  /-- The run is done, for there is no transition. -/
  | done
  /-- No transition can be taken. -/
  | stuck
deriving DecidableEq, Repr

namespace Step

/-- Where the run goes from a plain step: along the first guarded transition whose guard holds, else
nowhere as long as decisions are pending, else along the first unguarded transition. -/
def route (hooks : Registry) (state : RunState) (step : Step) : Route :=
  match step.transitions.find? (Transition.fires hooks state) with
  | some t => .towards t.target
  | none =>
    match Decision.pending step.transitions with
    | decision :: more => .undecided (decision :: more)
    | [] =>
      match step.transitions.find? Transition.isDefault with
      | some t => .towards t.target
      | none => if step.transitions.isEmpty then .done else .stuck

/-- Does the run go on by itself from here?  It does at a step declared so, unless the step is gated
or needs a decision from outside. -/
def advances (step : Step) : Bool :=
  step.config.auto && !step.config.wait && (Decision.pending step.transitions).isEmpty

end Step

/-! ## Loop headers -/

/-- What a pass through a loop header does. -/
inductive Pass where
  /-- Enter the body for the first of `count` items. -/
  | enter (count : Nat)
  /-- Enter the body again, with this counter. -/
  | next (counter : LoopCounter)
  /-- Leave the loop after the last item. -/
  | complete
  /-- Pass by, for there are no items. -/
  | skip
deriving DecidableEq, Repr

namespace Pass

/-- Does the run go into the body? -/
def entersBody : Pass → Bool
  | enter _ | next _ => true
  | complete | skip => false

/-- The loops that are active after the pass. -/
def loops (header : String) (loops : Dict LoopCounter) : Pass → Dict LoopCounter
  | enter count => loops.insert header ⟨0, count⟩
  | next counter => loops.insert header counter
  | complete => loops.erase header
  | skip => loops

/-- The state after the pass. -/
def apply (pass : Pass) (header : String) (state : RunState) : RunState :=
  { state with loops := pass.loops header state.loops }

/-- How the run ends if the loop has no way out. -/
def ending : Pass → LoopEnding
  | skip => .skipped
  | _ => .completed

end Pass

namespace Step

/-- The number of items of a loop: none if the expression has no list as its value. -/
def items (header : Step) (state : RunState) : Nat :=
  match Guard.evaluate (header.config.iterate.getD "").toList state.context with
  | .arr items => items.length
  | _ => 0

/-- What a pass through a loop header does. -/
def pass (header : Step) (state : RunState) : Pass :=
  match state.loops.get? header.name with
  | none =>
    let count := header.items state
    if count = 0 then .skip else .enter count
  | some counter =>
    if counter.index + 1 < counter.count then .next { counter with index := counter.index + 1 }
    else .complete

end Step

end Runbook
