import Runbook.Flow.Compile
import Runbook.Flow.Diagnostic
import Runbook.Store.Fault

/-!
# Faults of a run

What keeps an operation from being decided at all: a definition that is no flow, a flow with errors,
a flow that is not at hand, and stored data that cannot be read.  An operation that can be decided
and is refused is no fault.

## Main definitions

* `RunFault`: the faults
* `RunFault.message`: their wording
-/

namespace Runbook

/-- What keeps an operation from being decided. -/
inductive RunFault where
  /-- The definition is no flow. -/
  | source (error : SourceError)
  /-- The flow has errors; these are all of them. -/
  | invalid (errors : List Diagnostic)
  /-- The flow of the run is not loaded. -/
  | notLoaded (flow : String)
  /-- Stored data cannot be read. -/
  | store (fault : StoreFault)

namespace RunFault

/-- The wording of a fault. -/
def message : RunFault → String
  | source error => "Parse error: " ++ error.message
  | invalid errors =>
    "Flow failed validation with " ++ Nat.repr errors.length ++ " error(s): "
      ++ "; ".intercalate (errors.map Diagnostic.text)
  | notLoaded flow => "No flow loaded for workflow '" ++ flow ++ "'"
  | store fault => "Store error: " ++ fault.message

end RunFault

end Runbook
