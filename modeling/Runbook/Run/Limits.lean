/-!
# Limits

Numbers that bound what a run does on its own and how far back its history is read.

## Main definitions

* `Limits`: the bounds with their usual values
-/

namespace Runbook

/-- Bounds on runs. -/
structure Limits where
  /-- How many arrivals may follow the first one without anybody asking. -/
  autoSteps : Nat := 100
  /-- How many rows of the history are searched for the step before. -/
  backScan : Nat := 20
  /-- How many rows of the history are shown if nobody says how many. -/
  history : Nat := 20
deriving DecidableEq, Repr, Inhabited

end Runbook
