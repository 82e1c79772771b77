import Runbook.Config.Load
import Runbook.Config.Location
import Runbook.Engine.Report
import Runbook.Engine.Request
import Runbook.Flow.Diagnostic
import Runbook.Hook.Describe
import Runbook.Proofs.Engine.Statements
import Runbook.Proofs.Flow.Connected
import Runbook.Proofs.Flow.Entered
import Runbook.Proofs.Flow.Keyed
import Runbook.Proofs.Guard.Decided
import Runbook.Proofs.Guard.Filled
import Runbook.Proofs.Guard.Integers
import Runbook.Proofs.Guard.Quoted
import Runbook.Proofs.Run.Afresh
import Runbook.Proofs.Run.Allowed
import Runbook.Proofs.Run.Approved
import Runbook.Proofs.Run.Archived
import Runbook.Proofs.Run.Back
import Runbook.Proofs.Run.Forth
import Runbook.Proofs.Run.Gate
import Runbook.Proofs.Run.GivenUp
import Runbook.Proofs.Run.Guarded
import Runbook.Proofs.Run.Handed
import Runbook.Proofs.Run.Laps
import Runbook.Proofs.Run.Loops
import Runbook.Proofs.Run.Mentioned
import Runbook.Proofs.Run.Raised
import Runbook.Proofs.Run.Rearranged
import Runbook.Proofs.Run.Stages
import Runbook.Proofs.Run.Standing
import Runbook.Proofs.Run.Undecided
import Runbook.Proofs.Run.Unroll
import Runbook.Proofs.Run.Walk
import Runbook.Proofs.Run.Window
import Runbook.Proofs.Run.Working
import Runbook.Proofs.Store.Reread
import Runbook.Proofs.Store.Snapshots
