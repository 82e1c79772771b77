import Runbook.Engine.Operation
import Runbook.Json.Record

/-!
# Requests

A command as a record: its name under `op`, and its arguments beside it.

## Main definitions

* `Command.ofJson?`: the command of a record
-/

namespace Runbook

namespace Command

/-- The name of a record's operation, and the record of its arguments. -/
def split? : Json → Option (String × Json)
  | .obj fields => ((Fields.get? fields "op").bind Json.str?).map fun op => (op, .obj fields)
  | .arr (.str op :: arguments) => some (op, .arr arguments)
  | _ => none

/-- The command of a name and a record of arguments. -/
def ofArguments? (arguments : Json) : String → Option Command
  | "start" => do
    match ← arguments.record? ["definition", "initial_data"] with
    | [some (.str definition), data] => some (.start definition (← Json.orElse? [] Json.obj? data))
    | _ => none
  | "submit" => do
    match ← arguments.record? ["payload"] with
    | [payload] => some (.submit (← Json.orElse? [] Json.obj? payload))
    | _ => none
  | "approve" => do
    match ← arguments.record? ["payload"] with
    | [payload] => some (.approve (← Json.orElse? [] Json.obj? payload))
    | _ => none
  | "reject" => do
    match ← arguments.record? ["reason"] with
    | [reason] => some (.reject (← Json.orElse? none Json.nullableStr? reason))
    | _ => none
  | "skip" => do
    match ← arguments.record? ["reason"] with
    | [reason] => some (.skip (← Json.orElse? none Json.nullableStr? reason))
    | _ => none
  | "retry" => plain .retry
  | "goto" => do
    match ← arguments.record? ["target"] with
    | [some (.str target)] => some (.goto target)
    | _ => none
  | "back" => plain .back
  | "stop" => plain .stop
  | "resume" => plain .resume
  | "save_checkpoint" => do
    match ← arguments.record? ["name"] with
    | [some (.str name)] => some (.saveCheckpoint name)
    | _ => none
  | "restore_checkpoint" => do
    match ← arguments.record? ["name"] with
    | [some (.str name)] => some (.restoreCheckpoint name)
    | _ => none
  | "reset" => plain .reset
  | _ => none
where
  /-- A command without arguments. -/
  plain (command : Command) : Option Command := (arguments.record? []).map fun _ => command

/-- The command of a record. -/
def ofJson? (value : Json) : Option Command := do
  let (op, arguments) ← split? value
  ofArguments? arguments op

end Command

end Runbook
