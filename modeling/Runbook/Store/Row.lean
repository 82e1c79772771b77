import Runbook.Json.Printer
import Runbook.Json.Reader
import Runbook.Json.Record
import Runbook.Run.State
import Runbook.Store.Fault

/-!
# Rows of the store

What the store keeps of a run is text: the live row, the rows of the history, and checkpoints.  Each
is written from a domain value, and reading it back fails if the text was altered to something that
is not a value.

## Main definitions

* `LiveRow`: the live state, `LiveRow.ofState` and `LiveRow.read`
* `HistoryRow`: a row of the history, `HistoryRow.read`
* `HistoryEntry`: a row that was read
* `CheckpointRow`: a checkpoint, `CheckpointRow.ofState` and `CheckpointRow.read`
* `CheckpointInfo`: the name and the flow of a checkpoint

## Design notes

A row of text can hold anything, so every reader answers with a fault of its own.  The order in
which the columns are read decides which fault is reported when several columns are altered: the
status comes before the data, the data before the loops, and the time last.

The counters of the active loops are kept in the order in which the loops were entered.  They are
therefore read from the text as it is written and not from an object, whose keys are in order.
-/

namespace Runbook

/-! ## Loop counters as text -/

namespace LoopCounter

/-- A counter as a record. -/
def toJson (c : LoopCounter) : Json := .obj [("index", .int c.index), ("count", .int c.count)]

/-- The counter of a record. -/
def ofJson? (value : Json) : Option LoopCounter := do
  match ← value.record? ["index", "count"] with
  | [some index, some count] => some ⟨← index.natural?, ← count.natural?⟩
  | _ => none

end LoopCounter

namespace RunState

/-- Active loops as an object in their own order. -/
def loopsToJson (loops : Dict LoopCounter) : Json :=
  .obj (loops.entries.map fun loop => (loop.1, loop.2.toJson))

/-- The active loops of an object, read in the order in which it is written. -/
def loopsOfJson? : Json → Option (Dict LoopCounter)
  | .obj fields =>
    (fields.mapM fun field =>
      (LoopCounter.ofJson? field.2).map fun c => (field.1, c)).map Dict.ofList
  | _ => none

end RunState

/-! ## The live row -/

/-- The live state of a run as text. -/
structure LiveRow where
  flowName : String
  currentStep : String
  status : String
  data : String
  loops : String
  startedAt : String
deriving DecidableEq, Repr

namespace LiveRow

/-- The row of a state. -/
def ofState (s : RunState) : LiveRow where
  flowName := s.flowName
  currentStep := s.currentStep
  status := s.status.name
  data := s.data.compress
  loops := (RunState.loopsToJson s.loops).compress
  startedAt := s.startedAt.render

/-- A status from its name. -/
def readStatus (text : String) : Except StoreFault Status :=
  match Status.parse text with
  | .ok status => .ok status
  | .error e => .error (.unknownName "status" e)

/-- A time from its text. -/
def readTime (column text : String) : Except StoreFault Instant :=
  match Instant.parse? text with
  | some t => .ok t
  | none => .error (.time column)

/-- What was read from a data text, if anything was. -/
def readData {α : Type} (value? : Option α) : Except StoreFault α :=
  match value? with
  | some value => .ok value
  | none => .error .serialization

/-- The state of a row. -/
def read (row : LiveRow) : Except StoreFault RunState := do
  let status ← readStatus row.status
  let data ← readData (Json.parseObject? row.data)
  let loops ← readData ((Json.scan? row.loops).bind RunState.loopsOfJson?)
  let startedAt ← readTime "started_at" row.startedAt
  return {
    flowName := row.flowName, currentStep := row.currentStep, status, data, loops, startedAt }

end LiveRow

/-! ## The history -/

/-- A row of the history as text. -/
structure HistoryRow where
  /-- Its number; later rows have greater numbers. -/
  id : Nat
  flowName : String
  step : String
  action : String
  data : Option String
  time : String
deriving DecidableEq, Repr

/-- A row of the history that was read. -/
structure HistoryEntry where
  id : Nat
  flowName : String
  step : String
  action : Action
  data : Option String
  time : Instant
deriving DecidableEq, Repr

namespace HistoryRow

/-- The entry of a row. -/
def read (row : HistoryRow) : Except StoreFault HistoryEntry := do
  let action ← match Action.parse row.action with
    | .ok action => .ok action
    | .error e => .error (.unknownName "action" e)
  let time ← LiveRow.readTime "timestamp" row.time
  return {
    id := row.id, flowName := row.flowName, step := row.step, action, data := row.data, time }

end HistoryRow

/-! ## Checkpoints -/

/-- A checkpoint as text. -/
structure CheckpointRow where
  name : String
  flowName : String
  state : String
  time : String
deriving DecidableEq, Repr

/-- What is listed of a checkpoint. -/
structure CheckpointInfo where
  name : String
  flowName : String
  createdAt : Instant
deriving DecidableEq, Repr

namespace CheckpointRow

/-- The names of the fields of a state. -/
def stateFields : List String :=
  ["flow_name", "current_step", "status", "data", "loop_state", "started_at"]

/-- A state as a record. -/
def stateToJson (s : RunState) : Json :=
  .obj [
    ("flow_name", .str s.flowName), ("current_step", .str s.currentStep),
    ("status", .str s.status.name), ("data", .obj s.data),
    ("loop_state", RunState.loopsToJson s.loops), ("started_at", .str s.startedAt.render)]

/-- A status in a record: its name, or an object that has the name as its only key. -/
def statusOfJson? : Json → Option Status
  | .str name | .obj [(name, .null)] => (Status.parse name).toOption
  | _ => none

/-- The state of a record. -/
def stateOfJson? (value : Json) : Option RunState := do
  match ← value.record? stateFields with
  | [some (.str flowName), some (.str currentStep), some status, data, loops, some (.str time)] =>
    some
      { flowName, currentStep
        status := ← statusOfJson? status
        data := ← Json.orElse? [] (fun v => v.canonical.obj?) data
        loops := ← Json.orElse? .empty RunState.loopsOfJson? loops
        startedAt := ← Instant.parseLoosely? time }
  | _ => none

/-- The checkpoint of a state. -/
def ofState (name : String) (s : RunState) (now : Instant) : CheckpointRow where
  name
  flowName := s.flowName
  state := (stateToJson s).compress
  time := now.render

/-- The state of a checkpoint. -/
def read (row : CheckpointRow) : Except StoreFault RunState :=
  LiveRow.readData ((Json.scan? row.state).bind stateOfJson?)

/-- What is listed of a checkpoint. -/
def info (row : CheckpointRow) : Except StoreFault CheckpointInfo := do
  let createdAt ← LiveRow.readTime "timestamp" row.time
  return { name := row.name, flowName := row.flowName, createdAt }

end CheckpointRow

end Runbook
