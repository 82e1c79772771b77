import Runbook.Store.Archive
import Runbook.Store.Row

/-!
# The store

The store keeps one live row, the history, named checkpoints and archive tables.

## Main definitions

* `Store`: what is kept
* `Store.current`: the live state
* `Store.rows`, `Store.entries`: the newest rows of the history
* `Store.checkpoint?`, `Store.checkpointInfos`: checkpoints
* `Store.ensureArchive`, `Store.archive`: archive tables
* `Store.overwrite`: put a text into a column from outside

## Design notes

History rows are numbered, and the number given last is kept apart from the rows: it goes on when
the history is cleared.  The history is kept newest first, as it is read.  Checkpoints are kept in
the order in which they were saved last.

The first three kinds of data are tables like any other, so their names can be counted and are taken
for archives.  Outputs of steps do not fit them: columns are missing, or columns that may not be
empty would be.  A schema that is made to cover the columns of one of them is refused as well, so
that nobody but the operations writes there.
-/

namespace Runbook

-- The core library's powers, also where another library declares powers of its own.
attribute [local instance (high)] instPowNat

/-- What is kept. -/
structure Store where
  /-- The live row. -/
  live : Option LiveRow
  /-- The rows of the history, the newest first. -/
  history : List HistoryRow
  /-- The number that was given to a history row last. -/
  lastId : Nat
  /-- The checkpoints, the one saved last at the end. -/
  checkpoints : List CheckpointRow
  /-- The archive tables. -/
  archives : Archives
deriving DecidableEq, Repr

namespace Store

/-- The store in which nothing is kept yet. -/
def empty : Store := ⟨none, [], 0, [], []⟩

instance : Inhabited Store := ⟨empty⟩

/-! ## Reading -/

/-- The live state, if there is one. -/
def current (store : Store) : Except StoreFault (Option RunState) :=
  match store.live with
  | none => .ok none
  | some row => some <$> row.read

/-- A limit from here on is none: it does not fit a signed number of 64 bits. -/
def unlimited : Nat := 2 ^ (63 : Nat)

/-- The newest rows of the history, the newest first. -/
def rows (store : Store) (limit : Nat) : List HistoryRow :=
  if unlimited ≤ limit then store.history else store.history.take limit

/-- The newest entries of the history, the newest first. -/
def entries (store : Store) (limit : Nat) : Except StoreFault (List HistoryEntry) :=
  (store.rows limit).mapM HistoryRow.read

/-- The row of a checkpoint. -/
def checkpointRow? (store : Store) (name : String) : Option CheckpointRow :=
  store.checkpoints.find? fun row => row.name == name

/-- The state of a checkpoint, if there is one of the name. -/
def checkpoint? (store : Store) (name : String) : Except StoreFault (Option RunState) :=
  match store.checkpointRow? name with
  | none => .ok none
  | some row => some <$> row.read

/-- What is listed of the checkpoints, the one saved last at the end. -/
def checkpointInfos (store : Store) : Except StoreFault (List CheckpointInfo) :=
  store.checkpoints.mapM CheckpointRow.info

/-! ## Writing -/

/-- Replace the live row. -/
def saveLive (store : Store) (s : RunState) : Store := { store with live := some (.ofState s) }

/-- Put a row in front of the history. -/
def append (store : Store) (flowName step : String) (action : Action) (data : Option String)
    (now : Instant) : Store :=
  let id := store.lastId + 1
  { store with
    lastId := id
    history := ⟨id, flowName, step, action.name, data, now.render⟩ :: store.history }

/-- Save a checkpoint; an older one of its name goes. -/
def saveCheckpoint (store : Store) (name : String) (s : RunState) (now : Instant) : Store :=
  { store with
    checkpoints :=
      (store.checkpoints.filter fun row => row.name != name) ++ [.ofState name s now] }

/-- Forget the live row and the history. -/
def clear (store : Store) : Store := { store with live := none, history := [] }

/-! ## What a change leaves alone -/

section Changes

variable (store : Store) (s : RunState) (name flowName step : String) (action : Action)
  (data : Option String) (now : Instant)

@[simp] theorem live_saveLive : (store.saveLive s).live = some (.ofState s) := rfl

@[simp] theorem history_saveLive : (store.saveLive s).history = store.history := rfl

@[simp] theorem lastId_saveLive : (store.saveLive s).lastId = store.lastId := rfl

@[simp] theorem checkpoints_saveLive : (store.saveLive s).checkpoints = store.checkpoints := rfl

@[simp] theorem archives_saveLive : (store.saveLive s).archives = store.archives := rfl

@[simp] theorem live_append : (store.append flowName step action data now).live = store.live := rfl

@[simp] theorem history_append : (store.append flowName step action data now).history =
    ⟨store.lastId + 1, flowName, step, action.name, data, now.render⟩ :: store.history := rfl

@[simp] theorem lastId_append :
    (store.append flowName step action data now).lastId = store.lastId + 1 := rfl

@[simp] theorem checkpoints_append :
    (store.append flowName step action data now).checkpoints = store.checkpoints := rfl

@[simp] theorem archives_append :
    (store.append flowName step action data now).archives = store.archives := rfl

@[simp] theorem live_saveCheckpoint : (store.saveCheckpoint name s now).live = store.live := rfl

@[simp] theorem history_saveCheckpoint :
    (store.saveCheckpoint name s now).history = store.history := rfl

@[simp] theorem archives_saveCheckpoint :
    (store.saveCheckpoint name s now).archives = store.archives := rfl

@[simp] theorem live_clear : store.clear.live = none := rfl

@[simp] theorem history_clear : store.clear.history = [] := rfl

@[simp] theorem checkpoints_clear : store.clear.checkpoints = store.checkpoints := rfl

@[simp] theorem archives_clear : store.clear.archives = store.archives := rfl

end Changes

/-! ## Tables -/

/-- The tables of the store that are no archives. -/
inductive OwnTable where
  | live
  | history
  | checkpoints
deriving DecidableEq, Repr

namespace OwnTable

/-- All of them. -/
def all : List OwnTable := [live, history, checkpoints]

/-- The name of the table. -/
def name : OwnTable → String
  | live => "workflow_state"
  | history => "workflow_history"
  | checkpoints => "workflow_checkpoints"

/-- The table of a name. -/
def ofName? (text : String) : Option OwnTable := all.find? fun t => Table.sameName t.name text

/-- The columns, and whether a new row needs to say what they hold. -/
def columns : OwnTable → List (String × Bool)
  | live => [("id", false), ("flow_name", true), ("current_step", true), ("status", false),
      ("data", false), ("loop_state", false), ("started_at", true)]
  | history => [("id", false), ("flow_name", true), ("step_path", true), ("action", true),
      ("data", false), ("timestamp", true)]
  | checkpoints => [("id", false), ("name", true), ("flow_name", true), ("state", true),
      ("timestamp", true)]

/-- Why the cells of an output do not fit the table, which may be spelled in its own way. -/
def refuse (t : OwnTable) (spelled : String) (cells : List (String × Cell)) : TableFault :=
  match cells.find? fun c => !t.columns.any fun column => Table.sameName column.1 c.1 with
  | some (column, _) => .noColumn spelled column
  | none =>
    let needed := t.columns.filter Prod.snd
    match needed.find? fun column => !cells.any fun c => Table.sameName c.1 column.1 with
    | some (column, _) => .nullColumn t.name column
    | none => .nullColumn t.name "id"

end OwnTable

/-- Make an archive table unless there is a table of the name. -/
def ensureArchive (store : Store) (table : String) (schema : Option Schema) :
    Except TableFault Store :=
  match OwnTable.ofName? table with
  | some _ => .ok store
  | none => (fun archives => { store with archives }) <$> store.archives.ensure table schema

/-- Add the row of an output to an archive table, and answer its number. -/
def archive (store : Store) (table : String) (schema : Option Schema) (payload : Json.Object) :
    Except TableFault (Store × Int) :=
  match OwnTable.ofName? table with
  | some t => .error (t.refuse table (Table.cellsOf schema payload))
  | none =>
    (fun (archives, number) => ({ store with archives }, number)) <$>
      store.archives.insert table schema payload

/-- The number of rows of a table. -/
def count? (store : Store) (table : String) : Except TableFault Nat :=
  match OwnTable.ofName? table with
  | some .live => .ok store.live.toList.length
  | some .history => .ok store.history.length
  | some .checkpoints => .ok store.checkpoints.length
  | none =>
    match store.archives.count? table with
    | some n => .ok n
    | none => .error (.noTable table)

end Store

/-! ## Changes from outside -/

/-- A live row with another text in a column. -/
def LiveRow.overwrite (row : LiveRow) (column text : String) : LiveRow :=
  match column with
  | "flow_name" => { row with flowName := text }
  | "current_step" => { row with currentStep := text }
  | "status" => { row with status := text }
  | "data" => { row with data := text }
  | "loop_state" => { row with loops := text }
  | "started_at" => { row with startedAt := text }
  | _ => row

/-- A history row with another text in a column. -/
def HistoryRow.overwrite (row : HistoryRow) (column text : String) : HistoryRow :=
  match column with
  | "flow_name" => { row with flowName := text }
  | "step_path" => { row with step := text }
  | "action" => { row with action := text }
  | "data" => { row with data := some text }
  | "timestamp" => { row with time := text }
  | _ => row

/-- A checkpoint with another text in a column. -/
def CheckpointRow.overwrite (row : CheckpointRow) (column text : String) : CheckpointRow :=
  match column with
  | "name" => { row with name := text }
  | "flow_name" => { row with flowName := text }
  | "state" => { row with state := text }
  | "timestamp" => { row with time := text }
  | _ => row

/-- An archive table with another text in a column of each row. -/
def Table.overwrite (t : Table) (column text : String) : Table :=
  let overwriteCell := fun (c : (String × Affinity) × Cell) =>
    if sameName c.1.1 column then c.1.2.convert (.text text) else c.2
  { t with rows := t.rows.map fun row => (row.1, (t.columns.zip row.2).map overwriteCell) }

namespace Store

/-- Put a text into a column of every row of a table, past all rules. -/
def overwrite (store : Store) (table column text : String) : Store :=
  match OwnTable.ofName? table with
  | some .live => { store with live := store.live.map fun row => row.overwrite column text }
  | some .history =>
    { store with history := store.history.map fun row => row.overwrite column text }
  | some .checkpoints =>
    { store with checkpoints := store.checkpoints.map fun row => row.overwrite column text }
  | none =>
    { store with
      archives := store.archives.map fun t =>
        if Table.sameName t.name table then t.overwrite column text else t }

end Store

end Runbook
