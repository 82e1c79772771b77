import Runbook.Store.Cell
import Runbook.Store.Fault

/-!
# Archive tables

The tables into which hooks archive the outputs of steps.  A table has a row number, a column for
each field of a schema, or a single column for the whole payload if there is no schema, and the
time at which a row was made.

## Main definitions

* `Table`: an archive table
* `Table.sameName`: equality of table and column names
* `Archives`: the archive tables of a store
* `Archives.ensure`: make a table unless it is there
* `Archives.insert`: add a row

## Design notes

Names of tables and columns are compared without the case of ASCII letters, so two fields of a
schema may name one column, which no table can have.  Making a table that is there already does
nothing, even if its columns differ; a row that does not fit is then refused.  Rows are numbered
from one and no number is given twice.
-/

namespace Runbook

/-- An archive table. -/
structure Table where
  /-- Its name. -/
  name : String
  /-- The columns between the row number and the time, with what they prefer. -/
  columns : List (String × Affinity)
  /-- The rows, the first one first: their numbers and their cells, column by column. -/
  rows : List (Int × List Cell)
deriving DecidableEq, Repr

namespace Table

/-- A name in lower case, for comparison. -/
def fold (name : String) : List Char := name.toList.map Char.toLower

/-- Two spellings of one name. -/
def sameName (a b : String) : Bool := fold a == fold b

/-- Names that begin like this are kept for the tables of the database itself. -/
def reservedMark : List Char := ['s', 'q', 'l', 'i', 't', 'e', '_']

/-- Is the name kept for the database itself? -/
def isReserved (name : String) : Bool := reservedMark.isPrefixOf (fold name)

/-- The column of row numbers. -/
def numberColumn : String := "id"

/-- The column of times. -/
def timeColumn : String := "created_at"

/-- The column of a payload that is kept whole. -/
def payloadColumn : String := "payload"

/-- The columns of a schema, or the one for the whole payload. -/
def columnsOf : Option Schema → List (String × Affinity)
  | some (field :: rest) => (field :: rest).map fun f => (f.1, .ofField f.2)
  | _ => [(payloadColumn, .text)]

/-- The first name in a list that was there before, as it is spelled the second time. -/
def repeated? : List String → List String → Option String
  | _, [] => none
  | seen, name :: rest =>
    if seen.any (sameName name) then some name else repeated? (name :: seen) rest

/-- The number of the last row. -/
def lastNumber (t : Table) : Int := (t.rows.getLast?.map Prod.fst).getD 0

/-- The cells that a payload puts into a table, by column name: the declared fields that it has, or
the whole payload. -/
def cellsOf (schema : Option Schema) (payload : Json.Object) : List (String × Cell) :=
  match schema with
  | some (field :: rest) =>
    (field :: rest).filterMap fun f => (Fields.get? payload f.1).map fun v => (f.1, .ofJson v)
  | _ => [(payloadColumn, .text payload.compress)]

/-- Does the table have the column? -/
def hasColumn (t : Table) (column : String) : Bool :=
  (numberColumn :: timeColumn :: t.columns.map Prod.fst).any (sameName column)

/-- The row of some cells: one for each column, converted to what the column prefers. -/
def rowOf (t : Table) (cells : List (String × Cell)) : List Cell :=
  t.columns.map fun (name, affinity) =>
    affinity.convert (((cells.find? fun c => sameName c.1 name).map Prod.snd).getD .null)

end Table

/-- The archive tables of a store, in the order in which they were made. -/
abbrev Archives := List Table

namespace Archives

/-- The table of a name. -/
def table? (archives : Archives) (name : String) : Option Table :=
  archives.find? fun t => Table.sameName t.name name

/-- Make a table unless it is there. -/
def ensure (archives : Archives) (name : String) (schema : Option Schema) :
    Except TableFault Archives :=
  if Table.isReserved name then .error (.reservedName name)
  else
    match archives.table? name with
    | some _ => .ok archives
    | none =>
      let columns := Table.columnsOf schema
      let names := Table.numberColumn :: columns.map Prod.fst ++ [Table.timeColumn]
      match Table.repeated? [] names with
      | some column => .error (.duplicateColumn column)
      | none => .ok (archives ++ [⟨name, columns, []⟩])

/-- Put a row at the end of the table of a name. -/
def push (archives : Archives) (name : String) (row : Int × List Cell) : Archives :=
  archives.map fun t => if Table.sameName t.name name then { t with rows := t.rows ++ [row] } else t

/-- Add the row of a payload to a table, and answer its number. -/
def insert (archives : Archives) (name : String) (schema : Option Schema)
    (payload : Json.Object) : Except TableFault (Archives × Int) :=
  match archives.table? name with
  | none => .error (.noTable name)
  | some t =>
    let cells := Table.cellsOf schema payload
    match cells.find? fun c => !t.hasColumn c.1 with
    | some (column, _) => .error (.noColumn name column)
    | none =>
      let number := t.lastNumber + 1
      .ok (archives.push name (number, t.rowOf cells), number)

/-- The number of rows of a table. -/
def count? (archives : Archives) (name : String) : Option Nat :=
  (archives.table? name).map fun t => t.rows.length

end Archives

end Runbook
