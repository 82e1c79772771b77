import Runbook.Run.Status

/-!
# Faults of the store

What can go wrong with stored data: a table that does not fit, a text that cannot be read back, and
a file that cannot be opened.

## Main definitions

* `TableFault`: a table that does not fit
* `StoreFault`: all of them
* `StoreFault.message`: their wording

## Design notes

What a reader of texts has to complain about is left open; a mark in angle brackets holds the place
of its words.
-/

namespace Runbook

/-- A table that does not fit what is done with it. -/
inductive TableFault where
  | noTable (table : String)
  | noColumn (table column : String)
  | duplicateColumn (column : String)
  | nullColumn (table column : String)
  | reservedName (table : String)
deriving DecidableEq, Repr

namespace TableFault

/-- The wording of a fault. -/
def message : TableFault → String
  | noTable table => "no such table: " ++ table
  | noColumn table column => "table " ++ table ++ " has no column named " ++ column
  | duplicateColumn column => "duplicate column name: " ++ column
  | nullColumn table column => "NOT NULL constraint failed: " ++ table ++ "." ++ column
  | reservedName table => "object name reserved for internal use: " ++ table

end TableFault

/-- What can go wrong with stored data. -/
inductive StoreFault where
  /-- A table does not fit. -/
  | table (fault : TableFault)
  /-- A stored text is no data text, or one of the wrong shape. -/
  | serialization
  /-- A stored name names nothing. -/
  | unknownName (column : String) (name : UnknownName)
  /-- A stored time is no time. -/
  | time (column : String)
  /-- The file is no database. -/
  | noDatabase
  /-- The directory of the file cannot be made. -/
  | noDirectory
deriving DecidableEq, Repr

namespace StoreFault

/-- The wording of a fault. -/
def message : StoreFault → String
  | table fault => "SQLite error: " ++ fault.message
  | serialization => "Serialization error: <json>"
  | unknownName column name =>
    "Corrupt stored value in column '" ++ column ++ "': " ++ name.message
  | time column => "Corrupt stored value in column '" ++ column ++ "': <time>"
  | noDatabase => "SQLite error: <database>"
  | noDirectory => "IO error: <directory>"

end StoreFault

end Runbook
