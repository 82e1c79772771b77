import Runbook.Config.Basic
import Runbook.Store.Fault
import Runbook.Text.Search

/-!
# Where the store is

The file of the store is given relative to a workspace.  Opening it makes the directories on the
way, so a file in the place of one of them is in the way, and so is a file that is no database.

## Main definitions

* `Path.join`: a path seen from a directory
* `StoreConfig.resolve`: the file of the store
* `Opening.open`: what comes of opening it
-/

namespace Runbook

namespace Path

/-- Does the path start at the root? -/
def isAbsolute (path : String) : Bool := path.toList.head? == some '/'

/-- A path seen from a directory; a path from the root is seen the same from everywhere. -/
def join (directory path : String) : String :=
  if isAbsolute path || directory == "" then path
  else if directory.toList.getLast? == some '/' then directory ++ path
  else directory ++ "/" ++ path

/-- The names that a path leads through; points stand for no name. -/
def names (path : String) : List (List Char) :=
  (Text.splitOn '/' path.toList).filter fun name => name != [] && name != ['.']

/-- Does the path lead through a part that does not matter? -/
def isTrivial (name : List Char) : Bool := name == [] || name == ['.']

/-- A relative path without parts that do not matter at its start and its end. -/
def trim (path : String) : String :=
  let parts := (Text.splitOn '/' path.toList).dropWhile isTrivial
  let parts := (parts.reverse.dropWhile isTrivial).reverse
  "/".intercalate (parts.map String.ofList)

end Path

namespace StoreConfig

/-- The file of the store if none is named. -/
def defaultPath : String := ".sopflow/workflow.db"

/-- The file of the store as it is named. -/
def file (c : StoreConfig) : String :=
  match c.path with
  | some path => if path = "" then defaultPath else path
  | none => defaultPath

/-- The file of the store as it is seen from outside of the workspace. -/
def resolve (c : StoreConfig) (workspace : String) : String := Path.join workspace c.file

end StoreConfig

/-- How the changes of a database are made safe. -/
inductive Journal where
  | wal
  | delete
deriving DecidableEq, Repr

/-- The written name of a journal. -/
def Journal.name : Journal → String
  | wal => "wal"
  | delete => "delete"

/-- Open the store of a file, where there is one text file in the workspace: the journal that is
used, unless the text file is in the way. -/
def StoreConfig.openFile (c : StoreConfig) (textFile : Option String) : Except StoreFault Journal :=
  let names := Path.names c.file
  match textFile with
  | none => .ok (if c.wal then .wal else .delete)
  | some textFile =>
    let blocked := Path.names textFile
    if blocked = names then .error .noDatabase
    else if blocked.isPrefixOf names then .error .noDirectory
    else .ok (if c.wal then .wal else .delete)

end Runbook
