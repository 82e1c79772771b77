import Runbook.Config.Setting

/-!
# Trees of TOML tables

A TOML document is read line by line.  Headers open tables, and key lines put values into the table
that was opened last.  What is read so far is a tree, and it depends on how a table came about what
may still be put into it.

## Main definitions

* `Origin`: how a table came about
* `Tree`: a value, a table, or a list of tables
* `Branches.open?`: open the table of a header
* `Branches.openNext?`: open another table of a list
* `Branches.put?`: put a value under a dotted key

## Design notes

A table has one header at most.  A table that was only named on the way to another one may still get
its header; one that a dotted key made may not.  Dotted keys in turn do not reach into tables that
headers made.  The way of a header leads through lists of tables by their last table.
-/

namespace Runbook.Toml

/-- How a table came about. -/
inductive Origin where
  /-- By its own header. -/
  | header
  /-- On the way of a header. -/
  | way
  /-- By a dotted key. -/
  | dotted
deriving DecidableEq, Repr

/-- What stands under a key. -/
inductive Tree where
  | value (v : Setting)
  | table (origin : Origin) (branches : List (String × Tree))
  | tables (items : List (List (String × Tree)))

/-- The keys of a table with what stands under them. -/
abbrev Branches := List (String × Tree)

mutual

/-- What is read, as a setting. -/
def Tree.toSetting : Tree → Setting
  | .value v => v
  | .table _ branches => .table (Fields.ofList (settingsOf branches))
  | .tables items => .list (listOf items)

/-- Tables as settings. -/
def listOf : List (List (String × Tree)) → List Setting
  | [] => []
  | branches :: rest => .table (Fields.ofList (settingsOf branches)) :: listOf rest

/-- The values of a table as settings. -/
def settingsOf : List (String × Tree) → List (String × Setting)
  | [] => []
  | (key, tree) :: rest => (key, tree.toSetting) :: settingsOf rest

end

namespace Branches

/-- Change what stands under a key; nothing may stand there yet. -/
def change? (key : String) (f : Option Tree → Option Tree) : Branches → Option Branches
  | [] => (f none).map fun tree => [(key, tree)]
  | (k, tree) :: rest =>
    if k = key then (f (some tree)).map fun tree => (k, tree) :: rest
    else (change? key f rest).map ((k, tree) :: ·)

/-- Change the last table of a list. -/
def changeLast? (f : Branches → Option Branches) : List Branches → Option (List Branches)
  | [] => none
  | [last] => (f last).map fun last => [last]
  | first :: rest => (changeLast? f rest).map (first :: ·)

/-- Go along some keys and change the table there, which is told by its origin.  Tables that are
missing are made on the way. -/
def along? (dotted : Bool) (act : Origin → Branches → Option Branches) :
    List String → Origin → Branches → Option Branches
  | [], origin, branches => act origin branches
  | key :: keys, _, branches =>
    branches.change? key fun
      | none =>
        let origin := if dotted then Origin.dotted else Origin.way
        (along? dotted act keys origin []).map (.table origin)
      | some (.value _) => none
      | some (.tables items) =>
        (changeLast? (along? dotted act keys .header) items).map .tables
      | some (.table origin branches) =>
        if dotted && origin == .header then none
        else (along? dotted act keys origin branches).map (.table origin)

/-- Open the table of a header: a new one, or one that was only on the way of others. -/
def open? (path : List String) (key : String) (root : Branches) : Option Branches :=
  along? false
    (fun _ branches => branches.change? key fun
      | none => some (.table .header [])
      | some (.table .way branches) => some (.table .header branches)
      | some _ => none)
    path .header root

/-- Open another table of a list of tables. -/
def openNext? (path : List String) (key : String) (root : Branches) : Option Branches :=
  along? false
    (fun _ branches => branches.change? key fun
      | none => some (.tables [[]])
      | some (.tables items) => some (.tables (items ++ [[]]))
      | some _ => none)
    path .header root

/-- Put a value under a dotted key of a table.  The key is new, and the tables that it leads through
are its own. -/
def put? (path : List String) (key : String) (v : Setting) (branches : Branches) :
    Option Branches :=
  along? true
    (fun origin branches =>
      if (origin == .dotted) == path.isEmpty then none
      else branches.change? key fun
        | none => some (.value v)
        | some _ => none)
    path .header branches

/-- Put a value under a dotted key of the table at `place`. -/
def putAt? (place path : List String) (key : String) (v : Setting) (root : Branches) :
    Option Branches :=
  along? false (fun _ branches => branches.put? path key v) place .header root

end Branches

end Runbook.Toml
