import Runbook.Config.Setting
import Runbook.Run.Limits

/-!
# Configuration

Where the store is, and the limits of runs.

## Main definitions

* `StoreConfig`: where the store is and how it is opened
* `Config`: the whole configuration
* `Config.ofSetting?`: the configuration that a setting writes
* `Config.toSetting`: the setting that writes a configuration
* `Config.warnings`: values that are allowed but hardly meant

## Design notes

A configuration is written as a record: a table with fields of fixed names, or a list of its fields
in their order.  Fields that are missing have their usual values, and unknown ones do not matter.
-/

namespace Runbook

-- The core library's powers, also where another library declares powers of its own.
attribute [local instance (high)] instPowNat

/-- Where the store is and how it is opened. -/
structure StoreConfig where
  /-- The file. -/
  path : Option String := none
  /-- Is the journal written ahead? -/
  wal : Bool := true
deriving DecidableEq, Repr, Inhabited

/-- The whole configuration. -/
structure Config where
  store : StoreConfig := {}
  limits : Limits := {}
deriving DecidableEq, Repr, Inhabited

namespace Setting

/-- The fields of a record.  A list is one if it has no more items than there are fields, or if more
of them are let pass. -/
def record? (surplus : Bool) (names : List String) : Setting → Option (List (Option Setting))
  | table fields => some (names.map (Fields.get? fields))
  | list items =>
    if surplus || items.length ≤ names.length then
      some (names.zipIdx.map fun name => items[name.2]?)
    else none
  | _ => none

/-- A truth value. -/
def flag? : Setting → Option Bool
  | flag b => some b
  | _ => none

/-- A text, or nothing. -/
def optionalText? : Setting → Option (Option String)
  | nothing => some none
  | text s => some (some s)
  | _ => none

/-- A number that counts something and fits 64 bits. -/
def count? : Setting → Option Nat
  | number n => if 0 ≤ n ∧ n < 2 ^ (64 : Nat) then some n.toNat else none
  | _ => none

/-- A field, or the value that it has if it is missing. -/
def fieldOr {α : Type} (otherwise : α) (read? : Setting → Option α) : Option Setting → Option α
  | none => some otherwise
  | some value => read? value

end Setting

namespace StoreConfig

/-- The names of the fields. -/
def fieldNames : List String := ["path", "wal"]

/-- The store configuration that a setting writes. -/
def ofSetting? (surplus : Bool) (value : Setting) : Option StoreConfig := do
  match ← value.record? surplus fieldNames with
  | [path, wal] =>
    some
      { path := ← Setting.fieldOr none Setting.optionalText? path
        wal := ← Setting.fieldOr true Setting.flag? wal }
  | _ => none

/-- The setting that writes a store configuration. -/
def toSetting (c : StoreConfig) : Setting :=
  .table ((c.path.map fun path => ("path", .text path)).toList ++ [("wal", .flag c.wal)])

end StoreConfig

namespace Limits

/-- The names of the fields. -/
def fieldNames : List String := ["max_auto_steps", "back_scan_limit", "default_history_limit"]

/-- The limits that a setting writes. -/
def ofSetting? (surplus : Bool) (value : Setting) : Option Limits := do
  match ← value.record? surplus fieldNames with
  | [autoSteps, backScan, history] =>
    let usual : Limits := {}
    some
      { autoSteps := ← Setting.fieldOr usual.autoSteps Setting.count? autoSteps
        backScan := ← Setting.fieldOr usual.backScan Setting.count? backScan
        history := ← Setting.fieldOr usual.history Setting.count? history }
  | _ => none

/-- The setting that writes limits. -/
def toSetting (l : Limits) : Setting :=
  .table [("back_scan_limit", .number l.backScan), ("default_history_limit", .number l.history),
    ("max_auto_steps", .number l.autoSteps)]

/-- What is hardly meant. -/
def warnings (l : Limits) : List String :=
  (if l.autoSteps = 0 then
    ["executor.max_auto_steps is 0; automatic steps will never advance"] else [])
  ++ (if l.backScan = 0 then ["executor.back_scan_limit is 0; back will always fail"] else [])
  ++ (if l.history = 0 then
    ["executor.default_history_limit is 0; history queries return nothing by default"] else [])

end Limits

namespace Config

/-- The names of the fields. -/
def fieldNames : List String := ["store", "executor"]

/-- The configuration that a setting writes. -/
def ofSetting? (surplus : Bool) (value : Setting) : Option Config := do
  match ← value.record? surplus fieldNames with
  | [store, limits] =>
    some
      { store := ← Setting.fieldOr {} (StoreConfig.ofSetting? surplus) store
        limits := ← Setting.fieldOr {} (Limits.ofSetting? surplus) limits }
  | _ => none

/-- The configuration that a data value writes. -/
def ofJson? (value : Json) : Option Config := ofSetting? false (.ofJson value)

/-- The setting that writes a configuration. -/
def toSetting (c : Config) : Setting :=
  .table [("executor", c.limits.toSetting), ("store", c.store.toSetting)]

/-- What is hardly meant. -/
def warnings (c : Config) : List String :=
  c.limits.warnings
  ++ (if c.store.path = some "" then
    ["store.path is empty; the default location will be used"] else [])

end Config

end Runbook
