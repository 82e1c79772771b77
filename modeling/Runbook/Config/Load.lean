import Runbook.Config.Basic
import Runbook.Config.Variable
import Runbook.Toml.Document

/-!
# Loading the configuration

The configuration comes in layers: the usual values, the file of the user, the file of the
workspace, environment variables, and what the caller wants.  Each layer is laid over the ones
before.

## Main definitions

* `ConfigFault`: why there is no configuration
* `Config.ofLayers?`: the configuration of some layers
* `Config.load`: the configuration of all sources
* `Config.loadFile`: the configuration of one file
-/

namespace Runbook

/-- Why there is no configuration. -/
inductive ConfigFault where
  /-- A file is missing. -/
  | fileNotFound (path : String)
  /-- A source is not readable, or a value is of the wrong kind. -/
  | unreadable
  /-- The store cannot be opened. -/
  | store (path : String)
deriving DecidableEq, Repr

namespace ConfigFault

/-- The wording of a fault. -/
def message : ConfigFault → String
  | fileNotFound path => "Configuration file not found: " ++ path
  | unreadable => "Configuration parse error: <settings>"
  | store path => "Invalid configuration: cannot open store at " ++ path

end ConfigFault

/-- Where the configuration comes from. -/
structure Sources where
  /-- The text of the file of the user. -/
  user : Option String := none
  /-- The text of the file of the workspace. -/
  workspace : Option String := none
  /-- The environment. -/
  environment : List Variable := []
  /-- What the caller wants. -/
  overrides : Option Config := none

namespace Config

/-- The configuration of some layers over the usual values, the lowest one first. -/
def ofLayers? (layers : List Setting) : Option Config :=
  ofSetting? true (layers.foldl (fun lower upper => upper.onto lower) (Config.toSetting {}))

/-- The layer of a file. -/
def fileLayer? (text : String) : Option Setting := (Toml.parse? text).map .table

/-- The layer of a file that may be missing. -/
def fileLayers? (text : Option String) : Option (List Setting) :=
  text.toList.mapM fileLayer?

/-- The layers of all sources, the lowest one first. -/
def layers? (s : Sources) : Option (List Setting) := do
  let user ← fileLayers? s.user
  let workspace ← fileLayers? s.workspace
  return user ++ workspace ++ [Variable.settings s.environment]
    ++ (s.overrides.map toSetting).toList

/-- The configuration of all sources. -/
def load (s : Sources) : Except ConfigFault Config :=
  match (layers? s).bind ofLayers? with
  | some config => .ok config
  | none => .error .unreadable

/-- The configuration of one file over the usual values. -/
def loadFile (path : String) (text : Option String) : Except ConfigFault Config :=
  match text with
  | none => .error (.fileNotFound path)
  | some text => load { workspace := some text }

end Config

end Runbook
