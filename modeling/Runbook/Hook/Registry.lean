import Runbook.Data.Dict
import Runbook.Hook.Basic

/-!
# Registry of hooks

The hooks that are known, by name.

## Main definitions

* `Registry`: hooks by name
* `Registry.register`: add a hook under a new name
* `Registry.ofHooks`: the registry of a list of hooks
* `Registry.names`: the names in order
-/

namespace Runbook

/-- Hooks by name. -/
abbrev Registry := Dict Hook

/-- A hook of this name is already there. -/
structure AlreadyRegistered where
  /-- The name. -/
  name : String
deriving DecidableEq, Repr

namespace AlreadyRegistered

/-- The wording of the refusal. -/
def message (e : AlreadyRegistered) : String := "Capability hook already registered: " ++ e.name

end AlreadyRegistered

namespace Registry

/-- The hook of a name. -/
def hook? (registry : Registry) (name : String) : Option Hook := registry.get? name

/-- Add a hook, unless there is one of its name. -/
def register (registry : Registry) (hook : Hook) : Except AlreadyRegistered Registry :=
  if registry.contains hook.name then .error ⟨hook.name⟩ else .ok (registry.insert hook.name hook)

/-- The registry of a list of hooks; of two hooks of one name the later one stays. -/
def ofHooks (hooks : List Hook) : Registry := Dict.ofList (hooks.map fun hook => (hook.name, hook))

/-- Put a name into a list in order. -/
def insertName (name : String) : List String → List String
  | [] => [name]
  | n :: rest => if name ≤ n then name :: n :: rest else n :: insertName name rest

/-- The names of the hooks in order. -/
def names (registry : Registry) : List String := registry.keys.foldr insertName []

end Registry

end Runbook
