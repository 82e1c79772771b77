import Runbook.Glob.Reader

/-!
# Edit policies

What may be done to a file while a step is active: globs with a verdict each, tried in order, and a
verdict for all other files.

## Main definitions

* `Verdict`: silent, warn or block
* `EditPolicy`: globs with verdicts
* `EditPolicy.decide`: the verdict on a path
-/

namespace Runbook

/-- What is said to the edit of a file. -/
inductive Verdict where
  | silent
  | warn
  | block
deriving DecidableEq, Repr, Inhabited

namespace Verdict

/-- All of them. -/
def all : List Verdict := [silent, warn, block]

/-- The written name of a verdict. -/
def name : Verdict → String
  | silent => "silent"
  | warn => "warn"
  | block => "block"

/-- The verdict with the given name. -/
def ofName? (name : String) : Option Verdict := all.find? (fun v => v.name == name)

@[simp] theorem ofName?_name (v : Verdict) : ofName? v.name = some v := by
  cases v <;> rfl

end Verdict

/-- A glob with the verdict on the files it matches. -/
structure EditRule where
  /-- The written glob. -/
  glob : String
  /-- The verdict. -/
  verdict : Verdict
deriving DecidableEq, Repr

/-- Rules in the order in which they are tried, and the verdict on all other files. -/
structure EditPolicy where
  /-- The verdict on a file that no rule matches. -/
  otherwise : Verdict := .silent
  /-- The rules. -/
  rules : List EditRule := []
deriving DecidableEq, Repr

namespace EditPolicy

/-- The verdict of the first rule whose glob matches the path.  A rule with an invalid glob matches
nothing. -/
def decide (policy : EditPolicy) (path : String) : Verdict :=
  match policy.rules.find? fun rule => Glob.matchesPath rule.glob path with
  | some rule => rule.verdict
  | none => policy.otherwise

@[simp] theorem decide_no_rules (otherwise : Verdict) (path : String) :
    (EditPolicy.mk otherwise []).decide path = otherwise := rfl

end EditPolicy

end Runbook
