import Runbook.Guard.Expr

/-!
# Kinds of guards

Who decides a guard: a hook that the guard names, the evaluator, or someone outside.

## Main definitions

* `Kind`: the three ways of deciding
* `Kind.ofChars`: the kind of a guard text
-/

namespace Runbook.Guard

/-- Who decides a guard. -/
inductive Kind where
  /-- The hook that the guard names after an `@`. -/
  | capability
  /-- The evaluator. -/
  | expression
  /-- Someone outside. -/
  | deferred
deriving DecidableEq, Repr

namespace Kind

/-- Word characters and points, and possibly one place in brackets at the very end. -/
def isPlainPath (cs : List Char) : Bool :=
  let inName (c : Char) := Text.isWordChar c || c == '.'
  !(cs.takeWhile inName).isEmpty &&
    ((cs.dropWhile inName).isEmpty || (Segment.place? (cs.dropWhile inName)).isSome)

/-- The kind of a guard text: `@` names a hook, a comparison sign or a plain path is for the
evaluator, and any other text is left to someone outside. -/
def ofChars (text : List Char) : Kind :=
  let cs := Text.trim text
  if cs.head? = some '@' then capability
  else if Comparison.all.any (fun op => Text.occurs op.sign cs) || isPlainPath cs then expression
  else deferred

/-- The name of a kind. -/
def name : Kind → String
  | capability => "capability"
  | expression => "expression"
  | deferred => "deferred"

end Kind

end Runbook.Guard
