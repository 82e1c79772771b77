/-!
# Names of a fixed set

Several domain types are written by name.  A text that is none of the names is refused with the
same wording everywhere.

## Main definitions

* `UnknownName`: a text that names nothing of its kind
-/

namespace Runbook

/-- A text that names nothing of its kind. -/
structure UnknownName where
  /-- What should have been named. -/
  subject : String
  /-- The text. -/
  text : String
deriving DecidableEq, Repr

namespace UnknownName

/-- The wording of the refusal. -/
def message (u : UnknownName) : String := "unknown " ++ u.subject ++ " '" ++ u.text ++ "'"

end UnknownName

end Runbook
