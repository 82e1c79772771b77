import Runbook.Guard.Expr
import Runbook.Json.Printer

/-!
# Templates

A template is a text with guard expressions between double braces.  Each of them is replaced by
the text of its value; a pair of braces that is never closed stands for itself.

## Main definitions

* `Template.Part`: a literal stretch or an expression
* `Template.ofChars`: the parts of a template
* `Template.render`: a template with its expressions replaced
-/

namespace Runbook.Guard

/-- A stretch of a template. -/
inductive Template.Part where
  | literal (text : List Char)
  | span (expr : List Char)
deriving DecidableEq, Repr

/-- A template, part by part. -/
abbrev Template := List Template.Part

namespace Template

/-- The mark that opens a span. -/
def opening : List Char := ['{', '{']

/-- The mark that closes a span. -/
def closing : List Char := ['}', '}']

/-- The parts of a template text.  A span reaches from the first opening mark to the first closing
mark after it. -/
def ofChars (cs : List Char) : Template :=
  match _ho : Text.cut? opening cs with
  | none => [.literal cs]
  | some (before, rest) =>
    match _hc : Text.cut? closing rest with
    | none => [.literal cs]
    | some (expr, rest) => .literal before :: .span expr :: ofChars rest
termination_by cs.length
decreasing_by
  have h₁ := Text.length_after_lt (by simp [opening]) _ho
  have h₂ := Text.length_after_lt (by simp [closing]) _hc
  omega

/-- The text of one part. -/
def Part.text (context : Json.Object) : Part → List Char
  | .literal text => text
  | .span expr => (evaluate expr context).inline.toList

/-- A template text with its expressions replaced by their values, once and from left to right. -/
def render (text : String) (context : Json.Object) : String :=
  String.ofList ((ofChars text.toList).flatMap (Part.text context))

end Template

end Runbook.Guard
