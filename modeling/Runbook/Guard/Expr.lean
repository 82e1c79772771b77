import Runbook.Guard.Operand
import Runbook.Text.Blank

/-!
# Guard expressions

A guard expression is one operand or a comparison of two expressions.  The written form has no
brackets: the comparison signs are looked for one after the other, longer signs first, and the
first occurrence of the first sign that occurs cuts the text in two.

## Main definitions

* `Comparison`: the eight comparison signs
* `Comparison.holds`: what a comparison says about two values
* `Expr`, `Expr.ofChars`: expressions and their written form
* `Expr.value`: the value of an expression in a context
* `evaluate`, `holds`: the value of a text, and whether it counts as true

## Design notes

Numbers are compared as doubles, so two large integers that round to one double are equal.
Numbers order against numbers and texts against texts; any other pair has no order and every
ordering of it is false.
-/

namespace Runbook.Guard

/-- The comparison signs. -/
inductive Comparison where
  | identical
  | notIdentical
  | atLeast
  | atMost
  | equal
  | notEqual
  | greater
  | less
deriving DecidableEq, Repr

namespace Comparison

/-- The signs in the order in which they are looked for. -/
def all : List Comparison :=
  [identical, notIdentical, atLeast, atMost, equal, notEqual, greater, less]

/-- The written sign. -/
def sign : Comparison → List Char
  | identical => ['=', '=', '=']
  | notIdentical => ['!', '=', '=']
  | atLeast => ['>', '=']
  | atMost => ['<', '=']
  | equal => ['=', '=']
  | notEqual => ['!', '=']
  | greater => ['>']
  | less => ['<']

theorem sign_ne_nil (op : Comparison) : op.sign ≠ [] := by
  cases op <;> simp [sign]

/-- Equality of values: numbers by their doubles, everything else by its structure. -/
def equalValues (a b : Json) : Bool :=
  match a.number?, b.number? with
  | some x, some y => x.cmp y == .eq
  | _, _ => a.same b

/-- The order of two values, if they have one. -/
def order? (a b : Json) : Option Ordering :=
  match a, b with
  | .str s, .str t => some (compareOfLessAndEq s t)
  | _, _ =>
    match a.number?, b.number? with
    | some x, some y => some (x.cmp y)
    | _, _ => none

/-- What a comparison says about two values. -/
def holds (op : Comparison) (a b : Json) : Bool :=
  match op with
  | identical | equal => equalValues a b
  | notIdentical | notEqual => !equalValues a b
  | greater => order? a b == some .gt
  | less => order? a b == some .lt
  | atLeast => order? a b == some .gt || order? a b == some .eq
  | atMost => order? a b == some .lt || order? a b == some .eq

end Comparison

/-- Guard expressions. -/
inductive Expr where
  | operand (o : Operand)
  | compare (op : Comparison) (left right : Expr)
deriving DecidableEq

namespace Expr

/-- The first of some signs that occurs in a text, with the text before and after it. -/
def findSign? : List Comparison → List Char → Option (Comparison × List Char × List Char)
  | [], _ => none
  | op :: ops, cs =>
    match Text.cut? op.sign cs with
    | some (before, after) => some (op, before, after)
    | none => findSign? ops cs

theorem length_of_findSign? {ops : List Comparison} {cs before after : List Char} {op : Comparison}
    (h : findSign? ops cs = some (op, before, after)) :
    before.length < cs.length ∧ after.length < cs.length := by
  induction ops with
  | nil => simp [findSign?] at h
  | cons first rest ih =>
    simp only [findSign?] at h
    split at h
    · rename_i b a hcut
      simp only [Option.some.injEq, Prod.mk.injEq] at h
      obtain ⟨rfl, rfl, rfl⟩ := h
      exact ⟨Text.length_before_lt (Comparison.sign_ne_nil _) hcut,
        Text.length_after_lt (Comparison.sign_ne_nil _) hcut⟩
    · exact ih h

/-- A written expression.  Each side of a sign is shorter than the whole text. -/
def ofChars (cs : List Char) : Expr :=
  match _h : findSign? Comparison.all (Text.trim cs) with
  | some (op, before, after) => compare op (ofChars before) (ofChars after)
  | none => operand (Operand.ofChars (Text.trim cs))
termination_by cs.length
decreasing_by
  · have := (length_of_findSign? _h).1
    have := Text.length_trim_le cs
    omega
  · have := (length_of_findSign? _h).2
    have := Text.length_trim_le cs
    omega

/-- The value of an expression in a context. -/
def value : Expr → Json.Object → Json
  | operand o, context => o.value context
  | compare op left right, context => .bool (op.holds (left.value context) (right.value context))

@[simp] theorem value_operand (o : Operand) (context : Json.Object) :
    (operand o).value context = o.value context := rfl

@[simp] theorem value_compare (op : Comparison) (left right : Expr) (context : Json.Object) :
    (compare op left right).value context =
      .bool (op.holds (left.value context) (right.value context)) := rfl

end Expr

/-- The value of a guard text in a context. -/
def evaluate (text : List Char) (context : Json.Object) : Json :=
  (Expr.ofChars text).value context

/-- Does the value of a guard text count as true? -/
def holds (text : List Char) (context : Json.Object) : Bool := (evaluate text context).truthy

end Runbook.Guard
