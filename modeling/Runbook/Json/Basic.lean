import Runbook.Data.Fields
import Runbook.Number.Double

/-!
# Data values

The values that payloads, contexts and documents are made of: null, booleans, numbers, texts,
lists and objects.  A number is an integer or a double; the two are different values even when
they are numerically equal.

## Main definitions

* `Json`: data values
* `Json.truthy`: does a value count as true?
* `Json.same`: equality of values, by which the two zeros are equal
* `Json.number?`: the double nearest to a number
-/

namespace Runbook

/-- Data values. -/
inductive Json where
  | null
  | bool (b : Bool)
  | int (n : Int)
  | double (x : Double)
  | str (s : String)
  | arr (items : List Json)
  | obj (fields : List (String × Json))
deriving Repr, Inhabited

namespace Json

/-- The fields of an object. -/
abbrev Object := Fields Json

/-- Null, false, zero, and empty texts, lists and objects are false; all else is true. -/
def truthy : Json → Bool
  | null => false
  | bool b => b
  | int n => n != 0
  | double x => !x.isZero
  | str s => s != ""
  | arr items => !items.isEmpty
  | obj fields => !fields.isEmpty

/-- The double nearest to a number. -/
def number? : Json → Option Double
  | int n => some (.ofInt n)
  | double x => some x
  | _ => none

/-- The text of a text. -/
def str? : Json → Option String
  | str s => some s
  | _ => none

/-- The items of a list. -/
def arr? : Json → Option (List Json)
  | arr items => some items
  | _ => none

/-- The fields of an object. -/
def obj? : Json → Option Object
  | obj fields => some fields
  | _ => none

mutual

/-- Equality of values.  Doubles are compared by value, so the two zeros are equal; an integer and
a double are never equal here. -/
def same : Json → Json → Bool
  | null, null => true
  | bool a, bool b => a == b
  | int a, int b => a == b
  | double a, double b => a.cmp b == .eq
  | str a, str b => a == b
  | arr a, arr b => sameItems a b
  | obj a, obj b => sameFields a b
  | _, _ => false

/-- Equality of lists, item by item. -/
def sameItems : List Json → List Json → Bool
  | [], [] => true
  | a :: as, b :: bs => same a b && sameItems as bs
  | _, _ => false

/-- Equality of objects, field by field. -/
def sameFields : List (String × Json) → List (String × Json) → Bool
  | [], [] => true
  | (k, a) :: as, (l, b) :: bs => k == l && same a b && sameFields as bs
  | _, _ => false

end

mutual

/-- Structural equality is decidable, by the shape of both values. -/
def decEq : (a b : Json) → Decidable (a = b)
  | null, null => isTrue rfl
  | bool a, bool b => if h : a = b then isTrue (h ▸ rfl) else isFalse (fun e => h (bool.inj e))
  | int a, int b => if h : a = b then isTrue (h ▸ rfl) else isFalse (fun e => h (int.inj e))
  | double a, double b =>
    if h : a = b then isTrue (h ▸ rfl) else isFalse (fun e => h (double.inj e))
  | str a, str b => if h : a = b then isTrue (h ▸ rfl) else isFalse (fun e => h (str.inj e))
  | arr a, arr b =>
    match decEqItems a b with
    | isTrue h => isTrue (h ▸ rfl)
    | isFalse h => isFalse (fun e => h (arr.inj e))
  | obj a, obj b =>
    match decEqFields a b with
    | isTrue h => isTrue (h ▸ rfl)
    | isFalse h => isFalse (fun e => h (obj.inj e))
  | null, bool _ | null, int _ | null, double _ | null, str _ | null, arr _ | null, obj _
  | bool _, null | bool _, int _ | bool _, double _ | bool _, str _ | bool _, arr _ | bool _, obj _
  | int _, null | int _, bool _ | int _, double _ | int _, str _ | int _, arr _ | int _, obj _
  | double _, null | double _, bool _ | double _, int _ | double _, str _ | double _, arr _
  | double _, obj _
  | str _, null | str _, bool _ | str _, int _ | str _, double _ | str _, arr _ | str _, obj _
  | arr _, null | arr _, bool _ | arr _, int _ | arr _, double _ | arr _, str _ | arr _, obj _
  | obj _, null | obj _, bool _ | obj _, int _ | obj _, double _ | obj _, str _ | obj _, arr _ =>
    isFalse (fun e => nomatch e)

/-- Decidable equality of lists of values. -/
def decEqItems : (a b : List Json) → Decidable (a = b)
  | [], [] => isTrue rfl
  | [], _ :: _ | _ :: _, [] => isFalse (fun e => nomatch e)
  | a :: as, b :: bs =>
    match decEq a b, decEqItems as bs with
    | isTrue h, isTrue t => isTrue (h ▸ t ▸ rfl)
    | isFalse h, _ => isFalse (fun e => h (List.cons.inj e).1)
    | _, isFalse t => isFalse (fun e => t (List.cons.inj e).2)

/-- Decidable equality of lists of fields. -/
def decEqFields : (a b : List (String × Json)) → Decidable (a = b)
  | [], [] => isTrue rfl
  | [], _ :: _ | _ :: _, [] => isFalse (fun e => nomatch e)
  | (k, a) :: as, (l, b) :: bs =>
    if hk : k = l then
      match decEq a b, decEqFields as bs with
      | isTrue h, isTrue t => isTrue (hk ▸ h ▸ t ▸ rfl)
      | isFalse h, _ => isFalse (fun e => h (Prod.mk.inj (List.cons.inj e).1).2)
      | _, isFalse t => isFalse (fun e => t (List.cons.inj e).2)
    else isFalse (fun e => hk (Prod.mk.inj (List.cons.inj e).1).1)

end

instance : DecidableEq Json := decEq

@[simp] theorem truthy_null : truthy null = false := rfl

@[simp] theorem truthy_bool (b : Bool) : truthy (bool b) = b := rfl

end Json

end Runbook
