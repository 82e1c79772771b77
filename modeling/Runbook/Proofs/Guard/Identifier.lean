import Runbook.Proofs.Guard.Path

/-!
# Identifiers

A guard that is a bare identifier is the simplest one there is: a path of one key, without a place,
whose value is that of the field of its name.

## Main definitions

* `Guard.Identifier`: texts of word characters that are no literals

## Main statements

* `Guard.evaluate_identifier`: the value of an identifier is that of the field of its name
-/

namespace Runbook.Guard

/-- A text of word characters that is no literal. -/
structure Identifier (text : String) : Prop where
  /-- There is a character. -/
  nonempty : text ≠ ""
  /-- All characters are word characters. -/
  word : ∀ c ∈ text.toList, Text.isWordChar c = true
  /-- The text is no literal. -/
  free : Operand.literal? text.toList = none

namespace Identifier

variable {text : String}

/-- An identifier is a path of one key. -/
def path (identifier : Identifier text) : Path where
  first :=
    { name := text.toList
      digits := none
      word := ⟨fun none => identifier.nonempty (String.toList_eq_nil_iff.1 none), identifier.word⟩
      number := fun _ none => by cases none }
  rest := []

theorem text_path (identifier : Identifier text) : identifier.path.text = text.toList := by
  rw [Path.text, Path.keys, path]
  exact List.append_nil _

end Identifier

/-- **The value of an identifier** is that of the field of its name. -/
theorem evaluate_identifier {text : String} (identifier : Identifier text)
    (context : Json.Object) : evaluate text.toList context = (context.get? text).getD .null := by
  have walked := identifier.path.evaluate_eq
    (by rw [identifier.text_path, identifier.free]) context
  rw [identifier.text_path] at walked
  rw [walked]
  show (((context.get? (String.ofList text.toList)).bind (Address.walk? []))).getD .null = _
  rw [String.ofList_toList]
  cases context.get? text <;> rfl

end Runbook.Guard
