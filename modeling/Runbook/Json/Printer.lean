import Runbook.Json.Basic
import Runbook.Number.Notation

/-!
# Compact data text

The text of a data value: no blanks, integers in decimal, doubles by their shortest digits, and
texts in double quotes.  In a quoted text the quote, the backslash and the control characters
below U+0020 are escaped, the common ones by a letter and the others by four hexadecimal digits in
lower case; everything else stands for itself.

## Main definitions

* `Json.quote`: a quoted text
* `Json.compress`: the compact text of a value
-/

namespace Runbook.Json

/-- A hexadecimal digit in lower case. -/
def hexDigit (n : Nat) : Char :=
  if n < 10 then Char.ofNat (48 + n) else Char.ofNat (87 + n)

/-- The written form of one character of a quoted text. -/
def escape (c : Char) : List Char :=
  if c = '"' then ['\\', '"']
  else if c = '\\' then ['\\', '\\']
  else if c = '\n' then ['\\', 'n']
  else if c = '\r' then ['\\', 'r']
  else if c = '\t' then ['\\', 't']
  else if c.toNat = 8 then ['\\', 'b']
  else if c.toNat = 12 then ['\\', 'f']
  else if c.toNat < 0x20 then
    ['\\', 'u', '0', '0', hexDigit (c.toNat / 16), hexDigit (c.toNat % 16)]
  else [c]

/-- A quoted text. -/
def quote (s : String) : List Char := '"' :: (s.toList.flatMap escape ++ ['"'])

/-- An integer in decimal. -/
def writeInt (n : Int) : List Char :=
  if n < 0 then '-' :: (Nat.repr n.natAbs).toList else (Nat.repr n.natAbs).toList

mutual

/-- The characters of the compact text. -/
def write : Json → List Char
  | null => ['n', 'u', 'l', 'l']
  | bool true => ['t', 'r', 'u', 'e']
  | bool false => ['f', 'a', 'l', 's', 'e']
  | int n => writeInt n
  | double x => x.write .compact
  | str s => quote s
  | arr items => '[' :: (writeItems items ++ [']'])
  | obj fields => '\x7b' :: (writeFields fields ++ ['\x7d'])

/-- The items of a list, with commas between them. -/
def writeItems : List Json → List Char
  | [] => []
  | [item] => write item
  | item :: rest => write item ++ ',' :: writeItems rest

/-- The fields of an object, with commas between them. -/
def writeFields : List (String × Json) → List Char
  | [] => []
  | [(k, v)] => quote k ++ ':' :: write v
  | (k, v) :: rest => quote k ++ ':' :: write v ++ ',' :: writeFields rest

end

/-- The compact text of a value. -/
def compress (value : Json) : String := String.ofList value.write

/-- The compact text of an object. -/
def Object.compress (fields : Object) : String := (Json.obj fields).compress

/-- The text of a value in running text: a text is itself, null is empty, and anything else is
its compact text. -/
def inline : Json → String
  | str s => s
  | null => ""
  | value => value.compress

@[simp] theorem inline_str (s : String) : inline (str s) = s := rfl

@[simp] theorem inline_null : inline null = "" := rfl

end Runbook.Json
