import Runbook.Number.Digits

/-!
# Texts in double quotes

A text on one line in double quotes.  A backslash starts a character that cannot stand for itself;
characters can also be written by their numbers.

## Main definitions

* `Text.isPlain`: the characters that stand for themselves
* `Text.escaped?`: a character that is written with a backslash
* `Text.doubleQuoted?`: a text in double quotes
-/

namespace Runbook.Text

/-- The characters that stand for themselves: all but control characters, and the tab. -/
def isPlain (c : Char) : Bool := c == '\t' || (32 ≤ c.toNat && c.toNat != 127)

/-- A character written by its number, in some hexadecimal digits. -/
def numbered? (width : Nat) (cs : List Char) : Option (Char × List Char) := do
  if cs.length < width then none
  let n ← digitsIn? 16 (cs.take width)
  if h : n.isValidChar then some (Char.ofNatAux n h, cs.drop width) else none

/-- A character written with a backslash, from after it. -/
def escaped? : List Char → Option (Char × List Char)
  | 'b' :: rest => some ('\x08', rest)
  | 't' :: rest => some ('\t', rest)
  | 'n' :: rest => some ('\n', rest)
  | 'f' :: rest => some ('\x0c', rest)
  | 'r' :: rest => some ('\r', rest)
  | '"' :: rest => some ('"', rest)
  | '\\' :: rest => some ('\\', rest)
  | 'u' :: rest => numbered? 4 rest
  | 'U' :: rest => numbered? 8 rest
  | _ => none

/-- A text in double quotes, from after the first one; `read` is what was read, backwards.  Each
round takes a character. -/
def doubleQuotedFrom? : Nat → List Char → List Char → Option (String × List Char)
  | 0, _, _ => none
  | _, _, [] => none
  | _ + 1, read, '"' :: rest => some (String.ofList read.reverse, rest)
  | fuel + 1, read, '\\' :: rest =>
    (escaped? rest).bind fun (c, rest) => doubleQuotedFrom? fuel (c :: read) rest
  | fuel + 1, read, c :: rest => if isPlain c then doubleQuotedFrom? fuel (c :: read) rest else none

/-- A text in double quotes, from after the first one. -/
def doubleQuoted? (cs : List Char) : Option (String × List Char) :=
  doubleQuotedFrom? (cs.length + 1) [] cs

end Runbook.Text
