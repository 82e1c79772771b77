import Runbook.Text.Hidden

/-!
# Quoted texts for people

A text in double quotes, written so that every character of it can be seen.  The quote and the
backslash have a backslash in front; the common controls are written by a letter; every other
character without a visible shape of its own is written by its code point.

## Main definitions

* `visible`: the written form of one character
* `quoteVisibly`: a quoted text
-/

namespace Runbook.Text

/-- The written form of one character. -/
def visible (c : Char) : List Char :=
  if c = '"' then ['\\', '"']
  else if c = '\\' then ['\\', '\\']
  else if c = '\n' then ['\\', 'n']
  else if c = '\r' then ['\\', 'r']
  else if c = '\t' then ['\\', 't']
  else if c.toNat = 0 then ['\\', '0']
  else if isHidden c then '\\' :: 'u' :: '{' :: (Nat.toDigits 16 c.toNat ++ ['}'])
  else [c]

/-- A text in double quotes in which every character can be seen. -/
def quoteVisibly (s : String) : String :=
  String.ofList ('"' :: (s.toList.flatMap visible ++ ['"']))

end Runbook.Text
