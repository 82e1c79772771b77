/-!
# Bytes of a text

The UTF-8 form of a text, for what is matched byte by byte.

## Main definitions

* `utf8`: the bytes of a character
* `bytes`: the bytes of a text
-/

namespace Runbook.Text

/-- The bytes of a character: one below U+0080, then two, three, and four from U+10000 on. -/
def utf8 (c : Char) : List Nat :=
  let n := c.toNat
  if n < 0x80 then [n]
  else if n < 0x800 then [0xc0 + n / 0x40, 0x80 + n % 0x40]
  else if n < 0x10000 then [0xe0 + n / 0x1000, 0x80 + n / 0x40 % 0x40, 0x80 + n % 0x40]
  else
    [0xf0 + n / 0x40000, 0x80 + n / 0x1000 % 0x40, 0x80 + n / 0x40 % 0x40, 0x80 + n % 0x40]

/-- The bytes of a text. -/
def bytes (cs : List Char) : List Nat := cs.flatMap utf8

end Runbook.Text
