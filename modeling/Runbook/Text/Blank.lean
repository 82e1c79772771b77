/-!
# Blanks

The characters that are stripped from both ends of a text: the Unicode property White_Space, which
has twenty five members.

## Main definitions

* `isBlank`: membership
* `trim`: a text without the blanks at both ends
-/

namespace Runbook.Text

/-- White space: the ASCII controls from tab to carriage return, the blank, and the wider spaces
and separators. -/
def isBlank (c : Char) : Bool :=
  let n := c.toNat
  (9 ≤ n && n ≤ 13) || n == 0x20 || n == 0x85 || n == 0xa0 || n == 0x1680
    || (0x2000 ≤ n && n ≤ 0x200a) || n == 0x2028 || n == 0x2029 || n == 0x202f || n == 0x205f
    || n == 0x3000

/-- A text without its leading blanks. -/
def trimStart (cs : List Char) : List Char := cs.dropWhile isBlank

/-- A text without its trailing blanks. -/
def trimEnd (cs : List Char) : List Char := (cs.reverse.dropWhile isBlank).reverse

/-- A text without the blanks at both ends. -/
def trim (cs : List Char) : List Char := trimEnd (trimStart cs)

theorem length_dropWhile_le (p : Char → Bool) (cs : List Char) :
    (cs.dropWhile p).length ≤ cs.length :=
  (List.dropWhile_sublist p).length_le

/-- Trimming never lengthens a text. -/
theorem length_trim_le (cs : List Char) : (trim cs).length ≤ cs.length := by
  have h := length_dropWhile_le isBlank (cs.dropWhile isBlank).reverse
  have h' := length_dropWhile_le isBlank cs
  simp only [trim, trimEnd, trimStart, List.length_reverse] at *
  omega

@[simp] theorem trim_nil : trim [] = [] := rfl

end Runbook.Text
