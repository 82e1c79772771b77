import Runbook.Number.Digits
import Runbook.Yaml.Token
import Runbook.Yaml.Token.Cursor

/-!
# Properties and directives

The parts of a document text that start with `&`, `*`, `!` or `%`: anchors and aliases, tags, and
directives.

## Main definitions

* `Cursor.name?`: the name of an anchor or an alias
* `Cursor.tag?`: a tag
* `Cursor.directive?`: a directive
-/

namespace Runbook.Yaml.Cursor

/-- Read the name of an anchor or an alias from after its mark. -/
def name? (c : Cursor) : Option (List Char × Cursor) :=
  let (name, c) := c.takeWhile isNameChar
  let ends := endsWord c.rest ||
    (match c.rest with
      | ch :: _ => ['?', ':', ',', ']', '}', '%', '@', Char.ofNat 0x60].contains ch
      | [] => true)
  if name.isEmpty || !ends then none else some (name, c)

/-- Characters that a tag may hold besides names and escapes. -/
def isTagChar (wide : Bool) (c : Char) : Bool :=
  isNameChar c ||
    [';', '/', '?', ':', '@', '&', '=', '+', '$', '.', '!', '~', '*', '\'', '(', ')'].contains c ||
    (wide && (c == ',' || c == '[' || c == ']'))

/-- Read one escaped octet: a percent sign and two hexadecimal digits. -/
def octet? : List Char → Option (Nat × List Char)
  | '%' :: a :: b :: rest => do some ((← hexValue? a) * 16 + (← hexValue? b), rest)
  | _ => none

/-- Read some octets that continue a character. -/
def continuation? : Nat → Nat → List Char → Option (Nat × List Char)
  | 0, code, cs => some (code, cs)
  | n + 1, code, cs => do
    let (o, rest) ← octet? cs
    if o / 64 = 2 then continuation? n (code * 64 + o % 64) rest else none

/-- Read an escaped character: its UTF-8 octets, each escaped. -/
def octets? (cs : List Char) : Option (Char × List Char) := do
  let (o, rest) ← octet? cs
  let (code, rest) ←
    if o < 0x80 then some (o, rest)
    else if o / 32 = 6 then continuation? 1 (o % 32) rest
    else if o / 16 = 14 then continuation? 2 (o % 16) rest
    else if o / 8 = 30 then continuation? 3 (o % 8) rest
    else none
  if code.isValidChar then some (Char.ofNat code, rest) else none

/-- Read the characters of a tag; `done` holds those so far, last first. -/
def tagText? (wide : Bool) : Nat → List Char → Cursor → Option (List Char × Cursor)
  | 0, done, c => some (done.reverse, c)
  | fuel + 1, done, c =>
    match c.rest with
    | '%' :: _ =>
      match octets? c.rest with
      | some (ch, rest) =>
        tagText? wide fuel (ch :: done) (c.skipMany (c.rest.length - rest.length))
      | none => none
    | ch :: _ =>
      if isTagChar wide ch then tagText? wide fuel (ch :: done) c.skip else some (done.reverse, c)
    | [] => some (done.reverse, c)

/-- Read the characters of a tag, which may only be missing after a handle of one character. -/
def tagSuffix? (wide : Bool) (head : List Char) (c : Cursor) : Option (List Char × Cursor) := do
  let (suffix, c) ← tagText? wide (c.rest.length + 1) (head.drop 1).reverse c
  if suffix.isEmpty && head.isEmpty then none else some (suffix, c)

/-- Read the handle of a tag: `!`, a name, and another `!` if there is one.  In a directive a name
needs the second mark. -/
def tagHandle? (directive : Bool) (c : Cursor) : Option (List Char × Cursor) :=
  match c.rest with
  | '!' :: _ =>
    let (name, c) := c.skip.takeWhile isNameChar
    match c.rest with
    | '!' :: _ => some ('!' :: name ++ ['!'], c.skip)
    | _ => if directive && !name.isEmpty then none else some ('!' :: name, c)
  | _ => none

/-- Read a tag: verbatim in angle brackets, with a named handle, or with the handle `!`.  A lone
`!` has no handle. -/
def tag? (flow : Bool) (c : Cursor) : Option (Token × Cursor) := do
  let (token, c) ←
    match c.rest with
    | '!' :: '<' :: _ =>
      (tagSuffix? true [] (c.skipMany 2)).bind fun (suffix, c) =>
        match c.rest with
        | '>' :: _ => some (Token.tag [] suffix, c.skip)
        | _ => none
    | _ =>
      (tagHandle? false c).bind fun (handle, c) =>
        if 1 < handle.length && handle.getLast? == some '!' then
          (tagSuffix? false [] c).map fun (suffix, c) => (Token.tag handle suffix, c)
        else
          (tagSuffix? false handle c).map fun (suffix, c) =>
            (if suffix.isEmpty then Token.tag [] ['!'] else Token.tag ['!'] suffix, c)
  let comma := match c.rest with
    | ',' :: _ => flow
    | _ => false
  if comma || endsWord c.rest then some (token, c) else none

/-- Read a number of at most nine digits. -/
def shortNumber? (c : Cursor) : Option (Nat × Cursor) :=
  let (digits, c) := c.takeWhile Char.isDigit
  if digits.isEmpty || 9 < digits.length then none else some (digitsValue digits, c)

/-- Read a directive with the rest of its line: a version, or a handle for tags. -/
def directive? (c : Cursor) : Option (Token × Cursor) := do
  let (name, c) := c.skip.takeWhile isNameChar
  if !endsWord c.rest then none
  let (token, c) ←
    if name = ['Y', 'A', 'M', 'L'] then
      (shortNumber? (c.skipWhile isGap)).bind fun (major, c) =>
        match c.rest with
        | '.' :: _ => (shortNumber? c.skip).map fun (minor, c) => (Token.version major minor, c)
        | _ => none
    else if name = ['T', 'A', 'G'] then
      (tagHandle? true (c.skipWhile isGap)).bind fun (handle, c) =>
        if !startsGap c.rest then none
        else
          (tagSuffix? true [] (c.skipWhile isGap)).bind fun (stem, c) =>
            if endsWord c.rest then some (Token.tagHandle handle stem, c) else none
    else none
  let c := c.skipRemark
  if endsLine c.rest then some (token, c.skipBreak) else none

end Runbook.Yaml.Cursor
