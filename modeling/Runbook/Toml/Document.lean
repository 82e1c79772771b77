import Runbook.Toml.Scalar
import Runbook.Toml.Tree

/-!
# TOML documents

A document is a sequence of lines: headers, values under dotted keys, comments, and empty lines.

## Main definitions

* `Toml.key?`: a dotted key
* `Toml.value?`: a value
* `Toml.parse?`: the table of a document
-/

namespace Runbook.Toml

/-! ## Keys -/

/-- The characters of keys without quotes. -/
def isKeyChar (c : Char) : Bool := c.isAlphanum || c == '_' || c == '-'

/-- One part of a key. -/
def part? (cs : List Char) : Option (String × List Char) :=
  match cs with
  | '"' :: rest => Text.doubleQuoted? rest
  | '\'' :: rest => literal? rest
  | cs =>
    let name := cs.takeWhile isKeyChar
    if name.isEmpty then none else some (String.ofList name, cs.drop name.length)

/-- A dotted key: the parts before the last one, and that.  Blanks may stand around each part. -/
def key? : Nat → List Char → Option ((List String × String) × List Char)
  | 0, _ => none
  | fuel + 1, cs => do
    let (first, rest) ← part? (skipBlanks cs)
    match skipBlanks rest with
    | '.' :: rest =>
      let ((path, last), rest) ← key? fuel rest
      return ((first :: path, last), rest)
    | rest => return (([], first), rest)

/-! ## Line ends -/

/-- Skip a comment up to the end of its line. -/
def skipComment (cs : List Char) : List Char :=
  match cs with
  | '#' :: rest => rest.dropWhile Text.isPlain
  | cs => cs

/-- The end of a line with nothing more than a comment on it. -/
def lineRest? (cs : List Char) : Option (List Char) :=
  match skipComment (skipBlanks cs) with
  | [] => some []
  | rest => lineEnd? rest

/-- Skip blanks, comments and line ends.  Each round takes a character, so the length of the text is
fuel enough. -/
def skipSpace : Nat → List Char → List Char
  | 0, cs => cs
  | fuel + 1, cs =>
    match skipComment (skipBlanks cs) with
    | [] => []
    | rest =>
      match lineEnd? rest with
      | some rest => skipSpace fuel rest
      | none => rest

/-! ## Values -/

mutual

/-- A value. -/
def value? : Nat → List Char → Option (Setting × List Char)
  | 0, _ => none
  | fuel + 1, cs =>
    match cs with
    | '[' :: rest =>
      (items? fuel (skipSpace fuel rest)).map fun (items, rest) => (.list items, rest)
    | '{' :: rest =>
      match skipBlanks rest with
      | '}' :: rest => some (.table [], rest)
      | rest => (fields? fuel [] rest).map fun (branches, rest) =>
          (.table (Fields.ofList (settingsOf branches)), rest)
    | 't' :: 'r' :: 'u' :: 'e' :: rest => some (.flag true, rest)
    | 'f' :: 'a' :: 'l' :: 's' :: 'e' :: rest => some (.flag false, rest)
    | cs =>
      match string? cs with
      | some (s, rest) => some (.text s, rest)
      | none => (date? cs).or ((real? cs).or (integer? cs))

/-- The items of a list, from after its bracket; the last one may be followed by a comma. -/
def items? : Nat → List Char → Option (List Setting × List Char)
  | 0, _ => none
  | fuel + 1, cs =>
    match cs with
    | ']' :: rest => some ([], rest)
    | cs => do
      let (item, rest) ← value? fuel cs
      match skipSpace fuel rest with
      | ',' :: rest =>
        let (items, rest) ← items? fuel (skipSpace fuel rest)
        return (item :: items, rest)
      | ']' :: rest => return ([item], rest)
      | _ => none

/-- The fields of a table on one line, from after its brace. -/
def fields? : Nat → Branches → List Char → Option (Branches × List Char)
  | 0, _, _ => none
  | fuel + 1, branches, cs => do
    let ((path, last), rest) ← key? fuel cs
    match rest with
    | '=' :: rest =>
      let (v, rest) ← value? fuel (skipBlanks rest)
      let branches ← branches.put? path last v
      match skipBlanks rest with
      | ',' :: rest => fields? fuel branches rest
      | '}' :: rest => return (branches, rest)
      | _ => none
    | _ => none

end

/-! ## Lines -/

/-- What is read so far: the tree, and the table that was opened last. -/
structure Reader where
  root : Branches
  place : List String

/-- A header, from after its first bracket. -/
def header? (fuel : Nat) (r : Reader) (cs : List Char) : Option (Reader × List Char) := do
  match cs with
  | '[' :: rest =>
    let ((path, last), rest) ← key? fuel rest
    match rest with
    | ']' :: ']' :: rest => return (⟨← r.root.openNext? path last, path ++ [last]⟩, rest)
    | _ => none
  | cs =>
    let ((path, last), rest) ← key? fuel cs
    match rest with
    | ']' :: rest => return (⟨← r.root.open? path last, path ++ [last]⟩, rest)
    | _ => none

/-- A value under a key. -/
def entry? (fuel : Nat) (r : Reader) (cs : List Char) : Option (Reader × List Char) := do
  let ((path, last), rest) ← key? fuel cs
  match rest with
  | '=' :: rest =>
    let (v, rest) ← value? fuel (skipBlanks rest)
    return (⟨← r.root.putAt? r.place path last v, r.place⟩, rest)
  | _ => none

/-- Read lines.  Each round takes a character, so the length of the text is fuel enough. -/
def lines? (size : Nat) : Nat → Reader → List Char → Option Branches
  | 0, _, _ => none
  | fuel + 1, r, cs =>
    match skipBlanks cs with
    | [] => some r.root
    | c :: rest =>
      if c == '#' || c == '\n' || c == '\r' then
        (lineRest? (c :: rest)).bind (lines? size fuel r)
      else do
        let (r, rest) ← if c == '[' then header? size r rest else entry? size r (c :: rest)
        lines? size fuel r (← lineRest? rest)

/-- The table of a document. -/
def parse? (text : String) : Option (Fields Setting) :=
  let cs :=
    match text.toList with
    | '\uFEFF' :: rest => rest
    | cs => cs
  (lines? (cs.length + 1) (cs.length + 1) ⟨[], []⟩ cs).map fun root =>
    Fields.ofList (settingsOf root)

end Runbook.Toml
