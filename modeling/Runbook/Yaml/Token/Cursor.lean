/-!
# A place in a document text

The characters that remain to be read, with the place they start at.  Columns count characters
since the last line break; a carriage return with a line feed is one break.

## Main definitions

* `Cursor`: the rest of a text and where it starts
* `Cursor.skip`, `Cursor.skipBreak`, `Cursor.takeBreak`, `Cursor.skipWhile`
* `isBreak`, `isGap`, `endsWord`: the classes of characters that structure a document
-/

namespace Runbook.Yaml

/-- Line breaks: line feed, carriage return, next line, and the line and paragraph separators. -/
def isBreak (c : Char) : Bool :=
  c == '\n' || c == '\r' || c.toNat == 0x85 || c.toNat == 0x2028 || c.toNat == 0x2029

/-- Blanks and tabs. -/
def isGap (c : Char) : Bool := c == ' ' || c == '\t'

/-- Does the text start with a line break? -/
def startsBreak : List Char → Bool
  | c :: _ => isBreak c
  | [] => false

/-- Does the text start with a blank or a tab? -/
def startsGap : List Char → Bool
  | c :: _ => isGap c
  | [] => false

/-- Does the text end here, or go on with a line break? -/
def endsLine : List Char → Bool
  | c :: _ => isBreak c
  | [] => true

/-- Does the text end here, or go on with a blank, a tab or a line break? -/
def endsWord : List Char → Bool
  | c :: _ => isGap c || isBreak c
  | [] => true

/-- Letters, digits, `_` and `-`: the characters of names. -/
def isNameChar (c : Char) : Bool := c.isAlphanum || c == '_' || c == '-'

/-- The rest of a text and where it starts. -/
structure Cursor where
  /-- The characters that remain. -/
  rest : List Char
  /-- How many characters were read. -/
  index : Nat
  /-- How many lines were ended. -/
  line : Nat
  /-- How many characters of the line were read. -/
  column : Nat

namespace Cursor

/-- Read one character that is no line break. -/
def skip (c : Cursor) : Cursor :=
  { c with rest := c.rest.drop 1, index := c.index + 1, column := c.column + 1 }

/-- Read some characters that are no line breaks. -/
def skipMany (c : Cursor) (n : Nat) : Cursor :=
  { c with rest := c.rest.drop n, index := c.index + n, column := c.column + n }

/-- Read one line break, if there is one. -/
def skipBreak (c : Cursor) : Cursor :=
  match c.rest with
  | '\r' :: '\n' :: rest => { rest, index := c.index + 2, line := c.line + 1, column := 0 }
  | b :: rest =>
    if isBreak b then { rest, index := c.index + 1, line := c.line + 1, column := 0 } else c
  | [] => c

/-- The text that a line break contributes: a line feed, but the separators stand for themselves. -/
def breakText : List Char → List Char
  | b :: _ =>
    if b.toNat == 0x2028 || b.toNat == 0x2029 then [b] else if isBreak b then ['\n'] else []
  | [] => []

/-- Read one line break and answer its text. -/
def takeBreak (c : Cursor) : List Char × Cursor := (breakText c.rest, c.skipBreak)

/-- Read the longest stretch of characters in a class without line breaks. -/
def takeWhile (c : Cursor) (p : Char → Bool) : List Char × Cursor :=
  let read := c.rest.takeWhile p
  (read, c.skipMany read.length)

/-- Read over the longest stretch of characters in a class without line breaks. -/
def skipWhile (c : Cursor) (p : Char → Bool) : Cursor := (c.takeWhile p).2

/-- Read over blanks, tabs and a comment to the end of the line. -/
def skipRemark (c : Cursor) : Cursor :=
  let c := c.skipWhile isGap
  match c.rest with
  | '#' :: _ => c.skipWhile (fun ch => !isBreak ch)
  | _ => c

/-- Does a document mark stand here, at the start of a line? -/
def atMark (c : Cursor) (mark : Char) : Bool :=
  match c.rest with
  | a :: b :: d :: rest => c.column == 0 && a == mark && b == mark && d == mark && endsWord rest
  | _ => false

/-- Does one of the two document marks stand here? -/
def atDocumentMark (c : Cursor) : Bool := c.atMark '-' || c.atMark '.'

end Cursor

end Runbook.Yaml
