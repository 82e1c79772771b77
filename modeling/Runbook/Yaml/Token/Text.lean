import Runbook.Number.Digits
import Runbook.Yaml.Token.Cursor

/-!
# Texts of nodes

The four ways to write a text: plain, quoted, and the two block styles.  A line break inside a
plain or quoted text is folded: one break becomes a blank, and of more breaks all but the first
remain.

## Main definitions

* `Cursor.plain?`: a plain text, and whether it ended on a new line
* `Cursor.quoted?`: a quoted text
* `Cursor.block?`: a block text

## Design notes

Every loop reads a character in each round, so the number of remaining characters, taken as fuel,
is never used up.
-/

namespace Runbook.Yaml.Cursor

/-- What stands between two stretches of a text: blanks on one line, or line breaks. -/
structure Gap where
  /-- The blanks, while no line has ended. -/
  blanks : List Char
  /-- Has a line ended? -/
  broken : Bool
  /-- The text of the first line break. -/
  first : List Char
  /-- The text of the other line breaks. -/
  others : List Char

namespace Gap

/-- Nothing yet. -/
def none : Gap := ⟨[], false, [], []⟩

/-- The text that a gap contributes: its blanks, or its folded line breaks. -/
def text (g : Gap) : List Char :=
  if ¬ g.broken then g.blanks
  else
    match g.first with
    | '\n' :: _ => if g.others.isEmpty then [' '] else g.others
    | _ => g.first ++ g.others

end Gap

/-- Read blanks and line breaks.  A tab may not stand left of `margin` on a new line. -/
def gap? (margin : Option Int) : Nat → Gap → Cursor → Option (Gap × Cursor)
  | 0, g, c => some (g, c)
  | fuel + 1, g, c =>
    match c.rest with
    | ch :: _ =>
      if isGap ch then
        if g.broken && ch == '\t' && (margin.any fun m => decide ((c.column : Int) < m)) then .none
        else if g.broken then gap? margin fuel g c.skip
        else gap? margin fuel { g with blanks := g.blanks ++ [ch] } c.skip
      else if isBreak ch then
        let (text, c) := c.takeBreak
        if g.broken then gap? margin fuel { g with others := g.others ++ text } c
        else gap? margin fuel { g with blanks := [], broken := true, first := text } c
      else some (g, c)
    | [] => some (g, c)

/-- May the character be part of an indicator that ends a plain text inside brackets? -/
def isFlowMark (c : Char) : Bool := c == ',' || c == '[' || c == ']' || c == '{' || c == '}'

/-- Read the characters of a plain text up to a blank or an indicator, last first.  Inside
brackets a colon may not stand right before a bracket, a comma or a question mark. -/
def plainWord? (flow : Bool) : Nat → List Char → Cursor → Option (List Char × Cursor)
  | 0, done, c => some (done, c)
  | fuel + 1, done, c =>
    match c.rest with
    | ':' :: next =>
      if flow && (match next with | d :: _ => isFlowMark d || d == '?' | [] => false) then none
      else if endsWord next then some (done, c)
      else plainWord? flow fuel (':' :: done) c.skip
    | ch :: _ =>
      if isGap ch || isBreak ch || (flow && isFlowMark ch) then some (done, c)
      else plainWord? flow fuel (ch :: done) c.skip
    | [] => some (done, c)

/-- Read a plain text; `done` holds its characters so far, last first.  The text ends before a
comment, a document mark, an indicator, and outside brackets before a line that is indented less
than `margin`. -/
def plainFrom? (flow : Bool) (margin : Int) :
    Nat → List Char → Gap → Cursor → Option (List Char × Bool × Cursor)
  | 0, done, g, c => some (done.reverse, g.broken, c)
  | fuel + 1, done, g, c =>
    if c.atDocumentMark then some (done.reverse, g.broken, c)
    else
      match c.rest with
      | '#' :: _ => some (done.reverse, g.broken, c)
      | _ =>
        match plainWord? flow (c.rest.length + 1) [] c with
        | none => none
        | some (word, c) =>
          let (done, g) :=
            if word.isEmpty then (done, g) else (word ++ g.text.reverse ++ done, Gap.none)
          match c.rest with
          | ch :: _ =>
            if isGap ch || isBreak ch then
              match gap? (some margin) (c.rest.length + 1) g c with
              | none => none
              | some (g, c) =>
                if !flow && decide ((c.column : Int) < margin) then some (done.reverse, g.broken, c)
                else plainFrom? flow margin fuel done g c
            else some (done.reverse, g.broken, c)
          | [] => some (done.reverse, g.broken, c)

/-- Read a plain text, and tell whether it ended on a new line. -/
def plain? (flow : Bool) (margin : Int) (c : Cursor) : Option (List Char × Bool × Cursor) :=
  plainFrom? flow margin (c.rest.length + 1) [] .none c

/-- The number of hexadecimal digits after an escape letter. -/
def escapeLength? (c : Char) : Option Nat :=
  match c with
  | 'x' => some 2
  | 'u' => some 4
  | 'U' => some 8
  | _ => none

/-- The character that an escape letter stands for. -/
def escaped? (c : Char) : Option Char :=
  match c with
  | '0' => some (Char.ofNat 0)
  | 'a' => some (Char.ofNat 7)
  | 'b' => some (Char.ofNat 8)
  | 't' => some '\t'
  | '\t' => some '\t'
  | 'n' => some '\n'
  | 'v' => some (Char.ofNat 0x0b)
  | 'f' => some (Char.ofNat 0x0c)
  | 'r' => some '\r'
  | 'e' => some (Char.ofNat 0x1b)
  | ' ' => some ' '
  | '"' => some '"'
  | '/' => some '/'
  | '\\' => some '\\'
  | 'N' => some (Char.ofNat 0x85)
  | '_' => some (Char.ofNat 0xa0)
  | 'L' => some (Char.ofNat 0x2028)
  | 'P' => some (Char.ofNat 0x2029)
  | _ => none

/-- The character of a code point that is no surrogate. -/
def charOfCode? (n : Nat) : Option Char :=
  if n.isValidChar then some (Char.ofNat n) else none

/-- Read an escape, from after its backslash. -/
def escape? (c : Cursor) : Option (Char × Cursor) :=
  match c.rest with
  | letter :: digits =>
    match escapeLength? letter with
    | some n => do
      let code := digits.take n
      if code.length < n then none
      let value ← digitsIn? 16 code
      some (← charOfCode? value, c.skipMany (n + 1))
    | none => (escaped? letter).map (·, c.skip)
  | [] => none

/-- Read the characters of a quoted text up to a blank, a line break or the closing quote, last
first, and tell whether an escaped line break ended the stretch. -/
def quotedWord? (single : Bool) : Nat → List Char → Cursor → Option (List Char × Bool × Cursor)
  | 0, done, c => some (done, false, c)
  | fuel + 1, done, c =>
    match single, c.rest with
    | true, '\'' :: '\'' :: _ => quotedWord? single fuel ('\'' :: done) (c.skipMany 2)
    | true, '\'' :: _ => some (done, false, c)
    | false, '"' :: _ => some (done, false, c)
    | false, '\\' :: next =>
      if startsBreak next then some (done, true, c.skip.skipBreak)
      else
        match c.skip.escape? with
        | some (ch, c) => quotedWord? single fuel (ch :: done) c
        | none => none
    | _, ch :: _ =>
      if isGap ch || isBreak ch then some (done, false, c)
      else quotedWord? single fuel (ch :: done) c.skip
    | _, [] => some (done, false, c)

/-- Read a quoted text from after its opening quote; `done` holds its characters so far, last
first. -/
def quotedFrom? (single : Bool) : Nat → List Char → Cursor → Option (List Char × Cursor)
  | 0, _, _ => none
  | fuel + 1, done, c =>
    if c.atDocumentMark then none
    else
      match quotedWord? single (c.rest.length + 1) [] c with
      | none => none
      | some (word, broken, c) =>
        match c.rest with
        | [] => none
        | ch :: _ =>
          if ch == (if single then '\'' else '"') then
            some ((word ++ done).reverse, c.skip)
          else
            match gap? none (c.rest.length + 1) ⟨[], broken, [], []⟩ c with
            | none => none
            | some (g, c) => quotedFrom? single fuel (g.text.reverse ++ word ++ done) c

/-- Read a quoted text with its quotes. -/
def quoted? (single : Bool) (c : Cursor) : Option (List Char × Cursor) :=
  quotedFrom? single (c.rest.length + 1) [] c.skip

/-- What happens to the line breaks at the end of a block text. -/
inductive Chomping where
  | strip
  | clip
  | keep
deriving DecidableEq

/-- Read the chomping mark of a block header, if there is one. -/
def chomping (c : Cursor) : Option Chomping × Cursor :=
  match c.rest with
  | '+' :: _ => (some .keep, c.skip)
  | '-' :: _ => (some .strip, c.skip)
  | _ => (none, c)

/-- Read the indentation digit of a block header, if there is one; it may not be zero. -/
def indentDigit? (c : Cursor) : Option (Nat × Cursor) :=
  match c.rest with
  | d :: _ =>
    if d == '0' then none else if d.isDigit then some (digitValue d, c.skip) else some (0, c)
  | [] => some (0, c)

/-- Read the header of a block text: a chomping mark and an indentation digit in either order. -/
def blockHeader? (c : Cursor) : Option (Chomping × Nat × Cursor) :=
  match c.chomping with
  | (some chomp, c) => c.indentDigit?.map fun (n, c) => (chomp, n, c)
  | (none, c) => c.indentDigit?.map fun (n, c) =>
    if n = 0 then (.clip, 0, c)
    else
      let (chomp, c) := c.chomping
      (chomp.getD .clip, n, c)

/-- Read the indentation and the empty lines before the next line of a block text.  While the
indentation is not known (zero), all blanks are read, and the widest line so far is remembered. -/
def blockBreaks? (indent : Nat) :
    Nat → Nat → List Char → Cursor → Option (Nat × List Char × Cursor)
  | 0, widest, breaks, c => some (widest, breaks, c)
  | fuel + 1, widest, breaks, c =>
    match c.rest with
    | ch :: _ =>
      if (indent = 0 ∨ c.column < indent) ∧ ch = ' ' then
        blockBreaks? indent fuel (max widest (c.column + 1)) breaks c.skip
      else if (indent = 0 ∨ c.column < indent) ∧ ch = '\t' then none
      else if isBreak ch then
        let (text, c) := c.takeBreak
        blockBreaks? indent fuel widest (breaks ++ text) c
      else some (max widest c.column, breaks, c)
    | [] => some (max widest c.column, breaks, c)

/-- What was read of a block text: its characters, last first, the break after its last line and
the empty lines after that, and whether its last line started with a blank. -/
structure BlockText where
  done : List Char
  lead : List Char
  trail : List Char
  blank : Bool

/-- Read the lines of a block text that are indented by `indent`. -/
def blockLines? (literal : Bool) (indent : Nat) :
    Nat → BlockText → Cursor → Option (BlockText × Cursor)
  | 0, b, c => some (b, c)
  | fuel + 1, b, c =>
    if c.column ≠ indent ∨ c.rest.isEmpty then some (b, c)
    else
      let blank := startsGap c.rest
      let folds := !literal && b.lead.head? == some '\n' && !b.blank && !blank
      let joint := if folds then (if b.trail.isEmpty then [' '] else []) else b.lead
      let (line, c) := c.takeWhile (fun ch => !isBreak ch)
      let (lead, c) := c.takeBreak
      match blockBreaks? indent (c.rest.length + 1) 0 [] c with
      | none => none
      | some (_, trail, c) =>
        blockLines? literal indent fuel
          ⟨line.reverse ++ (joint ++ b.trail).reverse ++ b.done, lead, trail, blank⟩ c

/-- Read a block text.  `parent` is the indentation of the collection around it. -/
def block? (literal : Bool) (parent : Int) (c : Cursor) : Option (List Char × Cursor) := do
  let (chomp, digit, c) ← c.skip.blockHeader?
  let c := c.skipRemark
  if !endsLine c.rest then none
  let c := c.skipBreak
  let given := if digit = 0 then 0 else if 0 ≤ parent then parent.toNat + digit else digit
  let (widest, breaks, c) ← blockBreaks? given (c.rest.length + 1) 0 [] c
  let indent := if given = 0 then max (max widest (parent + 1).toNat) 1 else given
  let (b, c) ← blockLines? literal indent (c.rest.length + 1) ⟨[], [], breaks, false⟩ c
  let tail := match chomp with
    | .strip => []
    | .clip => b.lead
    | .keep => b.lead ++ b.trail
  some (b.done.reverse ++ tail, c)

end Runbook.Yaml.Cursor
