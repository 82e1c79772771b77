import Runbook.Glob.Basic

/-!
# Reading globs

The written form of globs: `?` and `*`, a double star for directories, `[...]` with ranges,
`{a,b}` with branches, and a backslash before a character that stands for itself.

## Main definitions

* `Glob.classOf?`: a class of characters
* `Glob.ofChars?`: a written glob

## Design notes

A double star stands for directories only where slashes, or an end of the glob or branch, surround
it; anywhere else it is two stars.  It takes the slashes around it with it, so the slash before it
is taken back when it is read.  A class, a brace or a backslash that is not completed makes the glob
invalid, and so does a range whose ends are in the wrong order.
-/

namespace Runbook.Glob

/-- The ranges of a class so far, the last one first, and whether a dash waits for the upper end
of the last range. -/
structure ClassReader where
  ranges : List (Char × Char)
  open? : Bool

/-- Let the last range of a class end at `c`. -/
def ClassReader.close? (r : ClassReader) (c : Char) : Option ClassReader :=
  match r.ranges with
  | (lo, _) :: rest => if c < lo then none else some ⟨(lo, c) :: rest, false⟩
  | [] => none

/-- Read a class up to its closing bracket.  A bracket or a dash that comes first stands for
itself, and so does a dash that comes last. -/
def classFrom? : Bool → ClassReader → List Char → Option (List (Char × Char) × List Char)
  | _, _, [] => none
  | first, r, c :: rest =>
    if c = ']' ∧ ¬ first then
      some ((if r.open? then ('-', '-') :: r.ranges else r.ranges).reverse, rest)
    else if c = '-' ∧ ¬ first ∧ ¬ r.open? then classFrom? false { r with open? := true } rest
    else if r.open? then (r.close? c).bind fun r => classFrom? false r rest
    else classFrom? false ⟨(c, c) :: r.ranges, false⟩ rest

/-- Read a class from after its opening bracket. -/
def classOf? (cs : List Char) : Option (Token × List Char) :=
  let (negated, cs) :=
    match cs with
    | '!' :: rest => (true, rest)
    | '^' :: rest => (true, rest)
    | rest => (false, rest)
  (classFrom? true ⟨[], false⟩ cs).map fun (ranges, rest) => (.oneOf negated ranges, rest)

/-- A brace that is open: the tokens before it, last first, and the branches that are complete. -/
structure OpenBrace where
  before : List Token
  branches : List (List Token)

/-- Where the reading of a glob stands. -/
structure Reader where
  /-- The character read last. -/
  previous : Option Char
  /-- The tokens of the glob, or of the branch that is read, last first. -/
  tokens : List Token
  /-- The braces that are open, the innermost first. -/
  braces : List OpenBrace

namespace Reader

/-- Add a token. -/
def push (r : Reader) (t : Token) : Reader := { r with tokens := t :: r.tokens }

/-- Two stars that stand for themselves. -/
def twoStars (r : Reader) : Reader := (r.push .many).push .many

/-- Put a token for directories in place of the slash before it; directories that are already
there take it in. -/
def pushDirs (r : Reader) (t : Token) : Reader :=
  match r.tokens with
  | .leadingDirs :: rest => { r with tokens := .leadingDirs :: rest }
  | .trailingDirs :: rest => { r with tokens := .trailingDirs :: rest }
  | _ :: rest => { r with tokens := t :: rest }
  | [] => { r with tokens := [t] }

/-- Read a double star, from after it; `before` is the character in front of it. -/
def doubleStar (r : Reader) (before : Option Char) (cs : List Char) : Reader × List Char :=
  if r.tokens.isEmpty then
    match cs with
    | [] => (r.push .leadingDirs, [])
    | '/' :: rest => ({ r.push .leadingDirs with previous := some '/' }, rest)
    | rest => (r.twoStars, rest)
  else
    let inBraces := !r.braces.isEmpty
    let starts := before == some '/' || (inBraces && (before == some ',' || before == some '{'))
    if !starts then (r.twoStars, cs)
    else
      match cs with
      | [] => (r.pushDirs .trailingDirs, [])
      | '/' :: rest => ({ r.pushDirs .innerDirs with previous := some '/' }, rest)
      | c :: rest =>
        if inBraces && (c == ',' || c == '}') then (r.pushDirs .trailingDirs, c :: rest)
        else (r.twoStars, c :: rest)

/-- End the branch that is read and begin another one; outside braces a comma stands for
itself. -/
def comma (r : Reader) : Reader :=
  match r.braces with
  | brace :: outer =>
    { r with
      tokens := []
      braces := { brace with branches := brace.branches ++ [r.tokens.reverse] } :: outer }
  | [] => r.push (.literal ',')

/-- End the last branch of the innermost brace. -/
def closeBrace? (r : Reader) : Option Reader :=
  match r.braces with
  | brace :: outer =>
    some
      { r with
        tokens := .choice (brace.branches ++ [r.tokens.reverse]) :: brace.before
        braces := outer }
  | [] => none

/-- Read the rest of a glob.  Each round reads a character, so the length of the glob is fuel
enough. -/
def run? : Nat → Reader → List Char → Option Glob
  | 0, _, _ => none
  | fuel + 1, r, cs =>
    match cs with
    | [] => if r.braces.isEmpty then some r.tokens.reverse else none
    | c :: rest =>
      let before := r.previous
      let r := { r with previous := some c }
      match c with
      | '?' => run? fuel (r.push .any) rest
      | '*' =>
        match rest with
        | '*' :: rest =>
          let (r, rest) := r.doubleStar before rest
          run? fuel r rest
        | rest => run? fuel (r.push .many) rest
      | '[' => (classOf? rest).bind fun (t, rest) =>
          run? fuel { r.push t with previous := some ']' } rest
      | '{' => run? fuel { r with tokens := [], braces := ⟨r.tokens, []⟩ :: r.braces } rest
      | '}' => r.closeBrace?.bind fun r => run? fuel r rest
      | ',' => run? fuel r.comma rest
      | '\\' =>
        match rest with
        | c :: rest => run? fuel { r.push (.literal c) with previous := some c } rest
        | [] => none
      | c => run? fuel (r.push (.literal c)) rest

end Reader

/-- A written glob, unless it is invalid. -/
def ofChars? (cs : List Char) : Option Glob := Reader.run? (cs.length + 1) ⟨none, [], []⟩ cs

/-- Does the glob written in `text` match a path?  An invalid glob matches nothing. -/
def matchesPath (text path : String) : Bool :=
  match ofChars? text.toList with
  | some glob => glob.accepts path.toList
  | none => false

end Runbook.Glob
