import Runbook.Yaml.Token.Tag
import Runbook.Yaml.Token.Text

/-!
# Reading tokens

The tokens of a whole document text, in one pass.  Two things make this more than cutting the text
into words.  The indentation of block collections is turned into brackets; and a key is recognised
only when the colon after it is reached, so the mark of the key, and the bracket of the mapping
that it opens, are put in front of tokens that were read before.

## Main definitions

* `Lexer`: where the reading stands
* `Lexer.step?`: reading one more token
* `Token.scan?`: the tokens of a text

## Design notes

The tokens read so far are kept last first.  A possible key remembers how many tokens there were
before it, which tells where its mark has to be put.  Outside brackets a possible key that starts
at the indentation of its block has to be a key.
-/

namespace Runbook.Yaml

/-- A place where a key may have started. -/
structure PossibleKey where
  /-- Does the text make sense only if this is a key? -/
  required : Bool
  /-- How many tokens came before it. -/
  position : Nat
  /-- How many characters came before it. -/
  index : Nat
  /-- The line it stands on. -/
  line : Nat
  /-- The column it starts at. -/
  column : Nat

/-- Where the reading of tokens stands. -/
structure Lexer where
  /-- What remains to be read. -/
  cursor : Cursor
  /-- The tokens read so far, last first. -/
  tokens : List Token
  /-- How many they are. -/
  count : Nat
  /-- The indentation of the innermost block collection, or `-1`. -/
  indent : Int
  /-- The indentations around it. -/
  outer : List Int
  /-- May a key start here? -/
  keyAllowed : Bool
  /-- The possible key outside brackets, or in the innermost brackets. -/
  possible : Option PossibleKey
  /-- The possible keys around the brackets that are open. -/
  suspended : List (Option PossibleKey)

namespace Lexer

/-- Before anything is read. -/
def start (text : List Char) : Lexer where
  cursor := ⟨text, 0, 0, 0⟩
  tokens := []
  count := 0
  indent := -1
  outer := []
  keyAllowed := true
  possible := none
  suspended := []

/-- Is a bracket open? -/
def inFlow (l : Lexer) : Bool := !l.suspended.isEmpty

/-- Add a token. -/
def push (l : Lexer) (t : Token) : Lexer := { l with tokens := t :: l.tokens, count := l.count + 1 }

/-- Put tokens after the first `position` ones; the list starts with the last token. -/
def splice (l : Lexer) (position : Nat) (ts : List Token) : Lexer :=
  let later := l.count - position
  { l with
    tokens := l.tokens.take later ++ ts.reverse ++ l.tokens.drop later
    count := l.count + ts.length }

/-- Give up the possible key, unless it has to be one. -/
def dropKey? (l : Lexer) : Option Lexer :=
  match l.possible with
  | some k => if k.required then none else some { l with possible := none }
  | none => some l

/-- Remember that a key may start here. -/
def saveKey? (l : Lexer) : Option Lexer :=
  if l.keyAllowed then
    l.dropKey?.map fun l =>
      { l with
        possible := some
          { required := !l.inFlow && l.indent == (l.cursor.column : Int)
            position := l.count
            index := l.cursor.index
            line := l.cursor.line
            column := l.cursor.column } }
  else some l

/-- Close the block collections that are indented further than `column`. -/
def unroll (l : Lexer) (column : Int) : Lexer :=
  if l.inFlow then l else go l.outer l
where
  /-- Close one collection after the other. -/
  go : List Int → Lexer → Lexer
    | [], l => l
    | i :: rest, l =>
      if column < l.indent then go rest { l.push .blockEnd with indent := i, outer := rest } else l

/-- Open a block collection at `column`, if it is indented further than the one around it. -/
def roll (l : Lexer) (column position : Nat) (t : Token) : Lexer :=
  if !l.inFlow && decide (l.indent < (column : Int)) then
    { l.splice position [t] with outer := l.indent :: l.outer, indent := column }
  else l

/-- Read over blanks, comments and line breaks to the next token.  A tab may not stand where a key
may start.  Outside brackets a key may start on each new line. -/
def skipToToken : Nat → Lexer → Lexer
  | 0, l => l
  | fuel + 1, l =>
    let c := l.cursor
    let c := match c.rest with
      | ch :: _ => if c.column == 0 && ch.toNat == 0xfeff then c.skip else c
      | [] => c
    let tabs := l.inFlow || !l.keyAllowed
    let c := c.skipWhile (fun ch => ch == ' ' || (tabs && ch == '\t'))
    let c := match c.rest with
      | '#' :: _ => c.skipWhile (fun ch => !isBreak ch)
      | _ => c
    if startsBreak c.rest then
      skipToToken fuel { l with cursor := c.skipBreak, keyAllowed := l.keyAllowed || !l.inFlow }
    else { l with cursor := c }

/-- Take over the place after a token, and the token. -/
def take (l : Lexer) (keyAllowed : Bool) (t : Token) (c : Cursor) : Lexer :=
  { l.push t with keyAllowed, cursor := c }

/-- Read a document mark or a directive: all block collections end before it. -/
def atRoot? (l : Lexer) (t : Token) (c : Cursor) : Option Lexer :=
  (l.unroll (-1)).dropKey?.map fun l => l.take false t c

/-- Read an opening bracket, which may itself start a key. -/
def openFlow? (l : Lexer) (t : Token) : Option Lexer :=
  l.saveKey?.map fun l =>
    { l.take true t l.cursor.skip with possible := none, suspended := l.possible :: l.suspended }

/-- Read a closing bracket. -/
def closeFlow? (l : Lexer) (t : Token) : Option Lexer :=
  l.dropKey?.map fun l =>
    match l.suspended with
    | [] => l.take false t l.cursor.skip
    | k :: rest => { l.take false t l.cursor.skip with possible := k, suspended := rest }

/-- Read the comma between the entries of brackets. -/
def flowEntry? (l : Lexer) : Option Lexer :=
  l.dropKey?.map fun l => l.take true .flowEntry l.cursor.skip

/-- Read the dash of an entry, which may open a block sequence. -/
def blockEntry? (l : Lexer) : Option Lexer :=
  if !l.inFlow && !l.keyAllowed then none
  else
    (l.roll l.cursor.column l.count .blockSequenceStart).dropKey?.map fun l =>
      l.take true .blockEntry l.cursor.skip

/-- Read the question mark of a key, which may open a block mapping. -/
def key? (l : Lexer) : Option Lexer :=
  if !l.inFlow && !l.keyAllowed then none
  else
    (l.roll l.cursor.column l.count .blockMappingStart).dropKey?.map fun l =>
      l.take (!l.inFlow) .key l.cursor.skip

/-- The possible key, if the colon that is read now can belong to it: it stands on the same line
and not more than 1024 characters before. -/
def keyOfColon? (l : Lexer) : Option (Option PossibleKey) :=
  match l.possible with
  | some k =>
    if k.line = l.cursor.line ∧ l.cursor.index ≤ k.index + 1024 then some (some k)
    else if k.required then none
    else some none
  | none => some none

/-- Read the colon of a value.  If a key was possible its mark goes in front of it, and so does
the bracket of the mapping that it opens. -/
def value? (l : Lexer) : Option Lexer :=
  l.keyOfColon?.bind fun
    | some k =>
      let l := (l.splice k.position [.key]).roll k.column k.position .blockMappingStart
      some ({ l with possible := none }.take false .value l.cursor.skip)
    | none =>
      if !l.inFlow && !l.keyAllowed then none
      else
        let l := l.roll l.cursor.column l.count .blockMappingStart
        some (l.take (!l.inFlow) .value l.cursor.skip)

/-- Read a property or a text that may start a key. -/
def node? (l : Lexer) (read : Cursor → Option (Token × Bool × Cursor)) : Option Lexer :=
  l.saveKey?.bind fun l => (read l.cursor).map fun (t, broken, c) => l.take broken t c

/-- Read a block text, which starts no key. -/
def block? (l : Lexer) (literal : Bool) : Option Lexer :=
  l.dropKey?.bind fun l =>
    (l.cursor.block? literal l.indent).map fun (text, c) => l.take true (.scalar false text) c

/-- Read a plain text. -/
def plain? (l : Lexer) : Option Lexer :=
  l.node? fun c => (c.plain? l.inFlow (l.indent + 1)).map fun (text, broken, c) =>
    (.scalar true text, broken, c)

/-- Characters that start no plain text. -/
def isIndicator (c : Char) : Bool :=
  ['-', '?', ':', ',', '[', ']', '{', '}', '#', '&', '*', '!', '|', '>', '\'', '"', '%', '@',
    Char.ofNat 0x60].contains c

/-- Read one more token, after the blanks before it. -/
def step? (l : Lexer) : Option Lexer :=
  let c := l.cursor
  let flow := l.inFlow
  match c.rest with
  | [] => none
  | ch :: next =>
    if c.column == 0 && ch == '%' then
      c.directive?.bind fun (t, after) => l.atRoot? t after
    else if c.atMark '-' then l.atRoot? .documentStart (c.skipMany 3)
    else if c.atMark '.' then l.atRoot? .documentEnd (c.skipMany 3)
    else if ch == '[' then l.openFlow? .flowSequenceStart
    else if ch == '{' then l.openFlow? .flowMappingStart
    else if ch == ']' then l.closeFlow? .flowSequenceEnd
    else if ch == '}' then l.closeFlow? .flowMappingEnd
    else if ch == ',' then l.flowEntry?
    else if ch == '-' && endsWord next then l.blockEntry?
    else if ch == '?' && (flow || endsWord next) then l.key?
    else if ch == ':' && (flow || endsWord next) then l.value?
    else if ch == '*' then
      l.node? fun c => c.skip.name?.map fun (name, c) => (.alias name, false, c)
    else if ch == '&' then
      l.node? fun c => c.skip.name?.map fun (name, c) => (.anchor name, false, c)
    else if ch == '!' then
      l.node? fun c => (c.tag? flow).map fun (t, c) => (t, false, c)
    else if ch == '|' && !flow then l.block? true
    else if ch == '>' && !flow then l.block? false
    else if ch == '\'' || ch == '"' then
      l.node? fun c => (c.quoted? (ch == '\'')).map fun (text, c) => (.scalar false text, false, c)
    else if !isIndicator ch && !isGap ch then l.plain?
    else if ch == '-' && !startsGap next then l.plain?
    else if !flow && (ch == '?' || ch == ':') && !endsWord next then l.plain?
    else none

/-- Read all tokens.  Each round reads a character, so as many rounds as characters are enough. -/
def run? : Nat → Lexer → Option (List Token)
  | 0, _ => none
  | fuel + 1, l =>
    let l := l.skipToToken (l.cursor.rest.length + 1)
    if l.cursor.rest.isEmpty then
      ((l.unroll (-1)).dropKey?).map fun l => l.tokens.reverse
    else (l.unroll l.cursor.column).step?.bind (run? fuel)

end Lexer

/-- Characters that may stand in a document text: tab, the line breaks, and everything printable. -/
def isAllowed (c : Char) : Bool :=
  let n := c.toNat
  n == 9 || n == 10 || n == 13 || (0x20 ≤ n && n ≤ 0x7e) || n == 0x85 || (0xa0 ≤ n && n ≤ 0xfffd)
    || 0x10000 ≤ n

/-- The tokens of a text, if it can be read. -/
def Token.scan? (text : List Char) : Option (List Token) :=
  if text.all isAllowed then (Lexer.start text).run? (text.length + 1) else none

end Runbook.Yaml
