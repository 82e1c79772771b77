import Runbook.Config.Setting
import Runbook.Number.Decimal
import Runbook.Text.Blank
import Runbook.Text.DoubleQuoted
import Runbook.Text.Search

/-!
# Environment variables

Variables whose names begin with a mark are settings.  The rest of the name tells where the setting
belongs, and the text of the variable is read as a value if it has the form of one.

## Main definitions

* `Variable`: a name and a text
* `Variable.place?`: the keys that lead to the setting
* `Variable.value`: the setting
* `Variable.table?`: the setting with its keys around it

## Design notes

Numbers, truth values, texts in quotes, lists and tables have a form of their own.  Any other text
is itself, without blanks around it.  A text that begins like one of these forms and goes on in
another way is none of them: it is taken as it stands.
-/

namespace Runbook

-- The core library's powers, also where another library declares powers of its own.
attribute [local instance (high)] instPowNat

/-- An environment variable. -/
structure Variable where
  name : String
  text : String
deriving DecidableEq, Repr

namespace Variable

/-! ## Names -/

/-- The mark of the names of settings. -/
def mark : String := "sopflow_"

/-- Put a point for each pair of underscores. -/
def pointed : List Char → List Char
  | '_' :: '_' :: rest => '.' :: pointed rest
  | c :: rest => c :: pointed rest
  | [] => []

/-- The keys that lead to the setting, unless the variable is none or one of them is empty. -/
def place? (v : Variable) : Option (List String) :=
  let name := (Text.trim v.name.toList).map Char.toLower
  if mark.toList.isPrefixOf name then
    let keys := Text.splitOn '.' (Text.trim (pointed (name.drop mark.length)))
    if keys.any List.isEmpty then none else some (keys.map String.ofList)
  else none

/-! ## Values -/

/-- Blanks between the parts of a value. -/
def isSpace (c : Char) : Bool :=
  c == ' ' || c == '\t' || c == '\n' || c == '\x0c' || c == '\r'

/-- Skip blanks. -/
def skipSpace (cs : List Char) : List Char := cs.dropWhile isSpace

/-- The characters that separate values. -/
def isSeparator (c : Char) : Bool :=
  c == ',' || c == '{' || c == '}' || c == '[' || c == ']'

/-- A number written in digits, with a sign if one is allowed. -/
def digits? (cs : List Char) : Option Nat :=
  if cs.isEmpty || !cs.all Char.isDigit then none else some (digitsValue cs)

/-- An integer: from zero on it fits 64 bits, and below it fits 64 bits with a sign. -/
def integer? : List Char → Option Int
  | '-' :: cs => (digits? cs).bind fun n => if n ≤ 2 ^ (63 : Nat) then some (-(n : Int)) else none
  | '+' :: cs => (digits? cs).bind fun n => if n < 2 ^ (64 : Nat) then some (n : Int) else none
  | cs => (digits? cs).bind fun n => if n < 2 ^ (64 : Nat) then some (n : Int) else none

/-- A text without quotes. -/
def bare (cs : List Char) : Setting :=
  let word := Text.trim cs
  if word.contains '.' && (Decimal.ofChars? word).isSome then .real
  else
    match integer? word with
    | some n => .number n
    | none => .text (String.ofList word)

/-- The characters of keys without quotes. -/
def isKeyChar (c : Char) : Bool := c.isAlphanum || c == '_' || c == '-'

/-- A key of a table. -/
def key? (cs : List Char) : Option (String × List Char) :=
  match cs with
  | '"' :: rest => Text.doubleQuoted? rest
  | cs =>
    let name := cs.takeWhile isKeyChar
    if name.isEmpty then none else some (String.ofList name, cs.drop name.length)

mutual

/-- A value, with the blanks around it.  Each round takes a character or goes into a value, so twice
the length of the text is fuel enough. -/
def value? : Nat → List Char → Option (Setting × List Char)
  | 0, _ => none
  | fuel + 1, cs => do
    let (value, rest) ←
      match skipSpace cs with
      | 't' :: 'r' :: 'u' :: 'e' :: rest => some (.flag true, rest)
      | 'f' :: 'a' :: 'l' :: 's' :: 'e' :: rest => some (.flag false, rest)
      | '{' :: rest => (fields? fuel rest).map fun (fields, rest) =>
          (.table (Fields.ofList fields), rest)
      | '[' :: rest => (items? fuel rest).map fun (items, rest) => (.list items, rest)
      | '"' :: rest => (Text.doubleQuoted? rest).map fun (s, rest) => (.text s, rest)
      | '\'' :: c :: '\'' :: rest => some (.text (String.singleton c), rest)
      | '\'' :: _ => none
      | cs =>
        some (bare (cs.takeWhile fun c => !isSeparator c), cs.dropWhile fun c => !isSeparator c)
    return (value, skipSpace rest)

/-- The items of a list, from after its bracket. -/
def items? : Nat → List Char → Option (List Setting × List Char)
  | 0, _ => none
  | fuel + 1, cs =>
    match cs with
    | ']' :: rest => some ([], rest)
    | cs => do
      let (item, rest) ← value? fuel cs
      match rest with
      | ',' :: rest =>
        let (items, rest) ← items? fuel rest
        return (item :: items, rest)
      | ']' :: rest => return ([item], rest)
      | _ => none

/-- The fields of a table, from after its brace. -/
def fields? : Nat → List Char → Option (List (String × Setting) × List Char)
  | 0, _ => none
  | fuel + 1, cs =>
    match cs with
    | '}' :: rest => some ([], rest)
    | cs => do
      let (key, rest) ← key? (skipSpace cs)
      match skipSpace rest with
      | '=' :: rest =>
        let (value, rest) ← value? fuel rest
        match rest with
        | ',' :: rest =>
          let (fields, rest) ← fields? fuel rest
          return ((key, value) :: fields, rest)
        | '}' :: rest => return ([(key, value)], rest)
        | _ => none
      | _ => none

end

/-- The setting of a text. -/
def read (text : String) : Setting :=
  match value? (2 * text.toList.length + 2) text.toList with
  | some (value, []) => value
  | _ => .text text

/-- The setting of a variable. -/
def value (v : Variable) : Setting := read v.text

/-- A setting under some keys. -/
def under (value : Setting) : List String → Setting
  | [] => value
  | key :: keys => .table [(key, under value keys)]

/-- The setting of a variable with its keys around it. -/
def table? (v : Variable) : Option Setting := v.place?.map (under v.value)

/-- The settings of some variables; of two for the same key the later one counts. -/
def settings (environment : List Variable) : Setting :=
  (environment.filterMap table?).foldl (fun lower upper => upper.onto lower) (.table [])

end Variable

end Runbook
