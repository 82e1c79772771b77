import Runbook.Json.Printer

/-!
# Keywords

The keys of a procedure document that have a meaning.  Each of them has a Chinese spelling besides
the English one; before anything else is done with a document its keys are turned into the English
spelling.

## Main definitions

* `Keyword.synonyms`: the Chinese spellings
* `Keyword.normalize`: a document with the English spellings
* `Keyword.consumed`: the keys that the compiler reads

## Design notes

Two spellings of one key in a mapping are one key after normalisation, and the value of the later
key in key order stays.  An English spelling is no synonym of anything, so normalising twice is the
same as normalising once.
-/

namespace Runbook.Keyword

/-- The Chinese spellings and what they stand for. -/
def synonyms : List (String × String) := [
  ("步骤", "steps"),
  ("名称", "name"),
  ("描述", "description"),
  ("分支", "branch"),
  ("如果", "if"),
  ("否则", "else"),
  ("循环", "loop"),
  ("遍历", "iterate"),
  ("等待", "wait"),
  ("跳转", "jump"),
  ("断言", "assert"),
  ("条件", "condition"),
  ("终止", "terminate"),
  ("目标", "target"),
  ("原因", "reason"),
  ("子步骤", "children"),
  ("类型", "type"),
  ("配置", "config"),
  ("失败跳转", "onFail"),
  ("重试", "retry"),
  ("次数", "count"),
  ("下一步", "next"),
  ("去", "go")]

/-- The English spelling of a key; a key without a meaning is left alone. -/
def normalizeKey (key : String) : String := (synonyms.lookup key).getD key

mutual

/-- A document with the English spelling of every key, at any depth. -/
def normalize : Json → Json
  | .arr items => .arr (normalizeItems items)
  | .obj fields => .obj (Fields.ofList (normalizeFields fields))
  | value => value

/-- The items of a list, normalised. -/
def normalizeItems : List Json → List Json
  | [] => []
  | item :: rest => normalize item :: normalizeItems rest

/-- The fields of a mapping, normalised, each where it was. -/
def normalizeFields : List (String × Json) → List (String × Json)
  | [] => []
  | (k, v) :: rest => (normalizeKey k, normalize v) :: normalizeFields rest

end

/-- The keys of a step that the compiler reads; all others are handed on. -/
def consumed : List String :=
  ["steps", "children", "name", "type", "next", "if", "else", "condition", "onFail", "target",
    "iterate", "go", "assert", "wait", "jump", "terminate", "branch", "reason", "auto"]

/-- The text of a usable scalar: a text, a number or a boolean.  Null, false, zero and the empty
text are not usable. -/
def scalarText? (value : Json) : Option String :=
  if value.truthy then
    match value with
    | .str s => some s
    | .int _ | .double _ | .bool _ => some value.compress
    | _ => none
  else none

end Runbook.Keyword
