import Runbook.Hook.Basic
import Runbook.Text.Quoted

/-!
# Describing hooks

A hook as one line of text for people: every part of it by name, texts in quotes, and a mark in
place of the check.

## Main definitions

* `Hook.describe`: the line
-/

namespace Runbook

/-- A kind as it stands in a description. -/
def HookKind.label : HookKind → String
  | auto => "Auto"
  | validate => "Validate"
  | archive => "Archive"
  | eval => "Eval"

/-- A type as it stands in a description. -/
def FieldType.label : FieldType → String
  | string => "String"
  | number => "Number"
  | boolean => "Boolean"
  | stringList => "StringList"

/-- A verdict as it stands in a description. -/
def Verdict.label : Verdict → String
  | silent => "Silent"
  | warn => "Warn"
  | block => "Block"

namespace Hook

/-- A part that may be missing. -/
def describeOption (part : Option String) : String :=
  match part with
  | some text => "Some(" ++ text ++ ")"
  | none => "None"

/-- A list of parts. -/
def describeList (parts : List String) : String := "[" ++ ", ".intercalate parts ++ "]"

/-- A record with a name and named parts. -/
def describeRecord (name : String) (parts : List (String × String)) : String :=
  name ++ " \x7b " ++ ", ".intercalate (parts.map fun part => part.1 ++ ": " ++ part.2) ++ " \x7d"

/-- The fields of a schema. -/
def describeSchema (schema : Schema) : String :=
  "\x7b" ++
    ", ".intercalate (schema.map fun field => Text.quoteVisibly field.1 ++ ": " ++ field.2.label)
    ++ "\x7d"

/-- An edit policy. -/
def describePolicy (policy : EditPolicy) : String :=
  describeRecord "EditPolicy" [
    ("default", policy.otherwise.label),
    ("patterns", describeList (policy.rules.map fun rule =>
      describeRecord "EditPolicyPattern" [
        ("glob", Text.quoteVisibly rule.glob), ("policy", rule.verdict.label)]))]

/-- A hook in one line. -/
def describe (hook : Hook) : String :=
  describeRecord "CapabilityHook" [
    ("name", Text.quoteVisibly hook.name),
    ("kinds", describeList (hook.sortedKinds.map HookKind.label)),
    ("instructions", Text.quoteVisibly hook.instructions),
    ("output_schema", describeOption (hook.schema.map describeSchema)),
    ("check", describeOption (hook.check.map fun _ => Text.quoteVisibly "<fn>")),
    ("edit_policy", describeOption (hook.editPolicy.map describePolicy)),
    ("archive_table", describeOption (hook.archiveTable.map Text.quoteVisibly))]

end Hook

end Runbook
