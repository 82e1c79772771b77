/-!
# Document tokens

The tokens of a document text: directives and document marks, the brackets of block and flow
collections, the marks of entries, keys and values, and the properties and texts of nodes.  The
brackets of block collections are not written; they stand for changes of indentation.

## Main definitions

* `Token`: the tokens
-/

namespace Runbook.Yaml

/-- The tokens of a document text. -/
inductive Token where
  | version (major minor : Nat)
  | tagHandle (handle stem : List Char)
  | documentStart
  | documentEnd
  | blockSequenceStart
  | blockMappingStart
  | blockEnd
  | flowSequenceStart
  | flowSequenceEnd
  | flowMappingStart
  | flowMappingEnd
  | blockEntry
  | flowEntry
  | key
  | value
  | alias (name : List Char)
  | anchor (name : List Char)
  | tag (handle suffix : List Char)
  | scalar (plain : Bool) (text : List Char)
deriving DecidableEq, Repr

end Runbook.Yaml
