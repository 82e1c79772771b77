import Runbook.Yaml.Node
import Runbook.Yaml.Scalar
import Runbook.Yaml.Token.Lexer

/-!
# Documents as data values

A document text is read as a data value.  Mappings become objects, whose keys are the texts of the
key nodes as they are written; aliases are replaced by the nodes they stand for.

## Main definitions

* `Reading`: the value of a node, with what it costs to read it
* `Node.reading?`: the value of a node among the anchors before it
* `parse?`: a text as a data value

## Design notes

Two limits keep small documents from standing for huge values: collections may nest 128 deep with
the aliases replaced, and the number of aliases that are followed, those inside of followed nodes
included, may be a hundred times the number of marks in the document.  Both are computed beside the
value.  An alias inside the node that it stands for would never end and is refused.
-/

namespace Runbook.Yaml

/-- The value of a node and what it costs to read it. -/
structure Reading where
  /-- The value. -/
  value : Json
  /-- The written text of a scalar node. -/
  text : Option String
  /-- How deep collections nest in it. -/
  height : Nat
  /-- How many aliases are followed to read it. -/
  jumps : Nat

/-- The anchors so far.  A name stands for the last node that took it; a node that is still being
read has no reading yet. -/
structure Anchors where
  /-- The number of the node that each name stands for, the last one first. -/
  names : List (List Char × Nat)
  /-- The nodes that have been read. -/
  readings : List (Nat × Reading)

namespace Anchors

/-- No anchors. -/
def none : Anchors := ⟨[], []⟩

/-- The node that a name stands for, if it has been read. -/
def find? (a : Anchors) (name : List Char) : Option Reading :=
  (a.names.lookup name).bind fun id => a.readings.lookup id

/-- Give a name to the node that is about to be read; the number tells it apart. -/
def enter (a : Anchors) (name : Option (List Char)) : Nat × Anchors :=
  let id := a.names.length
  match name with
  | some name => (id, { a with names := (name, id) :: a.names })
  | .none => (id, a)

/-- Remember the reading of a node that has a name. -/
def leave (a : Anchors) (name : Option (List Char)) (id : Nat) (r : Reading) : Anchors :=
  match name with
  | some _ => { a with readings := (id, r) :: a.readings }
  | .none => a

end Anchors

namespace Node

/-- Is the tag one that a collection may have?  Those of one's own are refused. -/
def collectionTag (p : Props) : Bool :=
  match p.tag with
  | some ('!' :: _) => false
  | _ => true

mutual

/-- The value of a node among the anchors before it, and the anchors after it. -/
def reading? : Node → Anchors → Option (Reading × Anchors)
  | .alias name, a =>
    (a.find? name).map fun r => ({ r with jumps := r.jumps + 1 }, a)
  | .scalar p plain text, a =>
    let (id, a) := a.enter p.anchor
    (Scalar.value? (p.tag.map String.ofList) plain text).map fun v =>
      let r : Reading := ⟨v, some (.ofList text), 0, 0⟩
      (r, a.leave p.anchor id r)
  | .sequence p items, a =>
    if collectionTag p then
      let (id, a) := a.enter p.anchor
      (itemReadings? items a).map fun (rs, a) =>
        let r : Reading :=
          { value := .arr (rs.map Reading.value)
            text := none
            height := (rs.map Reading.height).foldl max 0 + 1
            jumps := (rs.map Reading.jumps).foldl (· + ·) 0 }
        (r, a.leave p.anchor id r)
    else none
  | .mapping p pairs, a =>
    if collectionTag p then
      let (id, a) := a.enter p.anchor
      (pairReadings? pairs a).map fun (rs, a) =>
        let r : Reading :=
          { value := .obj (Fields.ofList (rs.map fun (key, r) => (key, r.value)))
            text := none
            height := (rs.map fun (_, r) => r.height).foldl max 0 + 1
            jumps := (rs.map fun (_, r) => r.jumps).foldl (· + ·) 0 }
        (r, a.leave p.anchor id r)
    else none

/-- The readings of the items of a sequence, in order. -/
def itemReadings? : List Node → Anchors → Option (List Reading × Anchors)
  | [], a => some ([], a)
  | item :: rest, a => do
    let (r, a) ← reading? item a
    let (rs, a) ← itemReadings? rest a
    some (r :: rs, a)

/-- The keys and readings of the pairs of a mapping, in order.  The cost of a key is added to that
of its value. -/
def pairReadings? : List (Node × Node) → Anchors → Option (List (String × Reading) × Anchors)
  | [], a => some ([], a)
  | (key, value) :: rest, a => do
    let (text, jumps, a) ← keyText? key a
    let (r, a) ← reading? value a
    let (rs, a) ← pairReadings? rest a
    some ((text, { r with jumps := r.jumps + jumps }) :: rs, a)

/-- The text of a key node, which has to be a scalar or stand for one; its tag has no meaning. -/
def keyText? : Node → Anchors → Option (String × Nat × Anchors)
  | .alias name, a => (a.find? name).bind fun r => r.text.map fun t => (t, r.jumps + 1, a)
  | .scalar p plain text, a =>
    let (id, a) := a.enter p.anchor
    let r : Option Reading :=
      (Scalar.value? (p.tag.map String.ofList) plain text).map fun v =>
        ⟨v, some (.ofList text), 0, 0⟩
    match r with
    | some r => some (.ofList text, 0, a.leave p.anchor id r)
    | none => some (.ofList text, 0, a)
  | _, _ => none

end

mutual

/-- The number of marks of a node: one for a scalar or an alias, two for a collection besides those
of what it holds. -/
def marks : Node → Nat
  | .alias _ => 1
  | .scalar _ _ _ => 1
  | .sequence _ items => itemMarks items + 2
  | .mapping _ pairs => pairMarks pairs + 2

/-- The number of marks of some nodes. -/
def itemMarks : List Node → Nat
  | [] => 0
  | item :: rest => marks item + itemMarks rest

/-- The number of marks of some pairs. -/
def pairMarks : List (Node × Node) → Nat
  | [] => 0
  | (key, value) :: rest => marks key + marks value + pairMarks rest

end

/-- How deep collections may nest. -/
def maxHeight : Nat := 128

/-- How many aliases may be followed for each mark of a document. -/
def jumpsPerMark : Nat := 100

/-- The value of the node of a document, within the limits. -/
def value? (node : Node) : Option Json :=
  (reading? node .none).bind fun (r, _) =>
    if r.height ≤ maxHeight ∧ r.jumps ≤ node.marks * jumpsPerMark then some r.value else none

end Node

/-- A document text as a data value. -/
def parse? (text : String) : Option Json :=
  (Token.scan? text.toList).bind fun ts => (Node.ofTokens? ts).bind Node.value?

end Runbook.Yaml
