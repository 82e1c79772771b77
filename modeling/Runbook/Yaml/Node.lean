import Runbook.Yaml.Token

/-!
# Nodes

The tree that the tokens of a document spell: texts, sequences and mappings with their properties,
and aliases that stand for a node with an anchor.

## Main definitions

* `Node`: the tree
* `Node.read?`: the node that a list of tokens starts with
* `Node.ofTokens?`: the node of a whole document text

## Design notes

A node that is left out is an empty plain text.  A sequence may be the value of a mapping without
being indented further; its entries then end at the first token that is no dash.  Inside a flow
sequence `key: value` is a mapping of its own.

Every call of the readers below reads a token or descends into the one reader that does, so a
multiple of the number of tokens is fuel enough.
-/

namespace Runbook.Yaml

/-- The properties of a node. -/
structure Props where
  /-- The name by which aliases refer to the node. -/
  anchor : Option (List Char)
  /-- The tag, with its handle replaced. -/
  tag : Option (List Char)
deriving DecidableEq, Repr

/-- The tree of a document. -/
inductive Node where
  | alias (name : List Char)
  | scalar (props : Props) (plain : Bool) (text : List Char)
  | sequence (props : Props) (items : List Node)
  | mapping (props : Props) (pairs : List (Node × Node))
deriving Repr, Inhabited

namespace Node

/-- A node that is left out. -/
def missing : Node := .scalar ⟨none, none⟩ true []

/-- Handles of tags and what they stand for. -/
abbrev Handles := List (List Char × List Char)

/-- The handles that every document has. -/
def commonHandles : Handles :=
  [(['!'], ['!']), (['!', '!'], "tag:yaml.org,2002:".toList)]

/-- The full tag of a handle and a suffix. -/
def fullTag? (handles : Handles) (handle suffix : List Char) : Option (List Char) :=
  if handle.isEmpty then some suffix
  else (handles.lookup handle).map (· ++ suffix)

/-- Read the properties in front of a node: an anchor and a tag, in either order. -/
def props? (handles : Handles) (ts : List Token) : Option (Props × List Token) :=
  match ts with
  | .anchor a :: .tag h s :: rest => (fullTag? handles h s).map fun t => (⟨some a, some t⟩, rest)
  | .tag h s :: .anchor a :: rest => (fullTag? handles h s).map fun t => (⟨some a, some t⟩, rest)
  | .anchor a :: rest => some (⟨some a, none⟩, rest)
  | .tag h s :: rest => (fullTag? handles h s).map fun t => (⟨none, some t⟩, rest)
  | rest => some (⟨none, none⟩, rest)

/-- A lone `!` on a text is no tag. -/
def textProps (p : Props) : Props := if p.tag = some ['!'] then { p with tag := none } else p

/-- Does a comma or a closing bracket come next? -/
def endsEntry (close : Token) : List Token → Bool
  | t :: _ => t == .flowEntry || t == close
  | [] => false

/-- Does a value, a comma or a closing bracket come next? -/
def endsKey (close : Token) (ts : List Token) : Bool :=
  ts.head? == some .value || endsEntry close ts

/-- Does an indicator of a block mapping come next? -/
def endsBlock : List Token → Bool
  | t :: _ => t == .key || t == .value || t == .blockEnd
  | [] => false

mutual

/-- The node at the front.  `block` tells whether block collections may stand here, `indentless`
whether a sequence may stand here without being indented. -/
def read? (handles : Handles) : Nat → Bool → Bool → List Token → Option (Node × List Token)
  | 0, _, _, _ => none
  | _ + 1, _, _, .alias name :: rest => some (.alias name, rest)
  | fuel + 1, block, indentless, ts =>
    (props? handles ts).bind fun (p, ts) =>
      match ts with
      | .scalar plain text :: rest => some (.scalar (textProps p) plain text, rest)
      | .flowSequenceStart :: rest =>
        (flowItems? handles fuel true rest).map fun (items, rest) => (.sequence p items, rest)
      | .flowMappingStart :: rest =>
        (flowPairs? handles fuel true rest).map fun (pairs, rest) => (.mapping p pairs, rest)
      | t :: rest =>
        if t = .blockEntry ∧ indentless then
          (looseItems? handles fuel (t :: rest)).map fun (items, rest) => (.sequence p items, rest)
        else if t = .blockSequenceStart ∧ block then
          (blockItems? handles fuel rest).map fun (items, rest) => (.sequence p items, rest)
        else if t = .blockMappingStart ∧ block then
          (blockPairs? handles fuel rest).map fun (pairs, rest) => (.mapping p pairs, rest)
        else if p.anchor.isSome || p.tag.isSome then some (.scalar p true [], t :: rest)
        else none
      | [] => if p.anchor.isSome || p.tag.isSome then some (.scalar p true [], []) else none

/-- The entries of a block sequence and its end. -/
def blockItems? (handles : Handles) : Nat → List Token → Option (List Node × List Token)
  | 0, _ => none
  | fuel + 1, ts =>
    match ts with
    | .blockEnd :: rest => some ([], rest)
    | .blockEntry :: rest => do
      let absent : Bool := match rest with
        | t :: _ => t == .blockEntry || t == .blockEnd
        | [] => false
      let (item, rest) ← if absent then some (missing, rest) else read? handles fuel true false rest
      let (items, rest) ← blockItems? handles fuel rest
      some (item :: items, rest)
    | _ => none

/-- The entries of a sequence that is not indented. -/
def looseItems? (handles : Handles) : Nat → List Token → Option (List Node × List Token)
  | 0, _ => none
  | fuel + 1, ts =>
    match ts with
    | .blockEntry :: rest => do
      let absent : Bool := match rest with
        | t :: _ => t == .blockEntry || endsBlock (t :: rest)
        | [] => false
      let (item, rest) ← if absent then some (missing, rest) else read? handles fuel true false rest
      let (items, rest) ← looseItems? handles fuel rest
      some (item :: items, rest)
    | rest => some ([], rest)

/-- The pairs of a block mapping and its end. -/
def blockPairs? (handles : Handles) : Nat → List Token → Option (List (Node × Node) × List Token)
  | 0, _ => none
  | fuel + 1, ts =>
    match ts with
    | .blockEnd :: rest => some ([], rest)
    | .key :: rest => do
      let (key, rest) ←
        if endsBlock rest then some (missing, rest) else read? handles fuel true true rest
      let (value, rest) ← match rest with
        | .value :: rest =>
          if endsBlock rest then some (missing, rest) else read? handles fuel true true rest
        | rest => some (missing, rest)
      let (pairs, rest) ← blockPairs? handles fuel rest
      some ((key, value) :: pairs, rest)
    | _ => none

/-- The entries of a flow sequence and its closing bracket.  A pair that has no key takes the
token after the question mark with it. -/
def flowItems? (handles : Handles) : Nat → Bool → List Token → Option (List Node × List Token)
  | 0, _, _ => none
  | fuel + 1, first, ts =>
    match ts with
    | .flowSequenceEnd :: rest => some ([], rest)
    | ts => do
      let ts ← if first then some ts
        else match ts with
          | .flowEntry :: rest => some rest
          | _ => none
      match ts with
      | .flowSequenceEnd :: rest => some ([], rest)
      | .key :: rest =>
        let (key, rest) ←
          if endsKey .flowSequenceEnd rest then some (missing, rest.drop 1)
          else read? handles fuel false false rest
        let (value, rest) ← match rest with
          | .value :: rest =>
            if endsEntry .flowSequenceEnd rest then some (missing, rest)
            else read? handles fuel false false rest
          | rest => some (missing, rest)
        let (items, rest) ← flowItems? handles fuel false rest
        some (.mapping ⟨none, none⟩ [(key, value)] :: items, rest)
      | ts =>
        let (item, rest) ← read? handles fuel false false ts
        let (items, rest) ← flowItems? handles fuel false rest
        some (item :: items, rest)

/-- The pairs of a flow mapping and its closing bracket. -/
def flowPairs? (handles : Handles) :
    Nat → Bool → List Token → Option (List (Node × Node) × List Token)
  | 0, _, _ => none
  | fuel + 1, first, ts =>
    match ts with
    | .flowMappingEnd :: rest => some ([], rest)
    | ts => do
      let ts ← if first then some ts
        else match ts with
          | .flowEntry :: rest => some rest
          | _ => none
      match ts with
      | .flowMappingEnd :: rest => some ([], rest)
      | .key :: rest =>
        let (key, rest) ←
          if endsKey .flowMappingEnd rest then some (missing, rest)
          else read? handles fuel false false rest
        let (value, rest) ← match rest with
          | .value :: rest =>
            if endsEntry .flowMappingEnd rest then some (missing, rest)
            else read? handles fuel false false rest
          | rest => some (missing, rest)
        let (pairs, rest) ← flowPairs? handles fuel false rest
        some ((key, value) :: pairs, rest)
      | ts =>
        let (key, rest) ← read? handles fuel false false ts
        let (pairs, rest) ← flowPairs? handles fuel false rest
        some ((key, missing) :: pairs, rest)

end

/-- The directives at the front of a document: the handles they define, whether there was a
version, and whether there was any.  A version has to be 1.1 or 1.2 and may come once; so may the
definition of each handle. -/
def directives? : List Token → Handles → Bool → Option (Handles × List Token)
  | .version major minor :: rest, handles, versioned =>
    if versioned || major != 1 || (minor != 1 && minor != 2) then none
    else directives? rest handles true
  | .tagHandle handle stem :: rest, handles, versioned =>
    if (handles.lookup handle).isSome then none
    else directives? rest (handles ++ [(handle, stem)]) versioned
  | rest, handles, _ => some (handles, rest)

/-- The node of the document at the front. -/
def document? (ts : List Token) : Option (Node × List Token) := do
  let (handles, rest) ← directives? ts [] false
  let fuel := 4 * ts.length + 4
  match rest with
  | .documentStart :: rest =>
    match rest with
    | [] => some (missing, [])
    | .version _ _ :: _ | .tagHandle _ _ :: _ | .documentStart :: _ | .documentEnd :: _ =>
      some (missing, rest)
    | rest => read? (handles ++ commonHandles) fuel true false rest
  | rest =>
    -- directives need a document mark after them
    if rest.length = ts.length then read? commonHandles fuel true false rest else none

/-- The node of a whole text, which holds one document at the most.  A text without a document is
an empty plain text. -/
def ofTokens? (ts : List Token) : Option Node :=
  match ts with
  | [] => some missing
  | ts =>
    (document? ts).bind fun (node, rest) =>
      if rest.all (· == .documentEnd) then some node else none

end Node

end Runbook.Yaml
