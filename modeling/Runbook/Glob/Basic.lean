import Runbook.Text.Utf8

/-!
# Globs

A glob is a sequence of tokens that a path has to match from its first to its last byte.  The
wildcards match the slash like any other byte; only the tokens that stand for directories look for
slashes.

## Main definitions

* `Glob.Token`: the tokens
* `Glob.Token.rests`: what may be left of a path after a token
* `Glob.accepts`: does a glob match a whole path?

## Design notes

Matching keeps all the ways to go on at once: after a token there is a list of rests of the path,
and the next token is tried on each of them.  Two equal rests are kept once, so the work is
bounded by the length of the path.  Characters are matched by their UTF-8 bytes: `?` is one byte,
and a class holds bytes, among them every byte of a character that is not ASCII.
-/

namespace Runbook.Glob

/-- The slash between directories. -/
def slash : Nat := 47

/-- The tokens of a glob. -/
inductive Token where
  /-- One character. -/
  | literal (c : Char)
  /-- Any byte. -/
  | any
  /-- Any bytes. -/
  | many
  /-- Nothing, or directories at the start: what a double star before a slash stands for. -/
  | leadingDirs
  /-- A slash and anything after it: what a double star after a slash stands for. -/
  | trailingDirs
  /-- A slash, or a slash and directories: a double star between slashes. -/
  | innerDirs
  /-- One byte in, or not in, some ranges of characters. -/
  | oneOf (negated : Bool) (ranges : List (Char × Char))
  /-- One of some globs. -/
  | choice (branches : List (List Token))

/-- All rests of a path, the path itself first. -/
def suffixes : List Nat → List (List Nat)
  | [] => [[]]
  | b :: rest => (b :: rest) :: suffixes rest

/-- What is left of a path after given bytes. -/
def afterBytes? : List Nat → List Nat → Option (List Nat)
  | [], path => some path
  | b :: bs, p :: path => if b = p then afterBytes? bs path else none
  | _ :: _, [] => none

/-- The rests of a path that start right after a slash. -/
def afterSlashes : List Nat → List (List Nat)
  | [] => []
  | b :: rest => if b = slash then rest :: afterSlashes rest else afterSlashes rest

/-- The ranges of bytes that a range of characters stands for.  Of a character that is not ASCII
every byte is a member by itself, and the range joins the last byte of the lower character to the
first byte of the upper one. -/
def byteRanges (range : Char × Char) : List (Nat × Nat) :=
  let lo := Text.utf8 range.1
  let hi := Text.utf8 range.2
  if range.1 = range.2 then lo.map fun b => (b, b)
  else
    lo.dropLast.map (fun b => (b, b)) ++ [(lo.getLastD 0, hi.headD 0)]
      ++ (hi.drop 1).map fun b => (b, b)

/-- Is a byte in some ranges of characters? -/
def inRanges (ranges : List (Char × Char)) (byte : Nat) : Bool :=
  (ranges.flatMap byteRanges).any fun range => range.1 ≤ byte && byte ≤ range.2

mutual

/-- What may be left of a path after a token. -/
def Token.rests : Token → List Nat → List (List Nat)
  | .literal c, path => (afterBytes? (Text.utf8 c) path).toList
  | .any, path => path.tail?.toList
  | .many, path => suffixes path
  | .leadingDirs, path => path :: afterSlashes path
  | .trailingDirs, path => if path.head? = some slash then suffixes (path.drop 1) else []
  | .innerDirs, path =>
    if path.head? = some slash then path.drop 1 :: afterSlashes (path.drop 1) else []
  | .oneOf negated ranges, path =>
    match path with
    | b :: rest => if inRanges ranges b != negated then [rest] else []
    | [] => []
  | .choice branches, path => if hasBranch branches then branchRests branches path else [path]

/-- What may be left of a path after a sequence of tokens. -/
def restsOfList : List Token → List Nat → List (List Nat)
  | [], path => [path]
  | t :: ts, path => ((t.rests path).eraseDups.flatMap (restsOfList ts)).eraseDups

/-- Does a choice offer anything?  An empty branch offers nothing, and neither does one that only
holds choices that offer nothing. -/
def hasBranch : List (List Token) → Bool
  | [] => false
  | branch :: rest => isSolid branch || hasBranch rest

/-- Does a sequence of tokens have a token that is no empty choice? -/
def isSolid : List Token → Bool
  | [] => false
  | .choice branches :: rest => hasBranch branches || isSolid rest
  | _ :: _ => true

/-- What may be left of a path after one of some branches; an empty branch is passed over. -/
def branchRests : List (List Token) → List Nat → List (List Nat)
  | [], _ => []
  | branch :: rest, path =>
    (if isSolid branch then restsOfList branch path else []) ++ branchRests rest path

end

end Runbook.Glob

namespace Runbook

/-- A glob, token by token. -/
abbrev Glob := List Glob.Token

namespace Glob

/-- Does the glob match the whole path?  A glob that is a lone double star matches every path. -/
def accepts (glob : Glob) (path : List Char) : Bool :=
  match glob with
  | [.leadingDirs] => true
  | tokens => (restsOfList tokens (Text.bytes path)).contains []

@[simp] theorem restsOfList_nil (path : List Nat) : restsOfList [] path = [path] := by
  simp [restsOfList]

end Glob

end Runbook
