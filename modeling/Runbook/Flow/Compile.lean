import Runbook.Flow.Basic
import Runbook.Flow.Outline
import Runbook.Yaml.Document

/-!
# Compiling procedures

A procedure document becomes a flow in two passes over its outline.  The first collects the
declared names and refuses the document if one of them occurs twice.  The second lists the steps,
each before its children, and wires them together: by default a step leads to the one after it, and
the last step of a list to what comes after the list.

## Main definitions

* `Wiring`: the configuration and transitions of a step, and whether its children are entered
* `Outline.steps`: the steps of an outline, wired to what comes next
* `Flow.ofValue`, `Flow.ofText`: a document as a flow
* `SourceError`: why a document is refused

## Design notes

A loop and a branch with children enter them: the header of a loop leads to the first child and to
what comes next, and the last child leads back to the header; a branch leads to the first child
under its condition and to what comes next, and so does the last child.  Any other step with a
`next` has exactly the transitions written there.  What a reader of documents has to complain about
a text is left open; the mark `<yaml>` holds the place of its words.
-/

namespace Runbook

/-- Why a document is refused. -/
inductive SourceError where
  /-- The text is not one readable document. -/
  | unreadable
  /-- The document is no mapping. -/
  | notMapping
  /-- There is no list of steps. -/
  | noSteps
  /-- Some names are declared more than once. -/
  | duplicateNames (names : List String)
deriving DecidableEq, Repr

namespace SourceError

/-- The wording of a refusal. -/
def message : SourceError → String
  | unreadable => "<yaml>"
  | notMapping => "Invalid YAML: expected a mapping"
  | noSteps => "Invalid flow: missing \"steps\" list"
  | duplicateNames names => "Duplicate step names: " ++ ", ".intercalate names

end SourceError

namespace StepKind

/-- The kind that a `type` names; an unknown one makes a task. -/
def ofType (value : Json) : StepKind :=
  match parse (value.str?.getD value.compress) with
  | .ok kind => kind
  | .error _ => .task

/-- The kind of a step by the keys of its body. -/
def infer (body : Json.Object) : StepKind :=
  let has := Fields.contains body
  match Fields.get? body "type" with
  | some value => ofType value
  | none =>
    if has "branch" || (has "if" && !has "children" && !has "steps") then .branch
    else if has "loop" || has "iterate" then .loop
    else if has "wait" then .wait
    else if has "jump" || (has "target" && !has "condition") then .jump
    else if has "assert" || has "condition" then .assert
    else if has "terminate" then .terminate
    else .task

end StepKind

namespace Keyword

/-- The first usable scalar under some keys, as text. -/
def firstText? (body : Json.Object) (keys : List String) : Option String :=
  keys.findSome? fun key => (Fields.get? body key).bind scalarText?

end Keyword

namespace Transition

/-- An edge with the condition under some keys, if there is a usable one. -/
def withCondition (target : String) (body : Json.Object) (keys : List String) : Transition :=
  ⟨target, Keyword.firstText? body keys⟩

/-- The transition that an entry of `next` declares, if it names a target. -/
def ofEntry? : Json → Option Transition
  | .obj fields =>
    (Keyword.firstText? fields ["go", "target"]).map fun target =>
      withCondition target fields ["if", "condition"]
  | .str target => some (plain target)
  | _ => none

/-- The transitions that the value of `next` declares: one name, or a list of entries. -/
def ofNext : Json → List Transition
  | .str target => [plain target]
  | .arr entries => entries.filterMap ofEntry?
  | _ => []

/-- The default edge to what comes next, if anything does. -/
def toNext (next : Option String) : List Transition := (next.map plain).toList

end Transition

/-- How a step is tied to the others. -/
structure Wiring where
  /-- Does the step follow its transitions on arrival? -/
  auto : Bool := false
  /-- The iterate expression of a loop. -/
  iterate : Option String := none
  /-- The edges. -/
  transitions : List Transition
  /-- If the children are entered: what comes after the last of them, if anything does. -/
  children : Option (Option String) := none

namespace Wiring

/-- The wiring of a step that is asserted: on to the next step under the condition, else to the
step that handles a failure. -/
def assertion (body : Json.Object) (next : Option String) : Wiring :=
  match Keyword.firstText? body ["condition", "assert"] with
  | some condition =>
    { auto := true
      transitions := (next.map (Transition.guarded · condition)).toList
        ++ ((Keyword.firstText? body ["onFail", "target"]).map Transition.plain).toList }
  | none => { auto := true, transitions := Transition.toNext next }

/-- The wiring of a jump: to its target and nowhere else. -/
def jump (body : Json.Object) : Wiring :=
  let target := match Keyword.firstText? body ["target"] with
    | some target => some target
    | none => (Fields.get? body "jump").bind Json.str?
  { auto := true, transitions := (target.map Transition.plain).toList }

/-- The wiring of a step that does not enter children. -/
def plain (kind : StepKind) (body : Json.Object) (next : Option String) : Wiring :=
  match Fields.get? body "next" with
  | some value => { transitions := Transition.ofNext value }
  | none =>
    match kind with
    | .terminate => { transitions := [] }
    | .assert => assertion body next
    | .jump => jump body
    | _ => { transitions := Transition.toNext next }

/-- The wiring of a step with the given first child and the given step after it. -/
def ofBody (kind : StepKind) (name : String) (body : Json.Object) (first next : Option String) :
    Wiring :=
  match kind, first with
  | .loop, some first =>
    { iterate := Keyword.firstText? body ["iterate"]
      transitions := .plain first :: Transition.toNext next
      children := some (some name) }
  | .branch, some first =>
    { auto := true
      transitions := .withCondition first body ["if", "condition"] :: Transition.toNext next
      children := some next }
  | kind, _ => plain kind body next

end Wiring

namespace StepConfig

/-- What a step hands on: the keys that the compiler does not read. -/
def extraOf (body : Json.Object) : Json.Object :=
  body.filter fun field => !Keyword.consumed.contains field.1

/-- The configuration of a step by its kind, its wiring and its body. -/
def ofBody (kind : StepKind) (wiring : Wiring) (body : Json.Object) : StepConfig where
  kind
  wait := kind == .wait
  terminate := kind == .terminate
  reason := if kind = .terminate then Keyword.firstText? body ["reason"] else none
  iterate := wiring.iterate
  auto := wiring.auto || ((Fields.get? body "auto").map Json.truthy).getD false
  extra := extraOf body

end StepConfig

namespace Outline

/-- The wiring of a declared step before `next`. -/
def wiring (o : Outline) (next : Option String) : Wiring :=
  .ofBody (.infer o.body) o.name o.body (o.children.head?.map name) next

/-- The step that a declared step before `next` becomes. -/
def step (o : Outline) (next : Option String) : Step where
  name := o.name
  transitions := (o.wiring next).transitions
  config := .ofBody (.infer o.body) (o.wiring next) o.body

mutual

/-- The steps of an outline before `next`: its own, and those of its children if they are
entered. -/
def steps : Outline → Option String → List Step
  | mk name body children, next =>
    step (mk name body children) next ::
      match (wiring (mk name body children) next).children with
      | some after => stepsOfList children after
      | none => []

/-- The steps of a list of outlines: each leads to the one after it, and the last to `after`. -/
def stepsOfList : List Outline → Option String → List Step
  | [], _ => []
  | o :: rest, after => steps o ((rest.head?.map name).or after) ++ stepsOfList rest after

end

@[simp] theorem stepsOfList_nil (after : Option String) : stepsOfList [] after = [] := rfl

@[simp] theorem stepsOfList_cons (o : Outline) (rest : List Outline) (after : Option String) :
    stepsOfList (o :: rest) after =
      steps o ((rest.head?.map name).or after) ++ stepsOfList rest after := rfl

/-- The names that occur more than once in a list, by their first occurrence. -/
def repeated (names : List String) : List String :=
  names.eraseDups.filter fun name => 1 < names.count name

end Outline

namespace Flow

/-- The flow of a mapping with a list of steps. -/
def ofOutlines (name description : String) (outlines : List Outline) : Flow :=
  let steps := Dict.ofList ((Outline.stepsOfList outlines none).map fun step => (step.name, step))
  { name, description, steps, entry := steps.keys.head?.getD "" }

/-- The flow that a document value declares. -/
def ofValue (document : Json) : Except SourceError Flow :=
  match Keyword.normalize document with
  | .obj root =>
    match Fields.get? root "steps" with
    | some (.arr items) =>
      let outlines := Outline.ofValues items
      match Outline.repeated (Outline.namesOfList outlines) with
      | [] =>
        .ok (ofOutlines (((Fields.get? root "name").bind Keyword.scalarText?).getD "unnamed flow")
          (((Fields.get? root "description").bind Keyword.scalarText?).getD "") outlines)
      | names => .error (.duplicateNames names)
    | _ => .error .noSteps
  | _ => .error .notMapping

/-- The flow that a document text declares. -/
def ofText (text : String) : Except SourceError Flow :=
  match Yaml.parse? text with
  | some document => ofValue document
  | none => .error .unreadable

end Flow

end Runbook
