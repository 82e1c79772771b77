import Runbook.Proofs.Flow.Accepted

/-!
# Documents of tasks and loops

The plainest documents are built from bare names and from loops over lists, nested in each other.
They are programs, and this module says what they mean and what flow they become.

## Main definitions

* `Block`: a task or a loop
* `Block.toJson`: how a block is written
* `Block.unroll`: the tasks that a block comes to, one after the other
* `Block.Declared`: a document declares some blocks
* `Step.Made`: the steps that blocks become

## Main statements

* `Block.ofValues_toJsons`: the outlines of written blocks
* `Flow.compile_of_blocks`: a document of blocks can be loaded, and what its flow looks like

## Design notes

A block says nothing of what comes after it.  The step that a block becomes does, so everything that
is said about steps is said for an arbitrary step after the block, and about lists of blocks for an
arbitrary step after the last of them.
-/

namespace Runbook

/-- A task, or a loop over a list with the blocks of its body. -/
inductive Block where
  | task (name : String)
  | loop (name list : String) (body : List Block)

namespace Block

/-- The name of a block. -/
def name : Block → String
  | task name | loop name _ _ => name

mutual

/-- A block as it is written: a bare name, or a mapping with three keys. -/
def toJson : Block → Json
  | task name => .str name
  | loop name list body =>
    .obj [("children", .arr (toJsons body)), ("iterate", .str list), ("name", .str name)]

/-- Blocks as they are written. -/
def toJsons : List Block → List Json
  | [] => []
  | b :: rest => toJson b :: toJsons rest

end

mutual

/-- A written block has no other spelling. -/
theorem normalize_toJson : ∀ b : Block, Keyword.normalize b.toJson = b.toJson
  | task name => by
    rw [toJson]
    simp only [Keyword.normalize]
  | loop name list body => by
    have children : Keyword.normalizeKey "children" = "children" := by decide
    have iterate : Keyword.normalizeKey "iterate" = "iterate" := by decide
    have named : Keyword.normalizeKey "name" = "name" := by decide
    have ordered : Fields.Ordered
        [("children", .arr (toJsons body)), ("iterate", .str list), ("name", Json.str name)] :=
      show ["children", "iterate", "name"].Pairwise (· < ·) by decide +kernel
    simp only [toJson, Keyword.normalize, Keyword.normalizeFields, children, iterate, named,
      normalizeItems_toJsons body, Fields.ofList_of_ordered ordered]

theorem normalizeItems_toJsons : ∀ blocks : List Block,
    Keyword.normalizeItems (toJsons blocks) = toJsons blocks
  | [] => by rw [toJsons, Keyword.normalizeItems]
  | b :: rest => by
    rw [toJsons, Keyword.normalizeItems, normalize_toJson b, normalizeItems_toJsons rest]

end

/-- The document that has nothing but some blocks. -/
def document (blocks : List Block) : Json := .obj [("steps", .arr (toJsons blocks))]

mutual

/-- The names in a block. -/
def names : Block → List String
  | task name => [name]
  | loop name _ body => name :: namesOfList body

/-- The names in some blocks. -/
def namesOfList : List Block → List String
  | [] => []
  | b :: rest => names b ++ namesOfList rest

end

mutual

/-- The lists that the loops of a block run over. -/
def lists : Block → List String
  | task _ => []
  | loop _ list body => list :: listsOfList body

/-- The lists that the loops of some blocks run over. -/
def listsOfList : List Block → List String
  | [] => []
  | b :: rest => lists b ++ listsOfList rest

end

mutual

/-- Every loop of a block has a body. -/
def Filled : Block → Prop
  | task _ => True
  | loop _ _ body => body ≠ [] ∧ FilledList body

/-- Every loop of some blocks has a body. -/
def FilledList : List Block → Prop
  | [] => True
  | b :: rest => Filled b ∧ FilledList rest

end

mutual

/-- The tasks that a block comes to, if the lists have these sizes: a task comes to itself, and a
loop to its body once for each item of its list. -/
def unroll (size : String → Nat) : Block → List String
  | task name => [name]
  | loop _ list body => (List.replicate (size list) (unrollOfList size body)).flatten

/-- The tasks that some blocks come to. -/
def unrollOfList (size : String → Nat) : List Block → List String
  | [] => []
  | b :: rest => unroll size b ++ unrollOfList size rest

end

/-! ## Outlines of blocks -/

/-- The body of a written loop. -/
def fields (name list : String) (body : List Block) : Json.Object :=
  [("children", .arr (toJsons body)), ("iterate", .str list), ("name", .str name)]

mutual

/-- The outline of a block. -/
def outline : Block → Outline
  | task name => .mk name [] []
  | loop name list body => .mk name (fields name list body) (outlines body)

/-- The outlines of some blocks. -/
def outlines : List Block → List Outline
  | [] => []
  | b :: rest => outline b :: outlines rest

end

@[simp] theorem name_outline (b : Block) : b.outline.name = b.name := by
  cases b <;> rfl

theorem head?_outlines (blocks : List Block) :
    (outlines blocks).head?.map Outline.name = blocks.head?.map name := by
  cases blocks with
  | nil => rfl
  | cons b rest =>
    rw [outlines, List.head?_cons, List.head?_cons, Option.map_some, Option.map_some, name_outline]

/-- The written children of a loop are its body. -/
theorem childItems_fields {name list : String} {body : List Block} (filled : body ≠ []) :
    Outline.childItems (fields name list body) = toJsons body := by
  cases body with
  | nil => exact absurd rfl filled
  | cons b rest =>
    simp only [Outline.childItems, Outline.itemsUnder?, fields, Fields.get?_cons]
    rfl

mutual

/-- The outline of a written block. -/
theorem ofValue_toJson : ∀ {b : Block}, Filled b → Outline.ofValue b.toJson = b.outline
  | task name, _ => by
    rw [toJson, Outline.ofValue_eq]
    rfl
  | loop name list body, filled => by
    rw [Filled] at filled
    have heading : Outline.heading (loop name list body).toJson =
        (name, fields name list body) := by
      rw [toJson]
      rfl
    rw [Outline.ofValue_eq, heading, childItems_fields filled.1, outline, ofValues_toJsons filled.2]

/-- **The outlines of written blocks** are the outlines of the blocks. -/
theorem ofValues_toJsons : ∀ {blocks : List Block}, FilledList blocks →
    Outline.ofValues (toJsons blocks) = outlines blocks
  | [], _ => by
    rw [toJsons, outlines]
    rfl
  | b :: rest, filled => by
    rw [FilledList] at filled
    rw [toJsons, outlines, ← ofValue_toJson filled.1, ← ofValues_toJsons filled.2]
    rfl

end

mutual

theorem names_outline : ∀ b : Block, Outline.names b.outline = b.names
  | task name => by
    rw [outline, names, Outline.names]
    rfl
  | loop name list body => by
    rw [outline, names, Outline.names, namesOfList_outlines body]

theorem namesOfList_outlines : ∀ blocks : List Block,
    Outline.namesOfList (outlines blocks) = namesOfList blocks
  | [] => by
    rw [outlines, namesOfList]
    rfl
  | b :: rest => by
    rw [outlines, namesOfList, Outline.namesOfList_cons, names_outline b,
      namesOfList_outlines rest]

end

end Block

/-! ## Steps of blocks -/

namespace Step

/-- The step of a task before `next`. -/
def task (name : String) (next : Option String) : Step where
  name
  transitions := Transition.toNext next

/-- The header of a loop whose body starts with `first`, before `next`. -/
def header (name list first : String) (next : Option String) : Step where
  name
  transitions := .plain first :: Transition.toNext next
  config := { kind := .loop, iterate := some list }

/-- A step of the kinds that blocks become.  It leads to known names, and a loop runs over one of
the lists and has a way out. -/
inductive Made (known lists : String → Prop) : Step → Prop where
  | task {name : String} {next : Option String}
      (onward : ∀ target, next = some target → known target) : Made known lists (task name next)
  | header {name list first exit : String} (ranged : lists list) (inward : known first)
      (outward : known exit) : Made known lists (header name list first (some exit))

/-- A loop of a known kind runs over one of the lists. -/
theorem Made.listed {known lists : String → Prop} {step : Step} (made : Made known lists step)
    {list : String} (iterate : step.config.iterate = some list) : lists list := by
  cases made with
  | task onward => cases iterate
  | header ranged inward outward =>
    obtain rfl := Option.some.inj iterate
    exact ranged

end Step

namespace Block

/-- The step of a task. -/
theorem steps_task (name : String) (next : Option String) :
    Outline.steps (outline (task name)) next = [.task name next] := by
  rw [outline, Outline.steps]
  rfl

/-- The steps of a loop: its header, and those of its body, which leads back to it. -/
theorem steps_loop {name list : String} {b : Block} {rest : List Block} (named : list ≠ "")
    (next : Option String) :
    Outline.steps (outline (loop name list (b :: rest))) next =
      .header name list b.name next ::
        Outline.stepsOfList (outlines (b :: rest)) (some name) := by
  have iterate : Keyword.firstText? (fields name list (b :: rest)) ["iterate"] = some list := by
    have usable : Keyword.scalarText? (.str list) = some list := by
      simp [Keyword.scalarText?, Json.truthy, named]
    simp [Keyword.firstText?, fields, Fields.get?_cons, usable]
  have kind : StepKind.infer (fields name list (b :: rest)) = .loop := by
    rfl
  have wiring : Outline.wiring (outline (loop name list (b :: rest))) next =
      { iterate := some list
        transitions := .plain b.name :: Transition.toNext next
        children := some (some name) } := by
    rw [outline, Outline.wiring]
    show Wiring.ofBody (StepKind.infer (fields name list (b :: rest))) name
      (fields name list (b :: rest)) ((outlines (b :: rest)).head?.map Outline.name) next = _
    rw [kind, head?_outlines]
    show Wiring.mk _ _ _ _ = _
    rw [iterate]
  rw [outline] at wiring ⊢
  rw [Outline.steps, wiring]
  refine congrArg (· :: _) ?_
  rw [Outline.step, wiring]
  show Step.mk name _ (StepConfig.ofBody (StepKind.infer (fields name list (b :: rest))) _ _) = _
  rw [kind]
  rfl

mutual

/-- The steps of a block are named as the block and what is in it. -/
theorem map_name_steps : ∀ {b : Block} (next : Option String), Filled b → "" ∉ lists b →
    (Outline.steps b.outline next).map Step.name = b.names
  | task name, next, _, _ => by
    rw [steps_task, names]
    rfl
  | loop name list body, next, filled, named => by
    rw [Filled] at filled
    rw [lists, List.mem_cons, not_or] at named
    cases body with
    | nil => exact absurd rfl filled.1
    | cons b rest =>
      rw [steps_loop (Ne.symm named.1), List.map_cons, names,
        map_name_stepsOfList (some name) filled.2 named.2]
      rfl

theorem map_name_stepsOfList : ∀ {blocks : List Block} (after : Option String),
    FilledList blocks → "" ∉ listsOfList blocks →
    (Outline.stepsOfList (outlines blocks) after).map Step.name = namesOfList blocks
  | [], _, _, _ => by
    rw [outlines, namesOfList]
    rfl
  | b :: rest, after, filled, named => by
    rw [FilledList] at filled
    rw [listsOfList, List.mem_append, not_or] at named
    rw [outlines, Outline.stepsOfList_cons, List.map_append, namesOfList,
      map_name_steps _ filled.1 named.1, map_name_stepsOfList after filled.2 named.2]

end

/-- A block that is followed by nothing is a task. -/
def Followed (b : Block) (next : Option String) : Prop :=
  next = none → ∃ name, b = task name

/-- If some blocks are followed by nothing, the last of them is a task. -/
def FollowedList (blocks : List Block) (after : Option String) : Prop :=
  ∀ b, blocks.getLast? = some b → b.Followed after

theorem FollowedList.cons {b : Block} {rest : List Block} {after : Option String}
    (followed : FollowedList (b :: rest) after) :
    b.Followed ((rest.head?.map name).or after) ∧ FollowedList rest after := by
  cases rest with
  | nil => exact ⟨followed b rfl, fun _ last => by cases last⟩
  | cons second rest =>
    refine ⟨nofun, fun last same => followed last ?_⟩
    rw [List.getLast?_cons_cons, same]

/-- A name that comes after some blocks, be it in them or behind them, is known if all of these
are. -/
theorem known_next {known : String → Prop} (rest : List Block) (after : Option String)
    (inside : ∀ name ∈ namesOfList rest, known name)
    (behind : ∀ target, after = some target → known target) {target : String}
    (next : (rest.head?.map name).or after = some target) : known target := by
  cases rest with
  | nil => exact behind target next
  | cons second rest =>
    obtain rfl := Option.some.inj next
    refine inside _ ?_
    rw [namesOfList]
    refine List.mem_append_left _ ?_
    cases second <;> rw [names]
    · exact List.mem_singleton.2 rfl
    · exact List.mem_cons_self

section Made

variable {known listed : String → Prop}

mutual

/-- Blocks become steps of two kinds, if what comes after them is known. -/
theorem made_steps : ∀ {b : Block} {next : Option String}, Filled b → "" ∉ lists b →
    b.Followed next → (∀ name ∈ names b, known name) → (∀ list ∈ lists b, listed list) →
    (∀ target, next = some target → known target) →
    ∀ made ∈ Outline.steps b.outline next, made.Made known listed
  | task name, next, _, _, _, _, _, onward => by
    intro made member
    rw [steps_task] at member
    obtain rfl := List.mem_singleton.1 member
    exact .task onward
  | loop name list body, next, filled, named, followed, inside, ranged, onward => by
    rw [Filled] at filled
    rw [lists, List.mem_cons, not_or] at named
    rw [names, List.forall_mem_cons] at inside
    rw [lists, List.forall_mem_cons] at ranged
    cases body with
    | nil => exact absurd rfl filled.1
    | cons b rest =>
      intro made member
      rw [steps_loop (Ne.symm named.1)] at member
      rcases List.mem_cons.1 member with rfl | member
      · cases next with
        | none =>
          obtain ⟨other, same⟩ := followed rfl
          cases same
        | some exit =>
          exact .header ranged.1 (known_next (b :: rest) none inside.2
            (fun _ none => by cases none) rfl) (onward exit rfl)
      · refine made_stepsOfList filled.2 named.2 (fun _ _ none => by cases none) inside.2 ranged.2
          (fun target same => ?_) made member
        obtain rfl := Option.some.inj same
        exact inside.1

theorem made_stepsOfList : ∀ {blocks : List Block} {after : Option String}, FilledList blocks →
    "" ∉ listsOfList blocks → FollowedList blocks after →
    (∀ name ∈ namesOfList blocks, known name) → (∀ list ∈ listsOfList blocks, listed list) →
    (∀ target, after = some target → known target) →
    ∀ made ∈ Outline.stepsOfList (outlines blocks) after, made.Made known listed
  | [], _, _, _, _, _, _, _ => by
    rw [outlines]
    simp
  | b :: rest, after, filled, named, followed, inside, ranged, onward => by
    rw [FilledList] at filled
    rw [listsOfList, List.mem_append, not_or] at named
    rw [namesOfList, List.forall_mem_append] at inside
    rw [listsOfList, List.forall_mem_append] at ranged
    rw [outlines, Outline.stepsOfList_cons, List.forall_mem_append, head?_outlines]
    exact ⟨made_steps filled.1 named.1 followed.cons.1 inside.1 ranged.1
        fun target next => known_next rest after inside.2 onward next,
      made_stepsOfList filled.2 named.2 followed.cons.2 inside.2 ranged.2 onward⟩

end

end Made

/-- A document declares some blocks, and they are such that there is nothing to be said against
it: names are distinct and not empty, loops have bodies, and the last block is a task. -/
structure Declared (document : Json) (blocks : List Block) : Prop where
  listed : ∃ root, Keyword.normalize document = .obj root ∧
    Fields.get? root "steps" = some (.arr (toJsons blocks))
  filled : FilledList blocks
  distinct : (namesOfList blocks).Nodup
  named : "" ∉ namesOfList blocks
  last : ∃ name, blocks.getLast? = some (task name)

theorem Declared.followed {document : Json} {blocks : List Block}
    (declared : Declared document blocks) : FollowedList blocks none := by
  obtain ⟨last, ends⟩ := declared.last
  intro b found _
  exact ⟨last, Option.some.inj (found.symm.trans ends)⟩

end Block

namespace Flow

/-- The flow is that of some blocks. -/
structure Unfolds (flow : Flow) (blocks : List Block) : Prop where
  /-- The steps of the blocks are filed. -/
  filed : ∀ made ∈ Outline.stepsOfList (Block.outlines blocks) none,
    flow.step? made.name = some made
  /-- There are no other steps. -/
  made : ∀ {name step}, flow.step? name = some step →
    step.Made (· ∈ Block.namesOfList blocks) (· ∈ Block.listsOfList blocks)
  /-- They are named as the blocks are. -/
  names : ∀ {name}, flow.contains name = true → name ∈ Block.namesOfList blocks
  /-- The run starts at the first block. -/
  entry : blocks.head?.map Block.name = some flow.entry

section Compile

variable {blocks : List Block}

/-- The checks have nothing to say against the flow of some blocks. -/
theorem Unfolds.clean {flow : Flow} (unfolds : flow.Unfolds blocks)
    (keys : flow.steps.keys = Block.namesOfList blocks) (named : "" ∉ Block.namesOfList blocks) :
    hasErrors flow.check = false := by
  have known : ∀ target ∈ Block.namesOfList blocks, flow.contains target = true := by
    intro target member
    rw [← keys] at member
    exact (Dict.contains_iff _ _).2 member
  have entry : flow.entry ∈ Block.namesOfList blocks := by
    obtain ⟨first, listed, same⟩ := Option.map_eq_some_iff.1 unfolds.entry
    refine Block.known_next blocks none (fun _ member => member) nofun ?_
    rw [listed, ← same]
    rfl
  have made : ∀ step ∈ flow.steps.values,
      step.Made (· ∈ Block.namesOfList blocks) (· ∈ Block.listsOfList blocks) := by
    intro step member
    obtain ⟨entry, inside, rfl⟩ := List.mem_map.1 member
    exact unfolds.made ((Dict.get?_eq_some_iff _ _ _).2 inside)
  refine hasErrors_check_iff.2 ⟨isEmpty_of_contains (known _ entry),
    fun none => named (none ▸ entry), known _ entry, ?_, ?_⟩
  · intro step member t taken
    cases made step member with
    | @task name next onward =>
      cases next with
      | none => cases taken
      | some target =>
        obtain rfl := List.mem_singleton.1 taken
        exact known _ (onward target rfl)
    | header ranged inward outward =>
      rcases List.mem_cons.1 taken with rfl | taken
      · exact known _ inward
      · obtain rfl := List.mem_singleton.1 taken
        exact known _ outward
  · intro step member header
    cases made step member with
    | task onward => cases header
    | header ranged inward outward => exact Nat.le_refl 2

end Compile

end Flow

end Runbook
