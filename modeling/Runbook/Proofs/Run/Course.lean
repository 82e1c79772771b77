import Runbook.Proofs.Flow.Blocks
import Runbook.Run.Journey

/-!
# The course of a run

Where a run of a flow of tasks and loops stands, together with its active loops, decides which tasks
are still to come.  This module says so by a relation on the flow, without a run, and shows that for
the flow of a document these are the tasks that the document comes to.

## Main definitions

* `Pass.ofCounter`: a pass through a header, by the number of items and the counter
* `Flow.Course`: the tasks that are still to come

## Main statements

* `Flow.course_loop`: a loop comes to its body once for each item
* `Flow.course_stepsOfList`: the flow of some blocks comes to the tasks of the blocks

## Design notes

Everything is said in front of a course that is known: if the course after a block is `rest`, then
the course from the block is its tasks and then `rest`.  So the body of a loop may be entered any
number of times, each time in front of what the passes after it come to, and the induction over the
items of a loop stays inside the induction over the nesting.
-/

namespace Runbook

/-! ## Passes -/

namespace Pass

/-- A pass through a header of a loop over some number of items, by its counter. -/
def ofCounter (count : Nat) : Option LoopCounter → Pass
  | none => if count = 0 then .skip else .enter count
  | some counter =>
    if counter.index + 1 < counter.count then .next { counter with index := counter.index + 1 }
    else .complete

/-- The name that a pass leads to. -/
def target (first exit : String) (pass : Pass) : String := if pass.entersBody then first else exit

end Pass

theorem Step.pass_eq (header : Step) (state : RunState) :
    header.pass state = .ofCounter (header.items state) (state.loops.get? header.name) := by
  unfold Step.pass Pass.ofCounter
  cases state.loops.get? header.name <;> rfl

/-! ## Courses -/

namespace Flow

/-- The tasks that are still to come when a run with these active loops is put to a name of the
flow, or to none, if the lists have these sizes. -/
inductive Course (flow : Flow) (size : String → Nat) :
    Option String → Dict LoopCounter → List String → Prop where
  | done {loops : Dict LoopCounter} : Course flow size none loops []
  | task {name : String} {next : Option String} {loops : Dict LoopCounter} {rest : List String}
      (filed : flow.step? name = some (.task name next))
      (onward : Course flow size next loops rest) :
      Course flow size (some name) loops (name :: rest)
  | pass {name list first exit : String} {loops : Dict LoopCounter} {rest : List String}
      (filed : flow.step? name = some (.header name list first (some exit)))
      (onward : Course flow size
        (some ((Pass.ofCounter (size list) (loops.get? name)).target first exit))
        ((Pass.ofCounter (size list) (loops.get? name)).loops name loops) rest) :
      Course flow size (some name) loops rest

section Loop

variable {flow : Flow} {size : String → Nat} {name list first exit : String}
  {loops : Dict LoopCounter} {body rest : List String}

/-- From an item of a loop on, the body comes once for each item that is left. -/
theorem course_items (filed : flow.step? name = some (.header name list first (some exit)))
    (fresh : name ∉ loops.keys)
    (inward : ∀ counter more, Course flow size (some name) (loops.insert name counter) more →
      Course flow size (some first) (loops.insert name counter) (body ++ more))
    (outward : Course flow size (some exit) loops rest) (left index : Nat) :
    Course flow size (some name) (loops.insert name ⟨index, index + 1 + left⟩)
      ((List.replicate left body).flatten ++ rest) := by
  induction left generalizing index with
  | zero =>
    -- at the last item the counter goes away, and the loops are those before the loop
    have last : Pass.ofCounter (size list) ((loops.insert name ⟨index, index + 1⟩).get? name) =
        .complete := by
      rw [Dict.get?_insert_self, Pass.ofCounter, if_neg (Nat.lt_irrefl _)]
    refine .pass filed ?_
    rw [Nat.add_zero, last]
    show Course flow size (some exit) ((loops.insert name _).erase name) rest
    rw [Dict.erase_insert _ fresh]
    exact outward
  | succ left ih =>
    -- the body comes in front of the passes that are left
    have again : Pass.ofCounter (size list)
        ((loops.insert name ⟨index, index + 1 + (left + 1)⟩).get? name) =
          .next ⟨index + 1, index + 1 + (left + 1)⟩ := by
      rw [Dict.get?_insert_self, Pass.ofCounter, if_pos (by dsimp only; omega)]
    refine .pass filed ?_
    rw [again, List.replicate_succ, List.flatten_cons, List.append_assoc]
    show Course flow size (some first) ((loops.insert name _).insert name _) _
    rw [Dict.insert_insert]
    refine inward _ _ ?_
    rw [show index + 1 + (left + 1) = index + 1 + 1 + left by omega]
    exact ih (index + 1)

/-- **A loop comes to its body once for each item**, and not at all if there are none. -/
theorem course_loop (filed : flow.step? name = some (.header name list first (some exit)))
    (fresh : name ∉ loops.keys)
    (inward : ∀ counter more, Course flow size (some name) (loops.insert name counter) more →
      Course flow size (some first) (loops.insert name counter) (body ++ more))
    (outward : Course flow size (some exit) loops rest) :
    Course flow size (some name) loops
      ((List.replicate (size list) body).flatten ++ rest) := by
  refine .pass filed ?_
  rw [(Dict.get?_eq_none_iff _ _).2 fresh, Pass.ofCounter]
  cases size list with
  | zero => exact outward
  | succ count =>
    rw [if_neg (Nat.succ_ne_zero count), List.replicate_succ, List.flatten_cons, List.append_assoc]
    refine inward _ _ ?_
    have items := course_items filed fresh inward outward count 0
    rwa [Nat.zero_add, Nat.add_comm 1 count] at items

end Loop

section Blocks

variable {flow : Flow} {size : String → Nat}

mutual

/-- The course from a block is its tasks, and then what comes after it. -/
theorem course_steps : ∀ {b : Block} {next : Option String} {loops : Dict LoopCounter}
    {rest : List String}, b.Filled → "" ∉ b.lists → b.Followed next → b.names.Nodup →
    (∀ name ∈ b.names, name ∉ loops.keys) →
    (∀ made ∈ Outline.steps b.outline next, flow.step? made.name = some made) →
    Course flow size next loops rest →
    Course flow size (some b.name) loops (b.unroll size ++ rest)
  | .task name, next, loops, rest, _, _, _, _, _, filed, onward => by
    rw [Block.steps_task] at filed
    rw [Block.unroll]
    exact .task (filed _ (List.mem_singleton.2 rfl)) onward
  | .loop name list body, next, loops, rest, filled, ranged, followed, distinct, fresh, filed,
      onward => by
    rw [Block.Filled] at filled
    rw [Block.lists, List.mem_cons, not_or] at ranged
    rw [Block.names, List.nodup_cons] at distinct
    rw [Block.names, List.forall_mem_cons] at fresh
    cases next with
    | none =>
      obtain ⟨other, same⟩ := followed rfl
      cases same
    | some exit =>
      cases body with
      | nil => exact absurd rfl filled.1
      | cons b others =>
        rw [Block.steps_loop (Ne.symm ranged.1), List.forall_mem_cons] at filed
        rw [Block.unroll]
        show Course flow size (some name) loops _
        refine course_loop filed.1 fresh.1 (fun counter more again => ?_) onward
        -- in the body the header is active as well, and it is none of the names in the body
        refine course_stepsOfList filled.2 ranged.2 (fun _ _ none => by cases none) distinct.2
          (fun inner member => ?_) filed.2 again
        rw [Dict.keys_insert, if_neg fresh.1, List.mem_append, not_or, List.mem_singleton]
        exact ⟨fresh.2 inner member, fun same => distinct.1 (same ▸ member)⟩

/-- **The course from the first of some blocks** is the tasks of the blocks, and then what comes
after the last of them. -/
theorem course_stepsOfList : ∀ {blocks : List Block} {after : Option String}
    {loops : Dict LoopCounter} {rest : List String}, Block.FilledList blocks →
    "" ∉ Block.listsOfList blocks → Block.FollowedList blocks after →
    (Block.namesOfList blocks).Nodup → (∀ name ∈ Block.namesOfList blocks, name ∉ loops.keys) →
    (∀ made ∈ Outline.stepsOfList (Block.outlines blocks) after,
      flow.step? made.name = some made) →
    Course flow size after loops rest →
    Course flow size ((blocks.head?.map Block.name).or after) loops
      (Block.unrollOfList size blocks ++ rest)
  | [], after, loops, rest, _, _, _, _, _, _, onward => by
    rw [Block.unrollOfList]
    exact onward
  | b :: others, after, loops, rest, filled, ranged, followed, distinct, fresh, filed, onward => by
    rw [Block.FilledList] at filled
    rw [Block.listsOfList, List.mem_append, not_or] at ranged
    rw [Block.namesOfList, List.nodup_append] at distinct
    rw [Block.namesOfList, List.forall_mem_append] at fresh
    rw [Block.outlines, Outline.stepsOfList_cons, List.forall_mem_append, Block.head?_outlines]
      at filed
    have behind := course_stepsOfList filled.2 ranged.2 followed.cons.2 distinct.2.1 fresh.2 filed.2
      onward
    rw [Block.unrollOfList, List.append_assoc]
    exact course_steps filled.1 ranged.1 followed.cons.1 distinct.1 fresh.1 filed.1 behind

end

end Blocks

end Flow

end Runbook
