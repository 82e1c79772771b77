import Runbook.Proofs.Flow.Accepted

/-!
# Reachable steps

The checks look for the steps that a run can come to by visiting the entry and all that the visited
steps lead to.  What they visit are exactly the filed steps on the paths from the entry, whatever
the graph looks like: cycles, names that are waiting twice and names without a step included.  So the
steps that are reported as unreachable are the others.

## Main definitions

* `Flow.worded`: the diagnostics with a given wording

## Main statements

* `Flow.mem_reachable_iff`: the visited names are those on the paths from the entry
* `Flow.check_of_entry`: if the entry is filed, all checks are made
* `Flow.checkReachability_eq_map`: what the search finds is what no path leads to
* `Flow.check_unreachable`: that is what is reported as unreachable, and nothing else is

## Design notes

The search keeps one thing: whatever a visited step leads to is visited or waiting.  At the end
nothing is waiting any more, so the visited names are closed under transitions to filed steps, and a
path from the entry cannot leave them.

What is reported of a step names the key under which it is filed, which in a flow that was built by
hand need not be the name that the step carries.
-/

namespace Runbook.Flow

variable {flow : Flow} {visited queue : List String}

/-! ## The search -/

/-- What was visited stays visited. -/
theorem mem_explore_of_visited {name : String} (known : name ∈ visited) :
    name ∈ flow.explore visited queue := by
  fun_induction explore flow visited queue with
  | case1 => exact known
  | case2 visited first rest none ih => exact ih known
  | case3 visited first rest step filed again ih => exact ih known
  | case4 visited first rest step filed new ih => exact ih (List.mem_cons_of_mem _ known)

/-- What is waiting is visited, if a step is filed under it. -/
theorem mem_explore_of_waiting {name : String} (waiting : name ∈ queue)
    (filed : flow.contains name = true) : name ∈ flow.explore visited queue := by
  fun_induction explore flow visited queue with
  | case1 => cases waiting
  | case2 visited first rest none ih =>
    rcases List.mem_cons.1 waiting with rfl | later
    · obtain ⟨step, some⟩ := contains_iff_step?.1 filed
      rw [none] at some
      cases some
    · exact ih later
  | case3 visited first rest step here again ih =>
    rcases List.mem_cons.1 waiting with rfl | later
    · exact mem_explore_of_visited again
    · exact ih later
  | case4 visited first rest step here new ih =>
    rcases List.mem_cons.1 waiting with rfl | later
    · exact mem_explore_of_visited List.mem_cons_self
    · exact ih (List.mem_append_left _ later)

/-- **What is visited in the end is closed under transitions to filed steps**, if what the visited
steps lead to is visited or waiting. -/
theorem explore_closed {a b : String} (kept : ∀ a ∈ visited, ∀ b, flow.Edge a b →
      flow.contains b = true → b ∈ visited ∨ b ∈ queue)
    (found : a ∈ flow.explore visited queue) (edge : flow.Edge a b)
    (filed : flow.contains b = true) : b ∈ flow.explore visited queue := by
  fun_induction explore flow visited queue with
  | case1 visited => exact (kept a found b edge filed).resolve_right List.not_mem_nil
  | case2 visited first rest none ih =>
    refine ih (fun a member b edge filed => ?_) found
    refine (kept a member b edge filed).imp_right fun waiting => ?_
    refine (List.mem_cons.1 waiting).resolve_left ?_
    rintro rfl
    obtain ⟨step, some⟩ := contains_iff_step?.1 filed
    rw [none] at some
    cases some
  | case3 visited first rest step here again ih =>
    refine ih (fun a member b edge filed => ?_) found
    rcases kept a member b edge filed with known | waiting
    · exact .inl known
    · rcases List.mem_cons.1 waiting with rfl | later
      · exact .inl again
      · exact .inr later
  | case4 visited first rest step here new ih =>
    refine ih (fun a member b edge filed => ?_) found
    rcases List.mem_cons.1 member with rfl | before
    · -- what the newly visited step leads to begins to wait
      obtain ⟨step', here', leads⟩ := edge
      obtain rfl := Option.some.inj (here'.symm.trans here)
      exact .inr (List.mem_append_right _ leads)
    · rcases kept a before b edge filed with known | waiting
      · exact .inl (List.mem_cons_of_mem _ known)
      · rcases List.mem_cons.1 waiting with rfl | later
        · exact .inl List.mem_cons_self
        · exact .inr (List.mem_append_left _ later)

/-- Nothing is visited but filed steps on the paths from a name, if what is visited and waiting at
first is on them. -/
theorem reaches_of_mem_explore {start name : String}
    (visits : ∀ a ∈ visited, flow.contains a = true ∧ flow.Reaches start a)
    (waits : ∀ a ∈ queue, flow.Reaches start a) (found : name ∈ flow.explore visited queue) :
    flow.contains name = true ∧ flow.Reaches start name := by
  fun_induction explore flow visited queue with
  | case1 => exact visits name found
  | case2 visited first rest none ih => exact ih visits (List.forall_mem_cons.1 waits).2 found
  | case3 visited first rest step here again ih =>
    exact ih visits (List.forall_mem_cons.1 waits).2 found
  | case4 visited first rest step here new ih =>
    rw [List.forall_mem_cons] at waits
    refine ih (List.forall_mem_cons.2 ⟨⟨?_, waits.1⟩, visits⟩) ?_ found
    · exact contains_iff_step?.2 ⟨step, here⟩
    · exact List.forall_mem_append.2 ⟨waits.2, fun b leads => .tail waits.1 here leads⟩

/-! ## What the checks find -/

/-- **The visited names are those on the paths from the entry**, as far as steps are filed under
them. -/
theorem mem_reachable_iff {name : String} :
    name ∈ flow.reachable ↔ flow.contains name = true ∧ flow.Reaches flow.entry name := by
  constructor
  · exact reaches_of_mem_explore (List.forall_mem_nil _) (List.forall_mem_singleton.2 (.refl _))
  · rintro ⟨filed, path⟩
    induction path with
    | refl => exact mem_explore_of_waiting List.mem_cons_self filed
    | tail path here leads ih =>
      exact explore_closed (List.forall_mem_nil _) (ih (contains_iff_step?.2 ⟨_, here⟩))
        ⟨_, here, leads⟩ filed

/-- If the entry has a name and a step is filed under it, all checks are made. -/
theorem check_of_entry (named : flow.entry ≠ "") (filed : flow.contains flow.entry = true) :
    flow.check =
      flow.checkTargets ++ flow.checkReachability ++ flow.checkDeadEnds ++ flow.checkLoops := by
  have entered : ¬ (flow.entry = "" ∨ flow.contains flow.entry = false) := by
    rw [not_or, Bool.not_eq_false]
    exact ⟨named, filed⟩
  rw [check, isEmpty_of_contains filed, if_neg Bool.false_ne_true, if_neg entered]

/-- **The search misses what no path leads to**, in the order in which it is filed. -/
theorem checkReachability_eq_map [DecidablePred (flow.Reaches flow.entry)] :
    flow.checkReachability =
      (flow.stepNames.filter fun name => ¬ flow.Reaches flow.entry name).map
        fun name => ⟨.unreachable, some name⟩ := by
  rw [checkReachability, ← List.filterMap_eq_map, List.filterMap_filter]
  refine List.filterMap_congr fun name member => ?_
  have filed : flow.contains name = true := (Dict.contains_iff flow.steps name).2 member
  have visited : name ∈ flow.reachable ↔ flow.Reaches flow.entry name := by
    rw [mem_reachable_iff, and_iff_right filed]
  by_cases path : flow.Reaches flow.entry name <;> simp [visited, path]

/-- **The checks miss no step exactly if there is a path to each.** -/
theorem checkReachability_eq_nil_iff : flow.checkReachability = [] ↔
    ∀ name, flow.contains name = true → flow.Reaches flow.entry name := by
  classical
  rw [checkReachability_eq_map, List.map_eq_nil_iff, List.filter_eq_nil_iff]
  refine forall_congr' fun name => ?_
  rw [show name ∈ flow.stepNames ↔ flow.contains name = true from
    (Dict.contains_iff flow.steps name).symm]
  simp

/-! ## What is reported -/

/-- The diagnostics with the given wording. -/
def worded (message : String) (diagnostics : List Diagnostic) : List Diagnostic :=
  diagnostics.filter fun d => d.finding.message = message

theorem worded_append (message : String) (diagnostics more : List Diagnostic) :
    worded message (diagnostics ++ more) = worded message diagnostics ++ worded message more :=
  List.filter_append ..

/-- No other finding is worded like an unreachable step. -/
theorem message_eq_unreachable_iff {finding : Finding} :
    finding.message = "Step is unreachable from the start" ↔ finding = .unreachable := by
  cases finding with
  | unreachable => exact iff_of_true rfl rfl
  | missingTarget target =>
    refine iff_of_false (fun same => ?_) nofun
    -- the target may be any text, but the first letters differ
    have first := congrArg (fun text : String => text.toList.head?) same
    have front : "Transition target not found: '".toList.head? = some 'T' := by cbv
    have other : "Step is unreachable from the start".toList.head? = some 'S' := by cbv
    dsimp only [Finding.message] at first
    rw [String.toList_append, String.toList_append, List.head?_append, List.head?_append, front,
      other] at first
    cases first
  | noSteps | noEntry | deadEnd | loopWithoutTransitions | loopWithoutBody =>
    exact iff_of_false (by decide) nofun

/-- So other findings are not worded like it. -/
theorem worded_eq_nil {diagnostics : List Diagnostic}
    (others : ∀ d ∈ diagnostics, d.finding ≠ .unreachable) :
    worded "Step is unreachable from the start" diagnostics = [] := by
  refine List.filter_eq_nil_iff.2 fun d member => ?_
  rw [decide_eq_true_iff, message_eq_unreachable_iff]
  exact others d member

/-- And what the search misses is. -/
theorem worded_checkReachability :
    worded "Step is unreachable from the start" flow.checkReachability =
      flow.checkReachability := by
  classical
  refine List.filter_eq_self.2 fun d found => ?_
  rw [checkReachability_eq_map] at found
  obtain ⟨name, -, rfl⟩ := List.mem_map.1 found
  exact decide_eq_true rfl

/-- **Which steps are reported as unreachable.**  In any flow whose entry has a name and is filed,
these are exactly the names to which no path of transitions through filed steps leads from the
entry.  Each of them is reported once, as names are filed once, and in the order in which they are
filed. -/
theorem check_unreachable (named : flow.entry ≠ "") (filed : flow.contains flow.entry = true)
    [DecidablePred (flow.Reaches flow.entry)] :
    flow.stepNames.Nodup ∧
      worded "Step is unreachable from the start" flow.check =
        (flow.stepNames.filter fun name => ¬ flow.Reaches flow.entry name).map
          fun name => ⟨.unreachable, some name⟩ := by
  refine ⟨flow.steps.nodup, ?_⟩
  have targets : worded _ flow.checkTargets = [] := worded_eq_nil fun d found same => by
    have error := isError_of_mem_checkTargets found
    rw [Diagnostic.isError, same] at error
    cases error
  have deadEnds : worded _ flow.checkDeadEnds = [] := worded_eq_nil fun d found same => by
    rw [finding_of_mem_checkDeadEnds found] at same
    cases same
  have loops : worded _ flow.checkLoops = [] := worded_eq_nil fun d found same => by
    rcases finding_of_mem_checkLoops found with other | other <;> rw [other] at same <;> cases same
  rw [check_of_entry named filed, worded_append, worded_append, worded_append, targets, deadEnds,
    loops, worded_checkReachability, List.nil_append, List.append_nil, List.append_nil,
    checkReachability_eq_map]

/-- A flow built by hand.  Two steps lead to each other and into the rest; the others do not lead to
them, but to themselves, twice to one step, and to a name without a step.  No step is filed under
the name that it carries but one. -/
def tangled : Flow where
  name := "tangled"
  steps := .ofList [("x", { name := "a", transitions := [.plain "y", .plain "b"] }),
    ("a", { name := "b", transitions := [.plain "b", .plain "nowhere", .plain "b"] }),
    ("b", { name := "x", transitions := [.plain "b", .plain "a"] }),
    ("y", { name := "y", transitions := [.plain "x"] })]
  entry := "a"

/-- The two are reported, by the names under which they are filed, and the others are not. -/
theorem check_unreachable_tangled :
    worded "Step is unreachable from the start" tangled.check =
        [⟨.unreachable, some "x"⟩, ⟨.unreachable, some "y"⟩] ∧
      ¬ tangled.Reaches "a" "x" ∧ ¬ tangled.Reaches "a" "y" ∧ tangled.Reaches "a" "b" := by
  classical
  have found : worded "Step is unreachable from the start" tangled.check =
      [⟨.unreachable, some "x"⟩, ⟨.unreachable, some "y"⟩] := by
    have all : tangled.check = [⟨.missingTarget "nowhere", some "b"⟩, ⟨.unreachable, some "x"⟩,
        ⟨.unreachable, some "y"⟩] := by
      cbv
    rw [all]
    simp [worded, message_eq_unreachable_iff]
  have entry : tangled.entry = "a" := rfl
  have names : tangled.stepNames = ["x", "a", "b", "y"] := by cbv
  have named : tangled.entry ≠ "" := by simp [entry]
  obtain ⟨-, reported⟩ := check_unreachable named (by cbv)
  have stranded {name : String} (filed : name ∈ ["x", "a", "b", "y"]) :
      (⟨.unreachable, some name⟩ : Diagnostic) ∈ ([⟨.unreachable, some "x"⟩,
        ⟨.unreachable, some "y"⟩] : List Diagnostic) ↔ ¬ tangled.Reaches "a" name := by
    rw [← names] at filed
    rw [← found, reported]
    simp [filed, entry]
  exact ⟨found, (stranded (by decide)).1 (by decide), (stranded (by decide)).1 (by decide),
    not_not.1 fun lost => absurd ((stranded (by decide)).2 lost) (by decide)⟩

end Runbook.Flow
