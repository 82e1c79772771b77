import Runbook.Flow.Basic

/-!
# Checking flows

What can be said against a flow before it is run: a missing entry, transitions to nowhere, steps
that no path leads to, steps that lead nowhere, and loops without a body or an exit.

## Main definitions

* `Finding`: what is wrong
* `Diagnostic`: a finding about a step or about the flow
* `Flow.Reaches`: a path of transitions through filed steps
* `Flow.reachable`: the names on the paths from the entry
* `Flow.check`: all diagnostics of a flow

## Design notes

A flow without steps or without an entry is not looked at any further.  The search for reachable
steps keeps a list of names to visit; a round either shortens that list or visits a filed step for
the first time, so it ends.
-/

namespace Runbook

/-- What is wrong with a flow. -/
inductive Finding where
  | noSteps
  | noEntry
  | missingTarget (target : String)
  | unreachable
  | deadEnd
  | loopWithoutTransitions
  | loopWithoutBody
deriving DecidableEq, Repr

namespace Finding

/-- How bad a finding is. -/
inductive Level where
  | error
  | warning
deriving DecidableEq, Repr

/-- The name of a level. -/
def Level.name : Level → String
  | error => "error"
  | warning => "warning"

/-- The name of a level in capitals. -/
def Level.label : Level → String
  | error => "ERROR"
  | warning => "WARNING"

/-- Steps that are never reached or lead nowhere are tolerated; all else is an error. -/
def level : Finding → Level
  | unreachable | deadEnd => .warning
  | _ => .error

/-- The wording of a finding. -/
def message : Finding → String
  | noSteps => "Flow has no steps"
  | noEntry => "Flow has no valid entry point"
  | missingTarget target => "Transition target not found: '" ++ target ++ "'"
  | unreachable => "Step is unreachable from the start"
  | deadEnd => "Step has no outgoing transitions (dead end)"
  | loopWithoutTransitions => "Loop has no transitions"
  | loopWithoutBody => "Loop has no body steps (empty loop)"

end Finding

/-- A finding about one step, or about the flow as a whole. -/
structure Diagnostic where
  /-- What is wrong. -/
  finding : Finding
  /-- The step it is about. -/
  step : Option String := none
deriving DecidableEq, Repr

namespace Diagnostic

/-- Does the finding forbid to run the flow? -/
def isError (d : Diagnostic) : Bool := d.finding.level == .error

/-- The text of a diagnostic. -/
def text (d : Diagnostic) : String :=
  match d.step with
  | some step => d.finding.level.label ++ ": [" ++ step ++ "] " ++ d.finding.message
  | none => d.finding.level.label ++ ": " ++ d.finding.message

end Diagnostic

namespace Flow

/-- The targets of a step. -/
def targets (step : Step) : List String := step.transitions.map Transition.target

/-- A path of transitions leads from one name to another; every step that is left on it is
filed. -/
inductive Reaches (flow : Flow) : String → String → Prop where
  | refl (name : String) : Reaches flow name name
  | tail {a b c : String} {step : Step} : Reaches flow a b → flow.step? b = some step →
      c ∈ targets step → Reaches flow a c

/-- The filed names that were not visited. -/
def unvisited (flow : Flow) (visited : List String) : List String :=
  flow.stepNames.filter fun name => !visited.contains name

theorem mem_stepNames_of_step? {flow : Flow} {name : String} {step : Step}
    (h : flow.step? name = some step) : name ∈ flow.stepNames := by
  have hc : flow.steps.contains name = true := by
    unfold Dict.contains
    unfold step? at h
    simp [h]
  exact (Dict.contains_iff flow.steps name).1 hc

theorem length_filter_lt {α : Type} {p q : α → Bool} {xs : List α} {x : α} (hx : x ∈ xs)
    (hpx : p x = true) (hqx : q x = false) (himp : ∀ y, q y = true → p y = true) :
    (xs.filter q).length < (xs.filter p).length := by
  induction xs with
  | nil => simp at hx
  | cons y ys ih =>
    have hle : (ys.filter q).length ≤ (ys.filter p).length := by
      rw [← List.countP_eq_length_filter, ← List.countP_eq_length_filter]
      exact List.countP_mono_left fun z _ => himp z
    rcases List.mem_cons.1 hx with rfl | hmem
    · simp only [List.filter_cons, hpx, hqx, if_true, List.length_cons]
      simp
      omega
    · have := ih hmem
      by_cases hq : q y = true
      · simp only [List.filter_cons, hq, himp y hq, if_true, List.length_cons]
        omega
      · by_cases hp : p y = true
        · simp only [List.filter_cons, hq, hp, if_true, List.length_cons]
          simp
          omega
        · simp [hq, hp, this]

/-- Visiting a filed name for the first time leaves fewer to visit. -/
theorem length_unvisited_cons_lt {flow : Flow} {visited : List String} {name : String} {step : Step}
    (hstep : flow.step? name = some step) (hnew : name ∉ visited) :
    (flow.unvisited (name :: visited)).length < (flow.unvisited visited).length := by
  apply length_filter_lt (mem_stepNames_of_step? hstep)
  · simpa using hnew
  · simp
  · intro y hy
    simp only [List.contains_cons, Bool.not_or, Bool.and_eq_true] at hy
    exact hy.2

/-- Visit the names of a list and all that their steps lead to. -/
def explore (flow : Flow) (visited : List String) : List String → List String
  | [] => visited
  | name :: rest =>
    match _hstep : flow.step? name with
    | none => explore flow visited rest
    | some step =>
      if _hnew : name ∈ visited then explore flow visited rest
      else explore flow (name :: visited) (rest ++ targets step)
termination_by queue => ((flow.unvisited visited).length, queue.length)
decreasing_by
  · exact Prod.Lex.right _ (by simp)
  · exact Prod.Lex.right _ (by simp)
  · exact Prod.Lex.left _ _ (length_unvisited_cons_lt _hstep _hnew)

/-- The filed names on the paths from the entry. -/
def reachable (flow : Flow) : List String := flow.explore [] [flow.entry]

/-- A transition to a name under which no step is filed. -/
def checkTargets (flow : Flow) : List Diagnostic :=
  flow.steps.values.flatMap fun step =>
    (targets step).filterMap fun target =>
      if flow.contains target then none else some ⟨.missingTarget target, some step.name⟩

/-- Steps that no path from the entry leads to. -/
def checkReachability (flow : Flow) : List Diagnostic :=
  let reachable := flow.reachable
  flow.stepNames.filterMap fun name =>
    if reachable.contains name then none else some ⟨.unreachable, some name⟩

/-- Steps that lead nowhere although they do not end the run. -/
def checkDeadEnds (flow : Flow) : List Diagnostic :=
  flow.steps.values.filterMap fun step =>
    if step.config.terminate || !step.transitions.isEmpty then none
    else some ⟨.deadEnd, some step.name⟩

/-- What is wrong with the transitions of a loop header: it needs one to its body and one to its
exit. -/
def loopFinding? (transitions : List Transition) : Option Finding :=
  match transitions with
  | [] => some .loopWithoutTransitions
  | [_] => some .loopWithoutBody
  | _ => none

/-- Loop headers without a body or an exit. -/
def checkLoops (flow : Flow) : List Diagnostic :=
  flow.steps.values.filterMap fun step =>
    if step.config.isLoopHeader then
      (loopFinding? step.transitions).map fun finding => ⟨finding, some step.name⟩
    else none

/-- All diagnostics of a flow. -/
def check (flow : Flow) : List Diagnostic :=
  if flow.steps.isEmpty then [⟨.noSteps, none⟩]
  else if flow.entry = "" ∨ flow.contains flow.entry = false then [⟨.noEntry, none⟩]
  else
    flow.checkTargets ++ flow.checkReachability ++ flow.checkDeadEnds ++ flow.checkLoops

/-- Does some diagnostic forbid to run the flow? -/
def hasErrors (diagnostics : List Diagnostic) : Bool := diagnostics.any Diagnostic.isError

end Flow

end Runbook
