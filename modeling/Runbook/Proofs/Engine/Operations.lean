import Runbook.Engine.Operation
import Runbook.Proofs.Store.Writes

/-!
# What operations do

Every statement about runs is about all operations, and most of them need to know no more of an
operation than what it writes and under which conditions.  This module says it once.  An operation
either changes nothing at all, be it refused or at fault, or it carries out one of the plans listed
in `Engine.Does`.

## Main definitions

* `Refusal.onWay`: does a run meet the refusal on its way?
* `Plan.Refuses`: the plans that refuse before anything is written
* `Engine.Does`: the plans that are carried out, with the conditions under which they are
* `Engine.Records`: the same for the part that `submit` and `approve` have in common
* `Engine.after`, `Engine.answers`: the engine after a run of operations, and what they answered

## Main statements

* `Engine.Does.planned`: the plans that are carried out are those that are made
* `Engine.execute_cases`: what an operation does
* `Engine.after_induction`: what each operation keeps, a run keeps

## Design notes

A plan that is refused on its way, for want of a transition or of arrivals, is carried out all the
same, so it is among the plans of `Does`.  `Does` says nothing about how the journey of a plan goes;
that is for the modules about journeys.
-/

namespace Runbook

/-- Is the refusal one that a run meets on its way, when the operation has been carried out? -/
def Refusal.onWay : Refusal → Bool
  | tooManySteps _ _ | missingTarget _ | noTransition _ => true
  | _ => false

/-- The plan of an operation that is refused before anything is written. -/
def Plan.Refuses (plan : Plan) : Prop := ∃ why : Refusal, plan = .refuse why ∧ why.onWay = false

namespace Engine

/-- Nothing is in the way of a new run: there is none, or the one that there is is done. -/
def Free (e : Engine) : Prop :=
  ∃ previous, e.current = .ok previous ∧ ∀ state, previous = some state → state.status = .done

/-- The plan of a run of `flow` that begins. -/
def departure (e : Engine) (now : Instant) (flow : Flow) (data : Json.Object) : Plan :=
  let state := RunState.initial flow.name flow.entry data now
  let journey := (e.track flow).enter state flow.entry false
  { binds := some flow
    writes := .live state :: .record flow.name flow.entry .start none :: journey.writes
    outcome := .started flow.name journey.outcome }

/-- The plan that records an output at the current step, and the conditions under which there is
one: the flow of the run is loaded and has the step, the step that the output names is one of the
flow, the hook of the step has nothing to say against the output, and its archive takes it. -/
inductive Records (e : Engine) (state : RunState) (payload : Json.Object) (approving : Bool) :
    Plan → Prop where
  | intro {flow : Flow} {step : Step} {archive : List Write}
      (bound : e.flowOf state = .ok flow)
      (filed : flow.step? state.currentStep = some step)
      (chosen : ∀ target, choice? payload = some target → flow.contains target = true)
      (passed : complaint? e.hooks step.name (payload.erase Refusal.choiceKey) = none)
      (archived : e.archiveWrites step.name (payload.erase Refusal.choiceKey) = .ok archive) :
      Records e state payload approving
        (.travel
          (archive ++ approval state step approving ++
            output (withOutput state step (payload.erase Refusal.choiceKey)) step
              (payload.erase Refusal.choiceKey))
          (onward (e.track flow) (withOutput state step (payload.erase Refusal.choiceKey)) step
            (choice? payload)))

/-- The plans that are carried out. -/
inductive Does (e : Engine) (now : Instant) : Command → Plan → Prop where
  | start {definition : String} {data : Json.Object} {flow : Flow} {warnings : List Diagnostic}
      (free : e.Free) (loaded : compile definition = .ok (flow, warnings)) :
      Does e now (.start definition data) (e.departure now flow data)
  | submit {payload : Json.Object} {state : RunState} {plan : Plan}
      (live : e.current = .ok (some state)) (running : state.status = .running)
      (records : e.Records state payload false plan) : Does e now (.submit payload) plan
  | approve {payload : Json.Object} {state : RunState} {plan : Plan}
      (live : e.current = .ok (some state)) (waiting : state.status = .waiting)
      (records : e.Records state payload true plan) : Does e now (.approve payload) plan
  | reject {reason : Option String} {state : RunState}
      (live : e.current = .ok (some state)) (waiting : state.status = .waiting) :
      Does e now (.reject reason)
        (.act [.record state.flowName state.currentStep .reject reason]
          (.rejected state.currentStep reason))
  | skip {reason : Option String} {state : RunState} {flow : Flow} {step : Step}
      (live : e.current = .ok (some state))
      (active : state.status = .running ∨ state.status = .waiting)
      (bound : e.flowOf state = .ok flow) (filed : flow.step? state.currentStep = some step) :
      Does e now (.skip reason)
        (.travel
          [.record state.flowName step.name .skip reason, .live { state with status := .running }]
          ((e.track flow).follow { state with status := .running } step))
  | retry {state : RunState} (live : e.current = .ok (some state)) :
      Does e now .retry (planRetry state)
  | goto {target : String} {state : RunState} {flow : Flow}
      (live : e.current = .ok (some state)) (bound : e.flowOf state = .ok flow)
      (known : flow.contains target = true) :
      Does e now (.goto target)
        (.act (mark { state with currentStep := target } .running .goto) (.jumped target))
  | back {state : RunState} {entries : List HistoryEntry} {entry : HistoryEntry}
      (live : e.current = .ok (some state))
      (read : e.history (some e.limits.backScan) = .ok entries)
      (found : entries.find? (e.leadsBack state) = some entry) :
      Does e now .back
        (.act (mark { state with currentStep := entry.step } .running .back)
          (.movedBack entry.step))
  | stop {state : RunState} (live : e.current = .ok (some state))
      (active : state.status = .running ∨ state.status = .waiting) :
      Does e now .stop (.act (mark state .stopped .stop) (.stopped state.currentStep))
  | resume {state : RunState} {flow : Flow} (live : e.current = .ok (some state))
      (paused : state.status = .stopped) (bound : e.flowOf state = .ok flow) :
      Does e now .resume
        (.act (mark state (if isGated flow state then .waiting else .running) .resume)
          (.resumed state.currentStep))
  | saveCheckpoint {name : String} {state : RunState} (live : e.current = .ok (some state)) :
      Does e now (.saveCheckpoint name) (planSave name state)
  | restoreCheckpoint {name : String} {state : RunState}
      (saved : e.checkpoint? name = .ok (some state)) :
      Does e now (.restoreCheckpoint name)
        (.act [.live state, .record state.flowName state.currentStep .restore (some name)]
          (.restored name state.currentStep))
  | reset : Does e now .reset (.act [.clear] .cleared)

/-! ## Each operation by itself -/

variable {e : Engine} {now : Instant} {plan : Plan}

/-- An operation on the run is decided on the live state, or refused for want of one. -/
theorem onRun_cases {decide : RunState → Except RunFault Plan}
    (planned : e.onRun decide = .ok plan) :
    plan = .refuse .noRun ∨ ∃ state, e.current = .ok (some state) ∧ decide state = .ok plan := by
  unfold onRun at planned
  cases live : e.current with
  | error fault =>
    rw [live] at planned
    cases planned
  | ok previous =>
    rw [live] at planned
    cases previous with
    | none => exact .inl (Except.ok.inj planned).symm
    | some state => exact .inr ⟨state, rfl, planned⟩

/-- A run whose flow is not loaded is refused at once. -/
theorem early_of_flowOf {state : RunState} {why : Refusal} (bound : e.flowOf state = .error why) :
    why.onWay = false := by
  unfold flowOf at bound
  split at bound
  · obtain rfl := Except.error.inj bound
    rfl
  · split at bound
    · cases bound
    · obtain rfl := Except.error.inj bound
      rfl

/-- An operation on the flow of a run is decided on that flow, or refused for want of it. -/
theorem onFlow_cases (state : RunState) (decide : Flow → Plan) :
    (e.onFlow state decide).Refuses ∨
      ∃ flow, e.flowOf state = .ok flow ∧ e.onFlow state decide = decide flow := by
  unfold onFlow
  cases bound : e.flowOf state with
  | error why => exact .inl ⟨why, rfl, early_of_flowOf bound⟩
  | ok flow => exact .inr ⟨flow, rfl, rfl⟩

theorem planStart_cases {definition : String} {data : Json.Object}
    (planned : e.planStart now definition data = .ok plan) :
    plan.Refuses ∨ e.Does now (.start definition data) plan := by
  unfold planStart at planned
  cases live : e.current with
  | error fault =>
    rw [live] at planned
    cases planned
  | ok previous =>
    simp only [live, bind, Except.bind] at planned
    split at planned
    · exact .inl ⟨_, (Except.ok.inj planned).symm, rfl⟩
    · rename_i none
      cases loaded : compile definition with
      | error fault =>
        simp only [loaded] at planned
        cases planned
      | ok result =>
        simp only [loaded] at planned
        have free : e.Free := by
          refine ⟨previous, live, fun state same => ?_⟩
          subst same
          simpa [Option.filter] using none
        obtain rfl := Except.ok.inj planned
        exact .inr (.start free loaded)

theorem planOutput_cases (state : RunState) (payload : Json.Object) (approving : Bool) :
    (e.planOutput state payload approving).Refuses ∨
      e.Records state payload approving (e.planOutput state payload approving) := by
  unfold planOutput
  rcases onFlow_cases (e := e) state _ with refused | ⟨flow, bound, same⟩
  · exact .inl refused
  · rw [same]
    -- whatever is in the way is a refusal, and what is not is a condition of `Records`
    split
    · exact .inl ⟨_, rfl, rfl⟩
    · rename_i step filed
      dsimp only
      split
      · exact .inl ⟨_, rfl, rfl⟩
      · rename_i known
        split
        · exact .inl ⟨_, rfl, rfl⟩
        · rename_i passed
          split
          · exact .inl ⟨_, rfl, rfl⟩
          · rename_i archive archived
            refine .inr (.intro bound filed (fun target named => ?_) passed archived)
            simpa [named, Option.filter] using known

theorem planSubmit_cases {payload : Json.Object} {state : RunState}
    (live : e.current = .ok (some state)) :
    (e.planSubmit payload state).Refuses ∨
      e.Does now (.submit payload) (e.planSubmit payload state) := by
  unfold planSubmit
  split
  · exact .inl ⟨_, rfl, rfl⟩
  · exact .inl ⟨_, rfl, rfl⟩
  · exact .inl ⟨_, rfl, rfl⟩
  · rename_i running
    exact (planOutput_cases state payload false).imp_right (.submit live running)

theorem planApprove_cases {payload : Json.Object} {state : RunState}
    (live : e.current = .ok (some state)) :
    (e.planApprove payload state).Refuses ∨
      e.Does now (.approve payload) (e.planApprove payload state) := by
  unfold planApprove
  split
  · rename_i waiting
    exact (planOutput_cases state payload true).imp_right (.approve live waiting)
  · exact .inl ⟨_, rfl, rfl⟩

theorem planReject_cases {reason : Option String} {state : RunState}
    (live : e.current = .ok (some state)) :
    (planReject reason state).Refuses ∨
      e.Does now (.reject reason) (planReject reason state) := by
  unfold planReject
  split
  · rename_i waiting
    exact .inr (.reject live waiting)
  · exact .inl ⟨_, rfl, rfl⟩

theorem planSkip_cases {reason : Option String} {state : RunState}
    (live : e.current = .ok (some state)) :
    (e.planSkip reason state).Refuses ∨
      e.Does now (.skip reason) (e.planSkip reason state) := by
  -- a skip is the same plan whether the run is running or waiting
  have skips (active : state.status = .running ∨ state.status = .waiting)
      (decide : Flow → Plan)
      (decides : ∀ flow, (decide flow).Refuses ∨
        ∃ step, flow.step? state.currentStep = some step ∧ decide flow =
          .travel
            [.record state.flowName step.name .skip reason, .live { state with status := .running }]
            ((e.track flow).follow { state with status := .running } step)) :
      (e.onFlow state decide).Refuses ∨
        e.Does now (.skip reason) (e.onFlow state decide) := by
    rcases onFlow_cases (e := e) state decide with refused | ⟨flow, bound, same⟩
    · exact .inl refused
    · rw [same]
      rcases decides flow with refused | ⟨step, filed, travels⟩
      · exact .inl refused
      · rw [travels]
        exact .inr (.skip live active bound filed)
  unfold planSkip
  split
  · exact .inl ⟨_, rfl, rfl⟩
  · exact .inl ⟨_, rfl, rfl⟩
  all_goals
    rename_i status
    refine skips (by simp [status]) _ fun flow => ?_
    split
    · exact .inl ⟨_, rfl, rfl⟩
    · rename_i step filed
      exact .inr ⟨step, filed, rfl⟩

theorem planGoto_cases {target : String} {state : RunState}
    (live : e.current = .ok (some state)) :
    (e.planGoto target state).Refuses ∨
      e.Does now (.goto target) (e.planGoto target state) := by
  unfold planGoto
  rcases onFlow_cases (e := e) state _ with refused | ⟨flow, bound, same⟩
  · exact .inl refused
  · rw [same]
    split
    · rename_i known
      exact .inr (.goto live bound known)
    · exact .inl ⟨_, rfl, rfl⟩

theorem planBack_cases {state : RunState} (live : e.current = .ok (some state))
    (planned : e.planBack state = .ok plan) :
    plan.Refuses ∨ e.Does now .back plan := by
  unfold planBack at planned
  cases read : e.history (some e.limits.backScan) with
  | error fault =>
    rw [read] at planned
    cases planned
  | ok entries =>
    simp only [read, bind, Except.bind] at planned
    split at planned
    · rename_i entry found
      obtain rfl := Except.ok.inj planned
      exact .inr (.back live read found)
    · exact .inl ⟨_, (Except.ok.inj planned).symm, rfl⟩

theorem planStop_cases {state : RunState} (live : e.current = .ok (some state)) :
    (planStop state).Refuses ∨ e.Does now .stop (planStop state) := by
  unfold planStop
  split
  · exact .inl ⟨_, rfl, rfl⟩
  · exact .inl ⟨_, rfl, rfl⟩
  all_goals
    rename_i status
    exact .inr (.stop live (by simp [status]))

theorem planResume_cases {state : RunState} (live : e.current = .ok (some state)) :
    (e.planResume state).Refuses ∨ e.Does now .resume (e.planResume state) := by
  unfold planResume
  split
  · rename_i paused
    rcases onFlow_cases (e := e) state _ with refused | ⟨flow, bound, same⟩
    · exact .inl refused
    · rw [same]
      exact .inr (.resume live paused bound)
  · exact .inl ⟨_, rfl, rfl⟩

theorem planRestore_cases {name : String} (planned : e.planRestore name = .ok plan) :
    plan.Refuses ∨ e.Does now (.restoreCheckpoint name) plan := by
  unfold planRestore at planned
  cases saved : e.checkpoint? name with
  | error fault =>
    rw [saved] at planned
    cases planned
  | ok state =>
    rw [saved] at planned
    cases state with
    | none => exact .inl ⟨_, (Except.ok.inj planned).symm, rfl⟩
    | some state =>
      obtain rfl := Except.ok.inj planned
      exact .inr (.restoreCheckpoint saved)

/-- A plan is a refusal, or one of those that are carried out. -/
theorem plan_cases {command : Command} (planned : e.plan now command = .ok plan) :
    plan.Refuses ∨ e.Does now command plan := by
  have onRun {decide : RunState → Except RunFault Plan} {command : Command}
      (planned : e.onRun decide = .ok plan)
      (decides : ∀ state, e.current = .ok (some state) → decide state = .ok plan →
        plan.Refuses ∨ e.Does now command plan) :
      plan.Refuses ∨ e.Does now command plan := by
    rcases onRun_cases planned with refused | ⟨state, live, planned⟩
    · exact .inl ⟨_, refused, rfl⟩
    · exact decides state live planned
  cases command with
  | start definition data => exact planStart_cases planned
  | submit payload =>
    exact onRun planned fun _ live same => Except.ok.inj same ▸ planSubmit_cases live
  | approve payload =>
    exact onRun planned fun _ live same => Except.ok.inj same ▸ planApprove_cases live
  | reject reason =>
    exact onRun planned fun _ live same => Except.ok.inj same ▸ planReject_cases live
  | skip reason =>
    exact onRun planned fun _ live same => Except.ok.inj same ▸ planSkip_cases live
  | retry => exact onRun planned fun _ live same => .inr (Except.ok.inj same ▸ .retry live)
  | goto target =>
    exact onRun planned fun _ live same => Except.ok.inj same ▸ planGoto_cases live
  | back => exact onRun planned fun _ live same => planBack_cases live same
  | stop => exact onRun planned fun _ live same => Except.ok.inj same ▸ planStop_cases live
  | resume => exact onRun planned fun _ live same => Except.ok.inj same ▸ planResume_cases live
  | saveCheckpoint name =>
    exact onRun planned fun _ live same => .inr (Except.ok.inj same ▸ .saveCheckpoint live)
  | restoreCheckpoint name => exact planRestore_cases planned
  | reset => exact .inr (Except.ok.inj planned ▸ .reset)

/-! ## The plans that are carried out -/

/-- What is planned is carried out. -/
theorem execute_of_plan {command : Command} (planned : e.plan now command = .ok plan) :
    e.execute now command = (e.commit now plan, plan.outcome) := by
  unfold execute perform
  rw [planned]
  rfl

/-- A plan that refuses changes nothing. -/
theorem execute_of_refuse {command : Command} {why : Refusal}
    (planned : e.plan now command = .ok (.refuse why)) :
    e.execute now command = (e, .refused why) :=
  execute_of_plan planned

/-- An operation on the run is decided on the live state. -/
theorem onRun_of_current {state : RunState} (live : e.current = .ok (some state))
    (decide : RunState → Except RunFault Plan) : e.onRun decide = decide state := by
  unfold onRun
  rw [live]
  rfl

/-- An output is planned at a running step. -/
theorem plan_submit {state : RunState} (live : e.current = .ok (some state))
    (running : state.status = .running) (now : Instant) (payload : Json.Object) :
    e.plan now (.submit payload) = .ok (e.planOutput state payload false) := by
  refine (onRun_of_current live _).trans (congrArg Except.ok ?_)
  unfold planSubmit
  rw [running]

/-- An approval is planned at a waiting step. -/
theorem plan_approve {state : RunState} (live : e.current = .ok (some state))
    (waiting : state.status = .waiting) (now : Instant) (payload : Json.Object) :
    e.plan now (.approve payload) = .ok (e.planOutput state payload true) :=
  (onRun_of_current live _).trans (congrArg Except.ok (if_pos waiting))

/-- An output with nothing in its way is planned. -/
theorem Records.planOutput_eq {state : RunState} {payload : Json.Object} {approving : Bool}
    (records : e.Records state payload approving plan) :
    e.planOutput state payload approving = plan := by
  obtain @⟨flow, step, archive, bound, filed, chosen, passed, archived⟩ := records
  have known : (choice? payload).filter (fun target => !flow.contains target) = none := by
    cases named : choice? payload with
    | none => rfl
    | some target => simp [Option.filter, chosen target named]
  unfold planOutput onFlow
  simp only [bound, filed, known, passed, archived]

/-- **The plans that are carried out are those that are made.** -/
theorem Does.planned {command : Command} (does : e.Does now command plan) :
    e.plan now command = .ok plan := by
  cases does with
  | start free loaded =>
    obtain ⟨previous, live, ended⟩ := free
    have none : previous.filter (fun state => state.status != .done) = none := by
      cases previous with
      | none => rfl
      | some state => simp [Option.filter, ended state rfl]
    show e.planStart now _ _ = _
    unfold planStart
    simp only [live, bind, Except.bind, none, loaded]
    rfl
  | submit live running records =>
    rw [plan_submit live running, records.planOutput_eq]
  | approve live waiting records =>
    rw [plan_approve live waiting, records.planOutput_eq]
  | reject live waiting =>
    exact (onRun_of_current live _).trans (congrArg Except.ok (if_pos waiting))
  | @skip reason state flow step live active bound filed =>
    refine (onRun_of_current live _).trans (congrArg Except.ok ?_)
    unfold planSkip onFlow
    rcases active with running | waiting
    · simp only [running, bound, filed]
    · simp only [waiting, bound, filed]
  | retry live => exact onRun_of_current live _
  | goto live bound known =>
    refine (onRun_of_current live _).trans (congrArg Except.ok ?_)
    unfold planGoto onFlow
    simp only [bound, known, if_true]
  | @back state entries entry live read found =>
    refine (onRun_of_current live _).trans ?_
    unfold planBack
    simp only [read, bind, Except.bind, found]
    rfl
  | @stop state live active =>
    refine (onRun_of_current live _).trans (congrArg Except.ok ?_)
    unfold planStop
    rcases active with running | waiting
    · rw [running]
    · rw [waiting]
  | @resume state flow live paused bound =>
    refine (onRun_of_current live _).trans (congrArg Except.ok ?_)
    unfold planResume onFlow
    simp only [paused, bound, if_true]
  | saveCheckpoint live => exact onRun_of_current live _
  | @restoreCheckpoint name state saved =>
    show e.planRestore name = _
    unfold planRestore
    simp only [saved, bind, Except.bind]
    rfl
  | reset => rfl

/-- An operation has one plan. -/
theorem Does.unique {command : Command} {other : Plan} (does : e.Does now command plan)
    (does' : e.Does now command other) : other = plan :=
  Except.ok.inj (does'.planned.symm.trans does.planned)

/-! ## What plans write -/

/-- The flow of a run can only be the loaded one. -/
theorem flowOf_eq_ok {state : RunState} {flow : Flow} (loaded : e.flow = some flow) {found : Flow}
    (same : e.flowOf state = .ok found) : found = flow := by
  unfold flowOf at same
  rw [loaded] at same
  dsimp only at same
  split at same
  · exact (Except.ok.inj same).symm
  · cases same

/-- What is written to archive an output notes nothing and saves no live state. -/
theorem quiet_of_archiveWrites {step : String} {payload : Json.Object} {archive : List Write}
    (archived : e.archiveWrites step payload = .ok archive) :
    Write.Keep archive ∧ Write.notes archive = [] ∧ archive.filterMap Write.saved? = [] := by
  unfold archiveWrites at archived
  split at archived
  · obtain rfl := Except.ok.inj archived
    exact ⟨Write.keep_nil, rfl, rfl⟩
  · rename_i table schema _
    cases kept : e.store.archiveOutput table schema payload with
    | error fault =>
      rw [kept] at archived
      cases archived
    | ok store =>
      rw [kept] at archived
      obtain rfl := Except.ok.inj archived
      exact ⟨by simp, rfl, rfl⟩

/-- The store after a plan with a journey: the notes of the plan come in front, those of the journey
before all others, and the run is where the journey left it. -/
theorem commit_travel (e : Engine) (now : Instant) {writes : List Write} {journey : Journey}
    (written : plan.writes = writes ++ journey.writes) {next : RunState}
    (keeps : Write.Keep writes) (last : (writes.filterMap Write.saved?).getLast? = some next) :
    (e.commit now plan).store.notes =
        Write.notes journey.writes ++ (Write.notes writes ++ e.store.notes) ∧
      (e.commit now plan).store.live = some (.ofState (journey.final next)) := by
  have keep : Write.Keep (writes ++ journey.writes) :=
    Write.keep_append.2 ⟨keeps, journey.keep_writes⟩
  have store : (e.commit now plan).store = e.store.applyAll now (writes ++ journey.writes) :=
    congrArg (e.store.applyAll now) written
  rw [store]
  constructor
  · rw [Store.notes_applyAll now _ keep, Write.notes_append, List.append_assoc]
  · rw [Store.live_applyAll now _ keep, List.filterMap_append, List.getLast?_append, last,
      ← journey.saved?_writes]
    cases (journey.writes.filterMap Write.saved?).getLast? <;> rfl

/-- The store after a plan that saves no state: its notes come in front, and the run stays. -/
theorem commit_act (e : Engine) (now : Instant) {writes : List Write} (outcome : Outcome)
    (keeps : Write.Keep writes) (unsaved : writes.filterMap Write.saved? = []) :
    (e.commit now (.act writes outcome)).store.notes = Write.notes writes ++ e.store.notes ∧
      (e.commit now (.act writes outcome)).store.live = e.store.live := by
  refine ⟨Store.notes_applyAll now _ keeps, (Store.live_applyAll now _ keeps).trans ?_⟩
  rw [unsaved]
  rfl

/-- The notes of a recorded output, the newest first. -/
def outputNotes (flowName step : String) (payload : Json.Object) (approving : Bool) : List Note :=
  ⟨flowName, step, Action.submit.name, some payload.compress⟩ ::
    (if approving then [⟨flowName, step, Action.approve.name, none⟩] else [])

/-- What an output writes before the run goes on: it notes the output, and the approval before it,
and saves the state that has the output. -/
theorem ownWrites_spec {state : RunState} {step : Step} {payload : Json.Object}
    {archive : List Write} (archived : e.archiveWrites step.name payload = .ok archive)
    (approving : Bool) :
    let own := archive ++ approval state step approving ++
      output (withOutput state step payload) step payload
    Write.Keep own ∧ Write.notes own = outputNotes state.flowName step.name payload approving ∧
      (own.filterMap Write.saved?).getLast? = some (withOutput state step payload) := by
  obtain ⟨keeps, quiet, unsaved⟩ := quiet_of_archiveWrites archived
  refine ⟨?_, ?_, ?_⟩
  · simp only [Write.keep_append]
    exact ⟨⟨keeps, by cases approving <;> simp [approval]⟩, by simp [output]⟩
  · simp only [Write.notes_append, quiet]
    cases approving <;> rfl
  · simp only [List.filterMap_append, unsaved]
    cases approving <;> rfl

/-- **What recording an output does.**  It notes the output, and the approval before it, saves the
state that has the output, and goes on from there. -/
theorem Records.travels {state : RunState} {flow : Flow} (loaded : e.flow = some flow)
    {payload : Json.Object} {approving : Bool}
    (records : e.Records state payload approving plan) :
    ∃ step writes, flow.step? state.currentStep = some step ∧
      (∀ target, choice? payload = some target → flow.contains target = true) ∧
      plan = .travel writes
        (onward (e.track flow) (withOutput state step (payload.erase Refusal.choiceKey)) step
          (choice? payload)) ∧
      Write.Keep writes ∧
      Write.notes writes = outputNotes state.flowName step.name
        (payload.erase Refusal.choiceKey) approving ∧
      (writes.filterMap Write.saved?).getLast? =
        some (withOutput state step (payload.erase Refusal.choiceKey)) := by
  obtain @⟨found, step, archive, bound, filed, chosen, -, archived⟩ := records
  obtain rfl := flowOf_eq_ok loaded bound
  exact ⟨step, _, filed, chosen, rfl, ownWrites_spec archived approving⟩

/-! ## Operations and runs of them -/

/-- **What an operation does.**  It changes nothing and says why, or it carries out a plan. -/
theorem execute_cases (e : Engine) (now : Instant) (command : Command) :
    (∃ why, e.execute now command = (e, .refused why) ∧ why.onWay = false) ∨
      ∃ plan, e.Does now command plan ∧
        e.execute now command = (e.commit now plan, plan.outcome) := by
  unfold execute perform
  cases planned : e.plan now command with
  | error fault => exact .inl ⟨_, rfl, rfl⟩
  | ok plan =>
    rcases plan_cases planned with ⟨why, rfl, early⟩ | does
    · exact .inl ⟨why, rfl, early⟩
    · exact .inr ⟨plan, does, rfl⟩

/-- Nothing is in the way of a run where there is none. -/
theorem free_of_empty (empty : e.store.live = none) : e.Free := by
  refine ⟨none, ?_, nofun⟩
  rw [current, Store.current, empty]

/-- A run begins if nothing is in its way and its definition can be loaded. -/
theorem execute_start (free : e.Free) (now : Instant) {definition : String} {flow : Flow}
    {warnings : List Diagnostic} (loaded : compile definition = .ok (flow, warnings))
    (data : Json.Object) : e.execute now (.start definition data) =
      (e.commit now (e.departure now flow data), (e.departure now flow data).outcome) :=
  execute_of_plan (Does.start free loaded).planned

/-- Without hooks an output of a running step is recorded, if it does not say itself where the run
goes. -/
theorem execute_submit (hookless : e.hooks = .empty) {flow : Flow} (loaded : e.flow = some flow)
    {state : RunState} (live : e.current = .ok (some state)) (own : flow.name = state.flowName)
    (running : state.status = .running) {step : Step}
    (filed : flow.step? state.currentStep = some step) (now : Instant) {payload : Json.Object}
    (unchosen : choice? payload = none) :
    ∃ next plan, next = withOutput state step (payload.erase Refusal.choiceKey) ∧
      plan = .travel (output next step (payload.erase Refusal.choiceKey))
        ((e.track flow).follow next step) ∧
      e.execute now (.submit payload) = (e.commit now plan, plan.outcome) := by
  refine ⟨_, _, rfl, rfl, ?_⟩
  have bound : e.flowOf state = .ok flow := by
    unfold flowOf
    rw [loaded]
    exact if_pos own
  have none (name : String) : e.hooks.hook? name = none := by
    rw [hookless]
    rfl
  rw [execute_of_plan (plan_submit live running now payload)]
  unfold planOutput onFlow
  simp only [bound, filed, unchosen, complaint?, archiveWrites, archive?, none]
  rfl

/-- The engine after a run of operations, each at its instant. -/
def after (e : Engine) (ops : List (Instant × Command)) : Engine :=
  ops.foldl (fun e op => (e.execute op.1 op.2).1) e

/-- What the operations of a run answer. -/
def answers (e : Engine) : List (Instant × Command) → List Outcome
  | [] => []
  | op :: ops => (e.execute op.1 op.2).2 :: answers (e.execute op.1 op.2).1 ops

@[simp] theorem after_nil (e : Engine) : e.after [] = e := rfl

@[simp] theorem after_cons (e : Engine) (op : Instant × Command) (ops : List (Instant × Command)) :
    e.after (op :: ops) = (e.execute op.1 op.2).1.after ops := rfl

@[simp] theorem answers_cons (e : Engine) (op : Instant × Command)
    (ops : List (Instant × Command)) :
    e.answers (op :: ops) = (e.execute op.1 op.2).2 :: (e.execute op.1 op.2).1.answers ops := rfl

/-- What each operation of a kind keeps, as long as it answers in a certain way, a run of such
operations keeps. -/
theorem after_induction (holds : Engine → Prop) (permitted : Command → Prop)
    (expected : Outcome → Prop)
    (step : ∀ (e : Engine) (now : Instant) (command : Command), holds e → permitted command →
      expected (e.execute now command).2 → holds (e.execute now command).1)
    {ops : List (Instant × Command)} (allowed : ∀ op ∈ ops, permitted op.2) (e : Engine)
    (answered : ∀ answer ∈ e.answers ops, expected answer) (start : holds e) :
    holds (e.after ops) := by
  induction ops generalizing e with
  | nil => exact start
  | cons op ops ih =>
    rw [answers_cons, List.forall_mem_cons] at answered
    rw [List.forall_mem_cons] at allowed
    exact ih allowed.2 _ answered.2 (step e op.1 op.2 start allowed.1 answered.1)

end Engine

end Runbook
