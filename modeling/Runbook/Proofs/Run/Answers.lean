import Runbook.Proofs.Flow.Nesting
import Runbook.Proofs.Run.Travel

/-!
# What operations answer

An operation puts the run somewhere itself, or it writes something of its own and lets the run go on
from there.  In the second case its answer is how the journey ended, and a flow that was checked
leaves few ways to end.  From that follow the answers that never come, and what an operation that
failed has left behind: nothing, or what it wrote before its journey and the places that the journey
came to.

## Main definitions

* `Outcome.arrival`: the answer about a journey, when it is part of the answer about a start
* `Outcome.Ends`: the ends of a journey through a sound flow
* `Outcome.Astray`: the run came to a step that is missing, or ended at a loop header
* `Outcome.Stranded`: the run found no way on
* `Engine.OwnNotes`: the notes that an operation adds before the run goes on

## Main statements

* `Track.Travels.ends`: journeys end in one of these ways
* `Engine.load_iff_and_not_astray`: the checks accept the well-formed flows, and keep runs from
  steps that are missing and from ends at loop headers
* `Engine.execute_failed`: an operation that fails changes nothing, unless the run is stranded
-/

namespace Runbook

/-! ## The ends of journeys -/

/-- Why a run is refused on its way through a sound flow. -/
inductive Refusal.Strands : Refusal → Prop where
  | tooManySteps (step : String) (limit : Nat) : Strands (.tooManySteps step limit)
  | noTransition (step : String) : Strands (.noTransition step)

theorem Refusal.Strands.onWay {why : Refusal} (strands : why.Strands) : why.onWay = true := by
  cases strands <;> rfl

namespace Outcome

/-- What happened on the way: of a start, what happened at the first step. -/
def arrival : Outcome → Outcome
  | started _ arrival => arrival.arrival
  | outcome => outcome

/-- A start succeeds if its arrival does. -/
theorem succeeded_arrival (outcome : Outcome) : outcome.arrival.succeeded = outcome.succeeded := by
  induction outcome with
  | started flow arrival ih => exact ih
  | _ => rfl

/-- The ends of a journey through a sound flow. -/
inductive Ends : Outcome → Prop where
  | stranded {why : Refusal} (strands : why.Strands) : Ends (.refused why)
  | undecided (step : String) (pending : List Decision) : Ends (.undecided step pending)
  | completed : Ends .completed
  | terminated (step reason : String) : Ends (.terminated step reason)
  | arrived (step : String) : Ends (.arrived step)

/-- The end of a journey is no start. -/
theorem Ends.arrival {outcome : Outcome} (ends : outcome.Ends) : outcome.arrival = outcome := by
  cases ends <;> rfl

/-- A step is missing that the run was on its way to, or the run ended at a loop header. -/
inductive Astray : Outcome → Prop where
  | missing (target : String) : Astray (.refused (.missingTarget target))
  | endedLoop (ending : LoopEnding) (header : String) : Astray (.endedLoop ending header)

theorem Ends.not_astray {outcome : Outcome} (ends : outcome.Ends) : ¬ outcome.Astray := by
  rintro ⟨⟩
  · cases ends
    rename_i strands
    cases strands
  · cases ends

/-- The run found no way on: there were too many arrivals, or no transition can be taken. -/
def Stranded (outcome : Outcome) : Prop :=
  ∃ why : Refusal, outcome.arrival = .refused why ∧ why.Strands

/-- The operation put the run somewhere itself, or left it where it was. -/
def isDirect : Outcome → Bool
  | rejected _ _ | retrying _ | jumped _ | movedBack _ | stopped _ | resumed _ | saved _ _
  | restored _ _ | cleared => true
  | _ => false

theorem arrival_of_isDirect {outcome : Outcome} (direct : outcome.isDirect = true) :
    outcome.arrival = outcome ∧ outcome.succeeded = true := by
  cases outcome with
  | arrived | terminated | completed | endedLoop | undecided | started | refused => cases direct
  | _ => exact ⟨rfl, rfl⟩

/-- A journey fails only if it is refused on its way. -/
theorem Ends.exists_of_failed {outcome : Outcome} (ends : outcome.Ends)
    (failed : outcome.succeeded = false) :
    ∃ why : Refusal, outcome = .refused why ∧ why.Strands := by
  cases ends with
  | stranded strands => exact ⟨_, rfl, strands⟩
  | _ => cases failed

theorem not_astray_of_isDirect {outcome : Outcome} (direct : outcome.isDirect = true) :
    ¬ outcome.Astray := by
  rintro ⟨⟩ <;> cases direct

end Outcome

/-- **How journeys end.** -/
theorem Track.Travels.ends {track : Track} {state : RunState} {journey : Journey}
    (travels : track.Travels state journey) : journey.outcome.Ends := by
  induction travels with
  | giveUp => exact .stranded (.tooManySteps _ _)
  | stuck filed plain route => exact .stranded (.noTransition _)
  | undecided filed plain route => exact .undecided _ _
  | finish filed plain route => exact .completed
  | terminate filed plain ends => exact .terminated _ _
  | stand filed plain lasts stands first => exact .arrived _
  | advance filed plain lasts advances first onward ends => exact ends
  | pass filed header onward ends => exact ends

namespace Engine

variable {e : Engine} {now : Instant} {command : Command} {plan : Plan}

/-! ## Operations and their journeys -/

/-- The notes that an operation adds before the run goes on, the newest first.  Only a start, an
output and a skip let the run go on. -/
inductive OwnNotes (e : Engine) : Command → List Note → Prop where
  | start {definition : String} {flow : Flow} {warnings : List Diagnostic}
      (loaded : compile definition = .ok (flow, warnings)) (data : Json.Object) :
      OwnNotes e (.start definition data) [⟨flow.name, flow.entry, Action.start.name, none⟩]
  | submit {state : RunState} (live : e.current = .ok (some state)) (payload : Json.Object) :
      OwnNotes e (.submit payload) (outputNotes state.flowName state.currentStep
        (payload.erase Refusal.choiceKey) false)
  | approve {state : RunState} (live : e.current = .ok (some state)) (payload : Json.Object) :
      OwnNotes e (.approve payload) (outputNotes state.flowName state.currentStep
        (payload.erase Refusal.choiceKey) true)
  | skip {state : RunState} (live : e.current = .ok (some state)) (reason : Option String) :
      OwnNotes e (.skip reason) [⟨state.flowName, state.currentStep, Action.skip.name, reason⟩]

/-- The plan writes some notes of its own and lets the run go on. -/
def Sends (plan : Plan) (own : List Note) : Prop :=
  ∃ writes journey, plan.writes = writes ++ Journey.writes journey ∧ Write.Keep writes ∧
    Write.notes writes = own ∧ plan.outcome.arrival = journey.outcome ∧ journey.outcome.Ends

/-- Recording an output sends the run on. -/
theorem Records.sends (vetted : e.Vetted) {state : RunState} {payload : Json.Object}
    {approving : Bool} (records : e.Records state payload approving plan) :
    Sends plan (outputNotes state.flowName state.currentStep (payload.erase Refusal.choiceKey)
      approving) := by
  obtain ⟨track, next, writes, journey, rfl, travels, -, keeps, notes, -⟩ :=
    records.exists_journey vetted
  exact ⟨writes, journey, rfl, keeps, notes, travels.ends.arrival, travels.ends⟩

/-- **An operation puts the run somewhere itself, or it sends it on.** -/
theorem Does.direct_or_sends (vetted : e.Vetted) (does : e.Does now command plan) :
    plan.outcome.isDirect = true ∨ ∃ own, e.OwnNotes command own ∧ Sends plan own := by
  cases does with
  | @start definition data flow warnings free loaded =>
    have sound : flow.Sound := Flow.Accepted.sound ⟨definition, warnings, loaded⟩
    have ends := ((e.track flow).travels_enter sound
      (RunState.initial flow.name flow.entry data now) rfl).ends
    exact .inr ⟨_, .start loaded data, [.live _, .record _ _ .start none], _, rfl, by simp, rfl,
      ends.arrival, ends⟩
  | submit live running records => exact .inr ⟨_, .submit live _, records.sends vetted⟩
  | approve live waiting records => exact .inr ⟨_, .approve live _, records.sends vetted⟩
  | @skip reason state flow step live active bound filed =>
    have sound := vetted.sound (flow_of_flowOf bound)
    have ends := ((e.track flow).travels_follow sound { state with status := .running } filed).ends
    refine .inr ⟨_, .skip live reason, _, _, rfl, by simp, ?_, ends.arrival, ends⟩
    rw [← sound.filed filed]
    rfl
  | _ => exact .inl rfl

/-! ## Answers that never come -/

/-- No operation answers that the run went astray. -/
theorem not_astray_execute (vetted : e.Vetted) (now : Instant) (command : Command) :
    ¬ (e.execute now command).2.arrival.Astray := by
  rcases execute_cases e now command with ⟨why, same, early⟩ | ⟨plan, does, same⟩
  · rw [same]
    -- a refusal that comes at once is about no step on the way
    rintro ⟨⟩
    cases early
  · rw [same]
    rcases does.direct_or_sends vetted with direct | ⟨own, -, writes, journey, -, -, -, same, ends⟩
    · show ¬ plan.outcome.arrival.Astray
      rw [(Outcome.arrival_of_isDirect direct).1]
      exact Outcome.not_astray_of_isDirect direct
    · show ¬ plan.outcome.arrival.Astray
      rw [same]
      exact ends.not_astray

/-- **The checks keep runs from going astray.**  A definition can be loaded exactly if it describes
a flow that is well-formed, and that flow is then the loaded one.  Whatever happens in a session,
and whatever is in the store that it opens, no operation comes upon a transition to a step that is
missing, and no run ends at a loop header. -/
theorem load_iff_and_not_astray :
    (∀ (e : Engine) (definition : String) (flow : Flow),
      (∃ warnings, e.load definition = .ok ({ e with flow := some flow }, warnings)) ↔
        Flow.ofText definition = .ok flow ∧ flow.WellFormed) ∧
    ∀ (store : Store) (hooks : Registry) (limits : Limits) (events : List Event) (now : Instant)
      (command : Command),
      ¬ (((opening store hooks limits).through events).execute now command).2.arrival.Astray := by
  constructor
  · intro e definition flow
    rw [← Flow.hasErrors_check_iff]
    constructor
    · rintro ⟨warnings, loads⟩
      obtain ⟨found, compiled, same⟩ := load_eq_ok.1 loads
      obtain rfl := Option.some.inj (congrArg Engine.flow same)
      obtain ⟨described, clean, -⟩ := Flow.compile_eq_ok_iff.1 compiled
      exact ⟨described, clean⟩
    · rintro ⟨described, clean⟩
      exact ⟨flow.check, load_eq_ok.2 ⟨flow, Flow.compile_eq_ok_iff.2 ⟨described, clean, rfl⟩, rfl⟩⟩
  · intro store hooks limits events now command
    exact not_astray_execute ((vetted_opening store hooks limits).through events) now command

/-! ## What a failure leaves behind -/

/-- An operation that fails has changed nothing, or it has sent the run on and left it stranded. -/
theorem execute_cases_of_failed (vetted : e.Vetted) (now : Instant) (command : Command)
    (failed : (e.execute now command).2.succeeded = false) :
    (¬ (e.execute now command).2.Stranded ∧ (e.execute now command).1 = e) ∨
      (e.execute now command).2.Stranded ∧ ∃ own moves, e.OwnNotes command own ∧
        (∀ note ∈ moves, note.IsMove) ∧
        (e.execute now command).1.store.notes = moves ++ (own ++ e.store.notes) := by
  rcases execute_cases e now command with ⟨why, same, early⟩ | ⟨plan, does, same⟩
  · rw [same]
    refine .inl ⟨?_, rfl⟩
    rintro ⟨found, same, strands⟩
    obtain rfl := Outcome.refused.inj same
    rw [strands.onWay] at early
    cases early
  · rw [same] at failed ⊢
    rcases does.direct_or_sends vetted with
      direct | ⟨own, owns, writes, journey, written, keeps, rfl, same, ends⟩
    · rw [show plan.outcome.succeeded = true from (Outcome.arrival_of_isDirect direct).2] at failed
      cases failed
    · rw [← Outcome.succeeded_arrival, same] at failed
      obtain ⟨why, refused, strands⟩ := ends.exists_of_failed failed
      refine .inr ⟨⟨why, same.trans refused, strands⟩, _, _, owns, journey.isMove_of_mem_notes, ?_⟩
      show (e.store.applyAll now plan.writes).notes = _
      rw [written, Store.notes_applyAll now _ (Write.keep_append.2 ⟨keeps, journey.keep_writes⟩),
        Write.notes_append, List.append_assoc]

/-- **An operation that fails changes nothing**, whatever happened before.  The exceptions are
starts, outputs and skips whose run is stranded on its way; what they noted before is then in the
history, and after it the places that the run came to.  In particular a gate stays closed when an
approval is refused.  An output that cannot be archived is no exception, as it has not made a table
either (`Store.ensureArchive_eq_of_refused`). -/
theorem execute_failed {e : Engine} {store : Store} {hooks : Registry} {limits : Limits}
    {events : List Event} (reached : (opening store hooks limits).through events = e)
    (now : Instant) (command : Command) (failed : (e.execute now command).2.succeeded = false) :
    (¬ (e.execute now command).2.Stranded → (e.execute now command).1 = e) ∧
      ((e.execute now command).2.Stranded → ∃ own moves, e.OwnNotes command own ∧
        (∀ note ∈ moves, note.IsMove) ∧
        (e.execute now command).1.store.notes = moves ++ (own ++ e.store.notes)) ∧
      ∀ payload state, command = .approve payload → e.current = .ok (some state) →
        state.status = .waiting → ¬ (e.execute now command).2.Stranded →
        (e.execute now command).1.current = .ok (some state) := by
  have vetted : e.Vetted := reached ▸ (vetted_opening store hooks limits).through events
  rcases execute_cases_of_failed vetted now command failed with
    ⟨early, same⟩ | ⟨stranded, left⟩
  · refine ⟨fun _ => same, fun stranded => absurd stranded early, ?_⟩
    intro payload state _ live _ _
    rw [same]
    exact live
  · exact ⟨fun early => absurd stranded early, fun _ => left,
      fun _ _ _ _ _ early => absurd stranded early⟩

/-- A session in which no arrival may follow another one: the run of `Flow.loopText` is at its first
step, and the loop comes next. -/
def beforeLoop : Engine :=
  (opening .empty .empty ⟨0, 20, 20⟩).through
    [.operate ⟨0⟩ (.start Flow.loopText [("xs", .arr [.int 5])])]

/-- The output of the first step stays, though the run is stranded at the loop. -/
theorem execute_failed_beforeLoop :
    (beforeLoop.execute ⟨1⟩ (.submit [])).2.Stranded ∧
      (∃ own moves, beforeLoop.OwnNotes (.submit []) own ∧ (∀ note ∈ moves, note.IsMove) ∧
        (beforeLoop.execute ⟨1⟩ (.submit [])).1.store.notes =
          moves ++ (own ++ beforeLoop.store.notes)) ∧
      (beforeLoop.execute ⟨1⟩ (.submit [])).1.store.notes.map
        (fun note => (note.step, note.action)) = [("a", "submit"), ("a", "start")] := by
  have run : (beforeLoop.execute ⟨1⟩ (.submit [])).2 = .refused (.tooManySteps "a" 0) ∧
      (beforeLoop.execute ⟨1⟩ (.submit [])).1.store.notes.map
        (fun note => (note.step, note.action)) = [("a", "submit"), ("a", "start")] := by
    rw [beforeLoop, through_cons, Event.apply,
      execute_start (free_of_empty rfl) _ Flow.compile_loopText]
    cbv
  have stranded : (beforeLoop.execute ⟨1⟩ (.submit [])).2.Stranded :=
    ⟨.tooManySteps "a" 0, by rw [run.1]; rfl, .tooManySteps _ _⟩
  have failed : (beforeLoop.execute ⟨1⟩ (.submit [])).2.succeeded = false := by
    rw [run.1]
    rfl
  have reached : (opening .empty .empty ⟨0, 20, 20⟩).through
    [.operate ⟨0⟩ (.start Flow.loopText [("xs", .arr [.int 5])])] = beforeLoop := rfl
  exact ⟨stranded, (execute_failed reached ⟨1⟩ (.submit []) failed).2.1 stranded, run.2⟩

end Engine

end Runbook
