import Runbook.Proofs.Run.Travel
import Runbook.Proofs.Store.Rows

/-!
# Where the history says that the run stands

The live row and the history are written separately, and some writes are of one of them only: a
counter of a loop, the end of a run where it stands, the first arrival.  All the same the newest row
of the history names the flow and the step of the live row, after every operation, whether it was
carried out, refused at once, or refused on its way.

## Main definitions

* `LiveRow.place`, `HistoryRow.place`: the flow and the step that a row is about
* `Store.Numbered`: later rows of the history have greater numbers
* `Journey.Tells`: what a journey noted last is where the run stands after it
* `Store.Abreast`: the newest row of the history names where the run stands

## Main statements

* `Track.Travels.tells`: a journey tells where it leaves the run
* `Engine.abreast_execute`: each operation leaves the history abreast of the run
* `Engine.live_place_eq_newest`: so does each session
-/

namespace Runbook

/-- The flow and the step that the row is about. -/
def LiveRow.place (row : LiveRow) : String × String := (row.flowName, row.currentStep)

/-- The flow and the step that the row is about. -/
def HistoryRow.place (row : HistoryRow) : String × String := (row.flowName, row.step)

/-- The flow and the step that the note is about. -/
def Note.place (note : Note) : String × String := (note.flowName, note.step)

/-- The flow of the run and its step. -/
def RunState.place (state : RunState) : String × String := (state.flowName, state.currentStep)

/-! ## The numbers of the rows -/

namespace Store

/-- Later rows of the history have greater numbers, and none has one that was not given yet. -/
structure Numbered (store : Store) : Prop where
  later : store.history.Pairwise fun newer older => older.id < newer.id
  given : ∀ row ∈ store.history, row.id ≤ store.lastId

theorem Numbered.apply {store : Store} (numbered : store.Numbered) (now : Instant) (w : Write) :
    (store.apply now w).Numbered := by
  cases w with
  | live state => exact ⟨numbered.later, numbered.given⟩
  | record flow step action data =>
    refine ⟨List.pairwise_cons.2 ⟨fun row member => ?_, numbered.later⟩, ?_⟩
    · exact Nat.lt_succ_of_le (numbered.given row member)
    · rintro row member
      rcases List.mem_cons.1 member with rfl | member
      · exact Nat.le_refl _
      · exact Nat.le_succ_of_le (numbered.given row member)
  | checkpoint name state => exact ⟨numbered.later, numbered.given⟩
  | archive table schema payload =>
    obtain ⟨archives, same⟩ := apply_archive now store table schema payload
    rw [same]
    exact ⟨numbered.later, numbered.given⟩
  | clear => exact ⟨.nil, nofun⟩

theorem Numbered.applyAll {store : Store} (numbered : store.Numbered) (now : Instant)
    (writes : List Write) : (store.applyAll now writes).Numbered := by
  induction writes generalizing store with
  | nil => exact numbered
  | cons w writes ih => exact ih (numbered.apply now w)

/-- The newest row of the history names the flow and the step of the live row, and there is no
history without a live row. -/
def Abreast (store : Store) : Prop :=
  store.live.map LiveRow.place = store.notes.head?.map Note.place

end Store

/-! ## Journeys -/

namespace Journey

/-- What a journey noted last is where it left the run; if it noted nothing, the run is where it
was. -/
def Tells (state : RunState) (journey : Journey) : Prop :=
  ((Write.notes journey.writes).head?.map Note.place).getD state.place =
    (journey.final state).place

/-- A hop in front of a journey that tells, if the hop tells as much by itself. -/
theorem tells_after {state next : RunState} {hop : Hop} {journey : Journey}
    (saved : hop.saved?.getD state = next)
    (noted : ((Write.notes hop.writes).head?.map Note.place).getD state.place = next.place)
    (tells : journey.Tells next) : (after hop journey).Tells state := by
  rw [Tells, writes_after, Write.notes_append, List.head?_append, final_after, saved, ← tells,
    ← noted]
  cases (Write.notes journey.writes).head? <;> rfl

end Journey

/-- **A journey tells where it leaves the run.** -/
theorem Track.Travels.tells {track : Track} {state : RunState} {journey : Journey}
    (travels : track.Travels state journey) : journey.Tells state := by
  -- an arrival tells its step, and one that is not recorded is where the run stands anyway
  have arrives {state : RunState} {step : Step} {recorded : Bool}
      (first : recorded = false → step.name = state.currentStep) :
      ((Write.notes (Hop.arrive step.name recorded (atStep step state)).writes).head?.map
        Note.place).getD state.place = (atStep step state).place := by
    cases recorded with
    | true => rfl
    | false => exact congrArg (Prod.mk state.flowName) (first rfl).symm
  induction travels with
  | giveUp | stuck | undecided => rfl
  | finish | terminate => rfl
  | stand filed plain lasts stands first => exact Journey.tells_after rfl (arrives first) rfl
  | advance filed plain lasts advances first onward tells =>
    exact Journey.tells_after rfl (arrives first) tells
  | @pass state step journey filed header onward tells =>
    refine Journey.tells_after (Hop.saved?_pass _ _ _) ?_ tells
    cases step.pass state <;> rfl

/-! ## Operations -/

namespace Engine

variable {e : Engine} {now : Instant} {state next : RunState}

/-- A plan that saves `next` last, notes where that stands, and goes on from there. -/
theorem abreast_travel {plan : Plan} (writes : List Write) (journey : Journey)
    (written : plan.writes = writes ++ journey.writes) (keeps : Write.Keep writes)
    (last : (writes.filterMap Write.saved?).getLast? = some next)
    (noted : (Write.notes writes).head?.map Note.place = some next.place)
    (tells : journey.Tells next) : (e.commit now plan).store.Abreast := by
  obtain ⟨notes, live⟩ := commit_travel e now written keeps last
  rw [Store.Abreast, live, notes, List.head?_append, List.head?_append]
  have final : (LiveRow.ofState (journey.final next)).place = (journey.final next).place := rfl
  rw [Option.map_some, final, ← tells]
  obtain ⟨note, first, same⟩ := Option.map_eq_some_iff.1 noted
  rw [first, ← same]
  cases (Write.notes journey.writes).head? <;> rfl

/-- A plan that saves a state and notes where that stands. -/
theorem abreast_marked (state : RunState) (status : Status) (action : Action) (outcome : Outcome) :
    (e.commit now (.act (mark state status action) outcome)).store.Abreast :=
  abreast_travel (mark state status action) (.stay outcome) rfl (by simp [mark]) rfl rfl rfl

/-- A recorded output: it is noted at the step of the run, and the run goes on from there. -/
theorem abreast_records (vetted : e.Vetted) {payload : Json.Object} {approving : Bool} {plan : Plan}
    (records : e.Records state payload approving plan) : (e.commit now plan).store.Abreast := by
  obtain ⟨track, next, writes, journey, rfl, travels, rfl, keeps, notes, last⟩ :=
    records.exists_journey vetted
  refine abreast_travel writes journey rfl keeps last ?_ travels.tells
  rw [notes]
  rfl

/-- **Each operation leaves the history abreast of the run.** -/
theorem abreast_execute (vetted : e.Vetted) (abreast : e.store.Abreast) (now : Instant)
    (command : Command) : (e.execute now command).1.store.Abreast := by
  rcases execute_cases e now command with ⟨why, same, -⟩ | ⟨plan, does, same⟩
  · rw [same]
    exact abreast
  rw [same]
  cases does with
  | @start definition data flow warnings free compiled =>
    have sound : flow.Sound := Flow.Accepted.sound ⟨definition, warnings, compiled⟩
    exact abreast_travel [.live _, .record _ _ .start none] _ rfl (by simp) rfl rfl
      ((e.track flow).travels_enter sound _ rfl).tells
  | submit live running records => exact abreast_records vetted records
  | approve live waiting records => exact abreast_records vetted records
  | @reject reason state live waiting =>
    -- the note is about the live row, which stays
    have keeps : Write.Keep [.record state.flowName state.currentStep .reject reason] := by simp
    obtain ⟨notes, same⟩ := commit_act e now (.rejected state.currentStep reason) keeps rfl
    obtain ⟨row, here, read⟩ := exists_row_of_current live
    obtain ⟨flow, step, -⟩ := LiveRow.eq_of_read read
    rw [Store.Abreast, same, notes, here, Option.map_some, LiveRow.place, flow, step]
    rfl
  | @skip reason state flow step live active bound filed =>
    have sound := vetted.sound (flow_of_flowOf bound)
    have travels := (e.track flow).travels_follow sound { state with status := .running } filed
    refine abreast_travel _ _ rfl (by simp) rfl ?_ travels.tells
    show some (state.flowName, step.name) = some (state.flowName, state.currentStep)
    rw [sound.filed filed]
  | retry live => exact abreast_marked _ _ _ _
  | goto live bound known => exact abreast_marked _ _ _ _
  | back live read found => exact abreast_marked _ _ _ _
  | stop live active => exact abreast_marked _ _ _ _
  | resume live paused bound => exact abreast_marked _ _ _ _
  | @saveCheckpoint name state live =>
    have keeps : Write.Keep [.checkpoint name state] := by simp
    obtain ⟨notes, same⟩ := commit_act e now (.saved name state.currentStep) keeps rfl
    show (e.commit now _).store.live.map _ = _
    rw [planSave, same, notes]
    exact abreast
  | @restoreCheckpoint name state saved =>
    exact abreast_travel [.live state, .record _ _ .restore (some name)]
      (.stay (.restored name state.currentStep)) rfl (by simp) rfl rfl rfl
  | reset => rfl

/-- The rows of the history stay numbered. -/
theorem numbered_execute (numbered : e.store.Numbered) (now : Instant) (command : Command) :
    (e.execute now command).1.store.Numbered := by
  rcases execute_cases e now command with ⟨why, same, -⟩ | ⟨plan, -, same⟩
  · rw [same]
    exact numbered
  · rw [same]
    exact numbered.applyAll now plan.writes

theorem numbered_apply (numbered : e.store.Numbered) (event : Event) :
    (event.apply e).store.Numbered := by
  cases event with
  | operate now command => exact numbered_execute numbered now command
  | _ =>
    rw [store_apply e rfl]
    exact numbered

/-- **So they do in every session**, however many rows it adds and how often it begins again. -/
theorem numbered_through (numbered : e.store.Numbered) (events : List Event) :
    (e.through events).store.Numbered := by
  induction events generalizing e with
  | nil => exact numbered
  | cons event events ih => exact ih (numbered_apply numbered event)

/-- **The newest row of the history says where the run stands.**  Whatever happens to an engine that
began with an empty store: if there is a live row, the newest row of the history is about its flow
and its step, and if there is none, there is no history.  The newest row is the one with the
greatest number. -/
theorem live_place_eq_newest (hooks : Registry) (limits : Limits) (events : List Event) :
    ((new hooks limits).through events).store.live.map LiveRow.place =
        ((new hooks limits).through events).store.history.head?.map HistoryRow.place ∧
      ((new hooks limits).through events).store.history.Pairwise
        fun newer older => older.id < newer.id := by
  have keeps (e : Engine) (now : Instant) (command : Command) (vetted : e.Vetted)
      (holds : e.store.Abreast ∧ e.store.Numbered) :
      (e.execute now command).1.store.Abreast ∧ (e.execute now command).1.store.Numbered :=
    ⟨abreast_execute vetted holds.1 now command, numbered_execute holds.2 now command⟩
  obtain ⟨abreast, numbered⟩ : Store.Abreast ((new hooks limits).through events).store ∧
      Store.Numbered ((new hooks limits).through events).store :=
    through_induction (fun store => store.Abreast ∧ store.Numbered) (fun _ => True) (fun _ => True)
      (fun e now command vetted holds _ _ => keeps e now command vetted holds)
      (fun _ _ _ => trivial) _ (fun _ _ => trivial) (vetted_opening .empty hooks limits)
      ⟨rfl, .nil, nofun⟩
  refine ⟨?_, numbered.later⟩
  rw [abreast, Store.notes, List.head?_map, Option.map_map]
  rfl

end Engine

end Runbook
