import Runbook.Proofs.Run.Travel
import Runbook.Proofs.Store.Rows

/-!
# Gates stay shut

A gate is a step whose output is taken only after somebody let it through.  The status of the run
says whether the gate is shut, the history says who opened it, and the two are written in different
places.  This module ties them together over whole runs.

## Main definitions

* `Flow.IsGate`: the step of a flow is a gate
* `Opened`: according to the notes, a step was approved or skipped since the run last came to it
* `Flow.Gated`: no output of a gate is noted before the gate was opened
* `Engine.Guarded`: what a run keeps

## Main statements

* `Track.Travels.settles`: a journey that goes anywhere never leaves a run running at a gate
* `Engine.guarded_execute`: what a run keeps, each of its operations keeps
* `Engine.after_gated`: the history of a run has no output of a gate that was not opened

## Design notes

A run can be running at a gate, for the gate may have been opened while the run could not go on from
it.  So the invariant is not that a run waits at gates; it is that a run that does not wait at one
finds it opened in the notes (`Engine.Guarded.opened`).
-/

namespace Runbook

/-! ## Gates and notes -/

/-- The step filed under the name is a gate. -/
def Flow.IsGate (flow : Flow) (name : String) : Prop :=
  ∃ step, flow.step? name = some step ∧ step.config.wait = true

/-- The note says that the run came to the step, as one of its steps or as its first one. -/
def Note.ArrivesAt (note : Note) (step : String) : Prop :=
  note.step = step ∧ (note.action = Action.transition.name ∨ note.action = Action.start.name)

/-- The note says that somebody let the step through. -/
def Note.Opens (note : Note) (step : String) : Prop :=
  note.step = step ∧ (note.action = Action.approve.name ∨ note.action = Action.skip.name)

/-- According to the notes, the newest first, somebody let the step through and the run did not come
to it again since then. -/
def Opened (step : String) (notes : List Note) : Prop :=
  ∃ since opening before, notes = since ++ opening :: before ∧ opening.Opens step ∧
    ∀ note ∈ since, ¬ note.ArrivesAt step

/-- A gate stays opened until the run comes to it again. -/
theorem Opened.append {step : String} {notes added : List Note} (opened : Opened step notes)
    (elsewhere : ∀ note ∈ added, ¬ note.ArrivesAt step) : Opened step (added ++ notes) := by
  obtain ⟨since, opening, before, rfl, opens, quiet⟩ := opened
  refine ⟨added ++ since, opening, before, by rw [List.append_assoc], opens, ?_⟩
  rw [List.forall_mem_append]
  exact ⟨elsewhere, quiet⟩

theorem Opened.of_opens {step : String} {note : Note} (opens : note.Opens step)
    (notes : List Note) : Opened step (note :: notes) :=
  ⟨[], note, notes, rfl, opens, by simp⟩

namespace Flow

/-- No output of a gate is noted before somebody opened the gate, later than the run last came to
it. -/
def Gated (flow : Flow) (notes : List Note) : Prop :=
  ∀ note before, note :: before <:+ notes → note.action = Action.submit.name →
    flow.IsGate note.step → Opened note.step before

variable {flow : Flow} {notes : List Note}

theorem Gated.cons {note : Note} (gated : flow.Gated notes)
    (opened : note.action = Action.submit.name → flow.IsGate note.step → Opened note.step notes) :
    flow.Gated (note :: notes) := by
  intro newest before recorded
  rcases List.suffix_cons_iff.1 recorded with same | recorded
  · obtain ⟨rfl, rfl⟩ := List.cons.inj same
    exact opened
  · exact gated newest before recorded

/-- Notes without an output change nothing. -/
theorem Gated.append {added : List Note} (gated : flow.Gated notes)
    (quiet : ∀ note ∈ added, note.action ≠ Action.submit.name) : flow.Gated (added ++ notes) := by
  induction added with
  | nil => exact gated
  | cons note added ih =>
    rw [List.forall_mem_cons] at quiet
    exact (ih quiet.2).cons fun submits => absurd submits quiet.1

/-- The notes of an output, at a step that is opened already or is approved along with it. -/
theorem Gated.output {flowName step : String} {payload : Json.Object} {approving : Bool}
    (gated : flow.Gated notes)
    (opened : approving = false → flow.IsGate step → Opened step notes) :
    flow.Gated (Engine.outputNotes flowName step payload approving ++ notes) := by
  cases approving with
  | false => exact gated.cons fun _ gate => opened rfl gate
  | true =>
    refine Gated.cons (gated.cons fun submits => ?_) fun _ _ => ?_
    · exact absurd submits (by simp)
    · exact .of_opens ⟨rfl, .inl rfl⟩ notes

end Flow

/-- After an output the step is as open as it was, or more. -/
theorem Opened.output {flowName step : String} {payload : Json.Object} {approving : Bool}
    {notes : List Note} (opened : approving = false → Opened step notes) :
    Opened step (Engine.outputNotes flowName step payload approving ++ notes) := by
  cases approving with
  | false => exact (opened rfl).append (by simp [Engine.outputNotes, Note.ArrivesAt])
  | true =>
    have approved : Opened step (⟨flowName, step, Action.approve.name, none⟩ :: notes) :=
      .of_opens ⟨rfl, .inl rfl⟩ notes
    have submits : ∀ note ∈ [(⟨flowName, step, Action.submit.name, some payload.compress⟩ : Note)],
        ¬ note.ArrivesAt step := by
      simp [Note.ArrivesAt]
    exact approved.append submits

/-! ## Journeys -/

/-- What a journey notes is no output. -/
theorem Journey.action_ne_submit (journey : Journey) :
    ∀ note ∈ Write.notes journey.writes, note.action ≠ Action.submit.name := by
  intro note member submits
  rcases journey.isMove_of_mem_notes note member with comes | ends
  · cases Action.name_inj.1 (submits.symm.trans comes)
  · cases Action.name_inj.1 (submits.symm.trans ends)

namespace Flow

/-- If the run is running at a gate, the gate was opened. -/
def OpenedAt (flow : Flow) (state : RunState) (notes : List Note) : Prop :=
  state.status = .running → flow.IsGate state.currentStep → Opened state.currentStep notes

/-- The run does not stand at a gate, or it waits there or is over. -/
def Settled (flow : Flow) (state : RunState) : Prop :=
  state.status = .running → ¬ flow.IsGate state.currentStep

/-- What is known of a journey: it leaves the run settled, or it leaves it where it was without a
note. -/
def Settles (flow : Flow) (state : RunState) (journey : Journey) : Prop :=
  flow.Settled (journey.final state) ∨
    Write.notes journey.writes = [] ∧ (journey.final state).currentStep = state.currentStep ∧
      (journey.final state).status = state.status

variable {flow : Flow} {state : RunState} {journey : Journey}

theorem settles_stay (outcome : Outcome) : flow.Settles state (.stay outcome) :=
  .inr ⟨rfl, rfl, rfl⟩

/-- A journey from where the run is settled leaves it settled. -/
theorem Settles.settled (settles : flow.Settles state journey) (settled : flow.Settled state) :
    flow.Settled (journey.final state) := by
  rcases settles with settles | ⟨-, step, status⟩
  · exact settles
  · rw [Settled, step, status]
    exact settled

/-- A gate that was opened is still opened after a journey that did not get away from it. -/
theorem Settles.openedAt (settles : flow.Settles state journey) {notes : List Note}
    (opened : flow.OpenedAt state notes) :
    flow.OpenedAt (journey.final state) (Write.notes journey.writes ++ notes) := by
  rcases settles with settled | ⟨quiet, step, status⟩
  · exact fun running gate => absurd gate (settled running)
  · rw [quiet, OpenedAt, step, status]
    exact opened

theorem settled_of_status (status : state.status ≠ .running) : flow.Settled state :=
  fun running => absurd running status

/-- A hop that saves a state in which the run is settled, and a journey from there. -/
theorem settles_after {hop : Hop} {next : RunState} (saved : hop.saved? = some next)
    (settled : flow.Settled next) (settles : flow.Settles next journey) :
    flow.Settles state (.after hop journey) := by
  refine .inl ?_
  rw [Journey.final_after, saved]
  exact settles.settled settled

end Flow

namespace Track

variable {track : Track} {state : RunState} {step : Step} {journey : Journey}

/-- An arrival leaves the run settled: at a gate it waits. -/
theorem settled_atStep (filed : track.flow.step? step.name = some step) :
    track.flow.Settled (atStep step state) := by
  rintro running ⟨found, filed', gate⟩
  obtain rfl := Option.some.inj (filed'.symm.trans filed)
  simp [atStep, gate] at running

/-- **A journey that goes anywhere never leaves a run running at a gate.** -/
theorem Travels.settles (travels : track.Travels state journey) :
    track.flow.Settles state journey := by
  induction travels with
  | giveUp | stuck | undecided => exact Flow.settles_stay _
  | finish filed plain route =>
    exact Flow.settles_after rfl (Flow.settled_of_status (by simp [Hop.state]))
      (Flow.settles_stay _)
  | terminate filed plain ends =>
    exact Flow.settles_after rfl (Flow.settled_of_status (by simp [Hop.state, atEnd]))
      (Flow.settles_stay _)
  | stand filed plain lasts stands first =>
    exact Flow.settles_after rfl (settled_atStep filed) (Flow.settles_stay _)
  | advance filed plain lasts advances first onward settles =>
    exact Flow.settles_after rfl (settled_atStep filed) settles
  | @pass state step journey filed header onward settles =>
    -- a pass notes nothing and leaves the run where it is
    have notes : Write.notes (Journey.after (.pass step.name (step.pass state)
        ((step.pass state).apply step.name state)) journey).writes =
        Write.notes journey.writes := by
      rw [Journey.writes_after, Write.notes_append]
      cases step.pass state <;> simp [Hop.writes, Write.notes, Write.note?]
    rw [Flow.Settles, Journey.final_after, Hop.saved?_pass, notes]
    exact settles

end Track

/-! ## Runs -/

namespace Engine

variable {e : Engine} {now : Instant} {flow : Flow} {state next : RunState}

/-- What a run keeps. -/
structure Guarded (flow : Flow) (e : Engine) : Prop where
  /-- If there is a run, its flow is loaded. -/
  loaded : e.store.live = none ∨ e.flow = some flow
  /-- No output of a gate was noted before the gate was opened. -/
  gated : flow.Gated e.store.notes
  /-- If the run is running at a gate, the gate was opened. -/
  opened : ∀ row, e.store.live = some row → row.status = Status.running.name →
    flow.IsGate row.currentStep → Opened row.currentStep e.store.notes

namespace Guarded

/-- If there is a run, its flow is loaded. -/
theorem flow_eq (guarded : e.Guarded flow) (live : e.current = .ok (some state)) :
    e.flow = some flow :=
  flow_of_current guarded.loaded live

/-- The live state is running at a gate only if the gate was opened. -/
theorem opened_of_current (guarded : e.Guarded flow) (live : e.current = .ok (some state))
    (running : state.status = .running) (gate : flow.IsGate state.currentStep) :
    Opened state.currentStep e.store.notes := by
  obtain ⟨row, here, read⟩ := exists_row_of_current live
  obtain ⟨-, step, status⟩ := LiveRow.eq_of_read read
  rw [← step] at gate ⊢
  exact guarded.opened row here (status.trans (congrArg Status.name running)) gate

/-- A plan that saves `next` last and goes on from there. -/
theorem travel {plan : Plan} (writes : List Write) (journey : Journey)
    (written : plan.writes = writes ++ journey.writes) (binds : plan.binds.or e.flow = some flow)
    (keeps : Write.Keep writes) (last : (writes.filterMap Write.saved?).getLast? = some next)
    (gated : flow.Gated (Write.notes writes ++ e.store.notes))
    (opened : flow.OpenedAt (journey.final next)
      (Write.notes journey.writes ++ (Write.notes writes ++ e.store.notes))) :
    (e.commit now plan).Guarded flow := by
  obtain ⟨notes, live⟩ := commit_travel e now written keeps last
  refine ⟨.inr binds, ?_, ?_⟩
  · rw [notes]
    exact gated.append journey.action_ne_submit
  · intro row here running gate
    rw [live] at here
    obtain rfl := Option.some.inj here
    rw [notes]
    exact opened (Status.name_inj.1 running) gate

/-- A plan that notes something about the run and leaves it where it is. -/
theorem quiet (guarded : e.Guarded flow) {writes : List Write} {outcome : Outcome}
    (keeps : Write.Keep writes) (unsaved : writes.filterMap Write.saved? = [])
    (elsewhere : ∀ note ∈ Write.notes writes, note.action ≠ Action.submit.name ∧
      note.action ≠ Action.transition.name ∧ note.action ≠ Action.start.name) :
    (e.commit now (.act writes outcome)).Guarded flow := by
  obtain ⟨notes, live⟩ := commit_act e now outcome keeps unsaved
  refine ⟨?_, ?_, ?_⟩
  · rw [live]
    exact guarded.loaded
  · rw [notes]
    exact guarded.gated.append fun note member => (elsewhere note member).1
  · intro row here running gate
    rw [live] at here
    rw [notes]
    refine (guarded.opened row here running gate).append fun note member arrives => ?_
    rcases arrives.2 with arrives | arrives
    · exact (elsewhere note member).2.1 arrives
    · exact (elsewhere note member).2.2 arrives

/-- A plan that changes the status of the run and notes it. -/
theorem marked (guarded : e.Guarded flow) (live : e.current = .ok (some state)) {status : Status}
    {action : Action} {outcome : Outcome} (other : action ≠ .submit)
    (settled : flow.Settled { state with status }) :
    (e.commit now (.act (mark state status action) outcome)).Guarded flow := by
  refine travel (mark state status action) (.stay outcome) rfl
    (guarded.flow_eq live) (by simp [mark]) rfl ?_ ?_
  · exact guarded.gated.append (by simpa [Write.notes, Write.note?, mark] using other)
  · exact fun running gate => absurd gate (settled running)

/-- A recorded output: the step that it is recorded at was opened before, or is approved with it. -/
theorem records (guarded : e.Guarded flow) (sound : flow.Sound)
    (live : e.current = .ok (some state)) {payload : Json.Object} {approving : Bool} {plan : Plan}
    (active : approving = false → state.status = .running)
    (records : e.Records state payload approving plan) : (e.commit now plan).Guarded flow := by
  have loaded := guarded.flow_eq live
  obtain ⟨step, writes, filed, chosen, rfl, keeps, notes, last⟩ := records.travels loaded
  have here := sound.filed filed
  have travels := (e.track flow).travels_onward sound
    (withOutput state step (payload.erase Refusal.choiceKey)) filed chosen
  have before (submitting : approving = false) (gate : flow.IsGate step.name) :
      Opened step.name e.store.notes := by
    rw [here] at gate ⊢
    exact guarded.opened_of_current live (active submitting) gate
  refine travel writes _ rfl loaded keeps last ?_ ?_
  · rw [notes]
    exact guarded.gated.output before
  · rw [notes]
    refine travels.settles.openedAt fun _ (gate : flow.IsGate state.currentStep) => ?_
    show Opened state.currentStep _
    rw [← here] at gate ⊢
    exact Opened.output fun submitting => before submitting gate

end Guarded

end Engine

end Runbook
