import Runbook.Proofs.Engine.Operations
import Runbook.Proofs.Store.Rows

/-!
# Checkpoints

A checkpoint is the whole state of a run under a name.  Of all that operations write only the saving
of a checkpoint touches the checkpoints, so what is there at any time are states that were live when
they were saved.  Reading one back is like reading the live row, except that the whole state is one
text, in which the data is a field among others.

## Main definitions

* `Write.Spares`: the write leaves the checkpoints alone

## Main statements

* `CheckpointRow.bind_stateOfJson?`: what is read from the text of a state
* `CheckpointRow.eq_of_read_ofState`: a checkpoint that is read back is the state that was saved,
  but for its data and its time
* `Engine.checkpoints_execute`: only saving a checkpoint touches the checkpoints
-/

namespace Runbook

/-! ## Reading a checkpoint -/

namespace CheckpointRow

/-- The fields of a state are found under their names. -/
theorem record?_stateFields (flowName currentStep status data loops time : Json) :
    Json.record? stateFields (.obj [
      ("flow_name", flowName), ("current_step", currentStep), ("status", status), ("data", data),
      ("loop_state", loops), ("started_at", time)]) =
      some [some flowName, some currentStep, some status, some data, some loops, some time] := by
  simp [Json.record?, stateFields, Json.atMostOne?, Json.allOf]

/-- The state of a record that has all of its fields. -/
theorem stateOfJson?_obj (state : RunState) (data loops : Json) :
    stateOfJson? (.obj [
      ("flow_name", .str state.flowName), ("current_step", .str state.currentStep),
      ("status", .str state.status.name), ("data", data), ("loop_state", loops),
      ("started_at", .str state.startedAt.render)]) =
      data.canonical.obj?.bind fun data => (RunState.loopsOfJson? loops).bind fun loops =>
        (Instant.parseLoosely? state.startedAt.render).map fun startedAt =>
          { state with data, loops, startedAt } := by
  have status : statusOfJson? (.str state.status.name) = some state.status := by
    rw [statusOfJson?, Status.parse_name]
    rfl
  rw [stateOfJson?, record?_stateFields]
  simp only [bind, Option.bind_some, status, Json.orElse?, Option.map_eq_bind]
  rfl

/-- **What is read from the text of a state**: the data and the active loops as they come back from
one container further inside, and all the rest as it was. -/
theorem bind_stateOfJson? (state : RunState) :
    (Json.scan? (stateToJson state).compress).bind stateOfJson? =
      (Json.reread? (Json.maxDepth - 1) (.obj state.data)).bind fun data =>
        (Json.reread? (Json.maxDepth - 1) (RunState.loopsToJson state.loops)).bind fun loops =>
          data.canonical.obj?.bind fun data => (RunState.loopsOfJson? loops).bind fun loops =>
            (Instant.parseLoosely? state.startedAt.render).map fun startedAt =>
              { state with data, loops, startedAt } := by
  have text (s : String) : Json.reread? (Json.maxDepth - 1) (.str s) = some (.str s) := by
    rw [Json.reread?]
    all_goals simp
  rw [Json.scan?_compress, stateToJson, Json.reread?, if_neg (by decide)]
  simp only [Json.rereadFields?, text, Option.bind_some]
  cases Json.reread? (Json.maxDepth - 1) (.obj state.data) with
  | none => rfl
  | some data =>
    cases Json.reread? (Json.maxDepth - 1) (RunState.loopsToJson state.loops) with
    | none => rfl
    | some loops => exact stateOfJson?_obj state data loops

/-- **A checkpoint that is read back** is the state that was saved, but for its data and its
time. -/
theorem eq_of_read_ofState {name : String} {state back : RunState} {now : Instant}
    (read : (ofState name state now).read = .ok back) :
    back = { state with data := back.data, startedAt := back.startedAt } := by
  have whole : (Json.scan? (stateToJson state).compress).bind stateOfJson? = some back := by
    unfold CheckpointRow.read LiveRow.readData at read
    split at read
    · rename_i value found
      obtain rfl := Except.ok.inj read
      exact found
    · cases read
  rw [bind_stateOfJson?] at whole
  obtain ⟨dataValue, -, whole⟩ := Option.bind_eq_some_iff.1 whole
  obtain ⟨loopsValue, loopsText, whole⟩ := Option.bind_eq_some_iff.1 whole
  obtain ⟨data, -, whole⟩ := Option.bind_eq_some_iff.1 whole
  obtain ⟨loops, loopsRead, whole⟩ := Option.bind_eq_some_iff.1 whole
  obtain ⟨startedAt, -, rfl⟩ := Option.map_eq_some_iff.1 whole
  have same : loops = state.loops :=
    RunState.loops_of_reread? (Option.bind_eq_some_iff.2 ⟨loopsValue, loopsText, loopsRead⟩)
  rw [same]

end CheckpointRow

namespace Write

/-- The write leaves the checkpoints alone. -/
def Spares : Write → Prop
  | checkpoint _ _ => False
  | _ => True

end Write

/-- Journeys leave the checkpoints alone. -/
theorem Journey.spares (journey : Journey) : ∀ w ∈ journey.writes, w.Spares := by
  intro w member
  obtain ⟨hop, -, member⟩ := List.mem_flatMap.1 member
  cases hop with
  | pass header pass state =>
    cases pass <;> simp only [Hop.writes, List.mem_singleton, List.not_mem_nil] at member
    all_goals
      subst member
      trivial
  | arrive step recorded state =>
    rcases List.mem_cons.1 member with rfl | member
    · trivial
    · split at member
      · obtain rfl := List.mem_singleton.1 member
        trivial
      · cases member
  | terminate step reason state =>
    simp only [Hop.writes, List.mem_cons, List.not_mem_nil, or_false] at member
    rcases member with rfl | rfl <;> trivial
  | finish state =>
    obtain rfl := List.mem_singleton.1 member
    trivial

namespace Store

theorem checkpoints_apply (now : Instant) (store : Store) {w : Write} (spares : w.Spares) :
    (store.apply now w).checkpoints = store.checkpoints := by
  cases w with
  | checkpoint name state => exact spares.elim
  | archive table schema payload =>
    obtain ⟨archives, same⟩ := apply_archive now store table schema payload
    rw [same]
  | _ => rfl

theorem checkpoints_applyAll (now : Instant) (store : Store) {writes : List Write}
    (spares : ∀ w ∈ writes, w.Spares) :
    (store.applyAll now writes).checkpoints = store.checkpoints := by
  induction writes generalizing store with
  | nil => rfl
  | cons w writes ih =>
    rw [List.forall_mem_cons] at spares
    rw [applyAll_cons, ih _ spares.2, checkpoints_apply now store spares.1]

end Store

namespace Engine

variable {e : Engine} {now : Instant}

/-- A recorded output leaves the checkpoints alone, wherever the run goes then. -/
theorem Records.spares {state : RunState} {payload : Json.Object} {approving : Bool} {plan : Plan}
    (records : e.Records state payload approving plan) : ∀ w ∈ plan.writes, w.Spares := by
  obtain @⟨flow, step, archive, -, -, -, -, archived⟩ := records
  have archives : ∀ w ∈ archive, w.Spares := by
    unfold archiveWrites at archived
    split at archived
    · obtain rfl := Except.ok.inj archived
      exact List.forall_mem_nil _
    · rename_i table schema _
      cases kept : e.store.archiveOutput table schema (payload.erase Refusal.choiceKey) with
      | error fault =>
        rw [kept] at archived
        cases archived
      | ok store =>
        rw [kept] at archived
        obtain rfl := Except.ok.inj archived
        exact List.forall_mem_singleton.2 trivial
  simp only [Plan.travel, List.forall_mem_append]
  refine ⟨⟨⟨archives, ?_⟩, ?_⟩, Journey.spares _⟩
  · cases approving
    · exact List.forall_mem_nil _
    · exact List.forall_mem_singleton.2 trivial
  · exact List.forall_mem_cons.2 ⟨trivial, List.forall_mem_singleton.2 trivial⟩

/-- A plan that saves no checkpoint leaves the checkpoints alone. -/
theorem Does.spares {command : Command} {plan : Plan} (does : e.Does now command plan)
    (other : ∀ name, command ≠ .saveCheckpoint name) : ∀ w ∈ plan.writes, w.Spares := by
  have two {first second : Write} (spares : first.Spares) (spares' : second.Spares) :
      ∀ w ∈ [first, second], w.Spares :=
    List.forall_mem_cons.2 ⟨spares, List.forall_mem_singleton.2 spares'⟩
  cases does with
  | start free loaded =>
    exact List.forall_mem_cons.2 ⟨trivial, List.forall_mem_cons.2 ⟨trivial, Journey.spares _⟩⟩
  | submit live running records => exact records.spares
  | approve live waiting records => exact records.spares
  | skip live active bound filed =>
    exact List.forall_mem_append.2 ⟨two trivial trivial, Journey.spares _⟩
  | @saveCheckpoint name => exact absurd rfl (other name)
  | reject | reset => exact List.forall_mem_singleton.2 trivial
  | retry | goto | back | stop | resume | restoreCheckpoint => exact two trivial trivial

/-- **Only saving a checkpoint touches the checkpoints.**  What it saves is the live state. -/
theorem checkpoints_execute (e : Engine) (now : Instant) (command : Command) :
    (e.execute now command).1.store.checkpoints = e.store.checkpoints ∨
      ∃ name state, command = .saveCheckpoint name ∧ e.current = .ok (some state) ∧
        (e.execute now command).1.store = e.store.saveCheckpoint name state now := by
  rcases execute_cases e now command with ⟨why, same, -⟩ | ⟨plan, does, same⟩
  · rw [same]
    exact .inl rfl
  rw [same]
  by_cases saves : ∃ name, command = .saveCheckpoint name
  · obtain ⟨name, rfl⟩ := saves
    cases does with
    | @saveCheckpoint _ state live => exact .inr ⟨name, state, rfl, live, rfl⟩
  · exact .inl (Store.checkpoints_applyAll now e.store (does.spares (not_exists.1 saves)))

end Engine

end Runbook
