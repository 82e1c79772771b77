import Runbook.Proofs.Run.Archived
import Runbook.Proofs.Store.Checkpoints

/-!
# An approval is an output

Whoever approves a gate hands in its output, and from then on the run has to go the way it would
have gone if there had been no gate.  This module compares the two runs: an approval at a gate, and
the same output at a run that differs in its status only.  They are refused for the same reason, or
they end alike, and all that the approval has more is its own row, right before that of the output.

## Main definitions

* `Store.restatus`, `Engine.restatus`: the same store with another status in the live row

## Main statements

* `LiveRow.read_restatus`, `Engine.current_restatus`: what is read then
* `Engine.planOutput_restatus`: the status does not matter for what is recorded
* `Engine.planOutput_approving`: an approval adds its row and nothing else
* `Engine.execute_approve_eq`: an approval is the output of a run that is not held up

## Design notes

The two runs start from different stores and write different lists, at times of their own.  So
nothing can be said by equality of plans alone.  The live row is the one that was saved last
(`Store.live_applyAll`), and the archives after some writes depend on the archives before them only
(`Store.archives_applyAll_congr`).

The gate may have a row that cannot be read.  Then neither of the two is decided.
-/

namespace Runbook

/-! ## Another status -/

/-- The same store with another status in the live row. -/
def Store.restatus (store : Store) (status : Status) : Store :=
  { store with live := store.live.map fun row => { row with status := status.name } }

/-- **What is read of a row with another status** is the state with that status. -/
theorem LiveRow.read_restatus {row : LiveRow} {old : Status} (named : row.status = old.name)
    (status : Status) :
    LiveRow.read { row with status := status.name } =
      (fun state : RunState => { state with status }) <$> row.read := by
  have reads (s : Status) : readStatus s.name = .ok s := by
    rw [readStatus, Status.parse_name]
  unfold LiveRow.read
  rw [named, reads, reads]
  cases readData (Json.parseObject? row.data) with
  | error fault => rfl
  | ok data =>
    cases readData ((Json.scan? row.loops).bind RunState.loopsOfJson?) with
    | error fault => rfl
    | ok loops =>
      cases readTime "started_at" row.startedAt with
      | error fault => rfl
      | ok startedAt => rfl

namespace Store

/-! ## Archives of stores that differ elsewhere -/

/-- Whether an output finds its place, and which one, is up to the archives. -/
theorem archiveOutput_eq_map {store other : Store} (same : store.archives = other.archives)
    (table : String) (schema : Option Schema) (payload : Json.Object) :
    store.archiveOutput table schema payload =
      (fun after : Store => { store with archives := after.archives }) <$>
        other.archiveOutput table schema payload := by
  unfold archiveOutput ensureArchive archive
  rw [same]
  cases OwnTable.ofName? table with
  | some own => rfl
  | none =>
    dsimp only
    cases other.archives.ensure table schema with
    | error fault => rfl
    | ok made =>
      simp only [Functor.map, Except.map, bind, Except.bind]
      cases made.insert table schema payload with
      | error fault => rfl
      | ok result => rfl

theorem archives_apply_congr {store other : Store} (same : store.archives = other.archives)
    (now later : Instant) (w : Write) :
    (store.apply now w).archives = (other.apply later w).archives := by
  cases w with
  | archive table schema payload =>
    -- the output is archived in both stores, or in neither
    have settled : (∃ fault, other.archiveOutput table schema payload = .error fault) ∨
        ∃ after, other.archiveOutput table schema payload = .ok after := by
      cases other.archiveOutput table schema payload with
      | error fault => exact .inl ⟨fault, rfl⟩
      | ok after => exact .inr ⟨after, rfl⟩
    rcases settled with ⟨fault, refused⟩ | ⟨after, archived⟩
    · have refused' : store.archiveOutput table schema payload = .error fault := by
        rw [archiveOutput_eq_map same, refused]
        rfl
      simp only [apply, refused, refused']
      exact same
    · have archived' : store.archiveOutput table schema payload =
          .ok { store with archives := after.archives } := by
        rw [archiveOutput_eq_map same, archived]
        rfl
      simp only [apply, archived, archived']
  | _ => exact same

/-- **The archives after some writes** depend on the archives before them only. -/
theorem archives_applyAll_congr {store other : Store} (same : store.archives = other.archives)
    (now later : Instant) (writes : List Write) :
    (store.applyAll now writes).archives = (other.applyAll later writes).archives := by
  induction writes generalizing store other with
  | nil => exact same
  | cons w writes ih =>
    rw [applyAll_cons, applyAll_cons]
    exact ih (archives_apply_congr same now later w)

end Store

namespace Engine

variable {e : Engine} {now : Instant}

/-- The engine over the same store, with another status in the live row. -/
def restatus (e : Engine) (status : Status) : Engine := { e with store := e.store.restatus status }

/-- The live state with another status is read, or not, like the one before. -/
theorem current_restatus {row : LiveRow} (here : e.store.live = some row) {old : Status}
    (named : row.status = old.name) (status : Status) :
    (∃ fault, e.current = .error fault ∧ (e.restatus status).current = .error fault) ∨
      ∃ state, e.current = .ok (some state) ∧ state.status = old ∧
        (e.restatus status).current = .ok (some { state with status }) := by
  have there : (e.restatus status).store.live = some { row with status := status.name } := by
    show e.store.live.map _ = _
    rw [here]
    rfl
  unfold current Store.current
  rw [here, there]
  dsimp only
  rw [LiveRow.read_restatus named]
  cases read : row.read with
  | error fault => exact .inl ⟨_, rfl, rfl⟩
  | ok state =>
    refine .inr ⟨state, rfl, Status.name_inj.1 ?_, rfl⟩
    exact (LiveRow.eq_of_read read).2.2.symm.trans named

/-! ## What is recorded -/

/-- **The status does not matter for what is recorded.** -/
theorem planOutput_restatus (e : Engine) (state : RunState) (status : Status)
    (payload : Json.Object) (approving : Bool) :
    (e.restatus status).planOutput { state with status } payload approving =
      e.planOutput state payload approving := by
  have archives (step : String) (payload : Json.Object) :
      (e.restatus status).archiveWrites step payload = e.archiveWrites step payload := by
    have hooks : (e.restatus status).hooks = e.hooks := rfl
    unfold archiveWrites
    rw [hooks]
    cases archive? e.hooks step with
    | none => rfl
    | some declared =>
      obtain ⟨table, schema⟩ := declared
      dsimp only
      rw [@Store.archiveOutput_eq_map (e.restatus status).store e.store rfl]
      cases e.store.archiveOutput table schema payload with
      | error fault => rfl
      | ok after => rfl
  unfold planOutput
  simp only [archives]
  rfl

/-- **An approval adds its row and nothing else.**  The output is refused, whether it comes with an
approval or not, or it is recorded. -/
theorem planOutput_approving (e : Engine) (state : RunState) (payload : Json.Object) :
    (∃ why : Refusal, why.onWay = false ∧
        ∀ approving, e.planOutput state payload approving = .refuse why) ∨
      ∃ flow step archive, e.flowOf state = .ok flow ∧
        flow.step? state.currentStep = some step ∧
        e.archiveWrites step.name (payload.erase Refusal.choiceKey) = .ok archive ∧
        ∀ approving, e.planOutput state payload approving =
          .travel
            (archive ++ approval state step approving ++
              output (withOutput state step (payload.erase Refusal.choiceKey)) step
                (payload.erase Refusal.choiceKey))
            (onward (e.track flow) (withOutput state step (payload.erase Refusal.choiceKey)) step
              (choice? payload)) := by
  unfold planOutput onFlow
  cases bound : e.flowOf state with
  | error why => exact .inl ⟨why, early_of_flowOf bound, fun _ => rfl⟩
  | ok flow =>
    dsimp only
    cases filed : flow.step? state.currentStep with
    | none => exact .inl ⟨_, rfl, fun _ => rfl⟩
    | some step =>
      dsimp only
      cases (choice? payload).filter fun target => !flow.contains target with
      | some target => exact .inl ⟨_, rfl, fun _ => rfl⟩
      | none =>
        dsimp only
        cases complaint? e.hooks step.name (payload.erase Refusal.choiceKey) with
        | some reason => exact .inl ⟨_, rfl, fun _ => rfl⟩
        | none =>
          dsimp only
          cases archived : e.archiveWrites step.name (payload.erase Refusal.choiceKey) with
          | error fault => exact .inl ⟨_, rfl, fun _ => rfl⟩
          | ok archive => exact .inr ⟨flow, step, archive, rfl, filed, archived, fun _ => rfl⟩

/-- An output that is recorded leaves its own notes, then those of the journey, and the state at the
end of it. -/
theorem commit_output {plan : Plan} {state : RunState} {step : Step} {payload : Json.Object}
    {archive : List Write} (archived : e.archiveWrites step.name payload = .ok archive)
    (other : Engine) (moment : Instant) {approving : Bool} {journey : Journey}
    (written : plan.writes = archive ++ approval state step approving ++
      output (withOutput state step payload) step payload ++ journey.writes) :
    (other.commit moment plan).store.notes = Write.notes journey.writes ++
        (outputNotes state.flowName step.name payload approving ++ other.store.notes) ∧
      (other.commit moment plan).store.live =
        some (.ofState (journey.final (withOutput state step payload))) := by
  obtain ⟨keeps, own, last⟩ := ownWrites_spec archived approving
  obtain ⟨noted, left⟩ := commit_travel other moment written keeps last
  rw [own] at noted
  exact ⟨noted, left⟩

/-- The row of an approval makes no difference to the archives. -/
theorem archives_approval {store other : Store} (same : store.archives = other.archives)
    (now later : Instant) (before after : List Write) (state : RunState) (step : Step) :
    (store.applyAll now (before ++ (approval state step true ++ after))).archives =
      (other.applyAll later (before ++ (approval state step false ++ after))).archives := by
  simp only [Store.applyAll_append]
  apply Store.archives_applyAll_congr
  exact Store.archives_applyAll_congr same now later before

/-! ## The two operations -/

/-- Neither of the two touches the checkpoints. -/
theorem checkpoints_approve (e : Engine) (now later : Instant) (payload : Json.Object) :
    (e.execute now (.approve payload)).1.store.checkpoints =
      ((e.restatus .running).execute later (.submit payload)).1.store.checkpoints := by
  have kept := (checkpoints_execute e now (.approve payload)).resolve_right nofun
  have kept' := (checkpoints_execute (e.restatus .running) later (.submit payload)).resolve_right
    nofun
  exact kept.trans kept'.symm

/-- If the live state cannot be read, neither output nor approval is decided. -/
theorem execute_of_fault {fault : RunFault} (live : e.current = .error fault) (now : Instant)
    (payload : Json.Object) :
    e.execute now (.submit payload) = (e, .refused (.fault fault)) ∧
      e.execute now (.approve payload) = (e, .refused (.fault fault)) := by
  simp only [execute, perform, plan, onRun, live, bind, Except.bind]
  exact ⟨rfl, rfl⟩

/-- **An approval is the output of a run that is not held up.**  Take a run that waits at a gate, and
the same run with its status set to running.  Either the approval of the one and the same output of
the other are both refused before anything is written, for the same reason; or both are recorded.
Then they answer the same and leave the same live row, archives and checkpoints behind.  What they
note is the same too, but for the row of the approval, right before that of the output. -/
theorem execute_approve_eq {row : LiveRow} (here : e.store.live = some row)
    (waiting : row.status = Status.waiting.name) (now later : Instant) (payload : Json.Object) :
    (∃ why : Refusal, why.onWay = false ∧
        e.execute now (.approve payload) = (e, .refused why) ∧
        (e.restatus .running).execute later (.submit payload) =
          (e.restatus .running, .refused why)) ∨
      ∃ state flow step taken moves, e.current = .ok (some state) ∧
        e.flowOf state = .ok flow ∧ flow.step? state.currentStep = some step ∧
        taken = ⟨state.flowName, step.name, Action.submit.name,
          some (Json.Object.compress (payload.erase Refusal.choiceKey))⟩ ∧
        (e.execute now (.approve payload)).2 =
          ((e.restatus .running).execute later (.submit payload)).2 ∧
        (e.execute now (.approve payload)).1.store.live =
          ((e.restatus .running).execute later (.submit payload)).1.store.live ∧
        (e.execute now (.approve payload)).1.store.archives =
          ((e.restatus .running).execute later (.submit payload)).1.store.archives ∧
        (e.execute now (.approve payload)).1.store.checkpoints =
          ((e.restatus .running).execute later (.submit payload)).1.store.checkpoints ∧
        (e.execute now (.approve payload)).1.store.notes =
          moves ++ taken :: ⟨state.flowName, step.name, Action.approve.name, none⟩ ::
            e.store.notes ∧
        ((e.restatus .running).execute later (.submit payload)).1.store.notes =
          moves ++ taken :: e.store.notes := by
  rcases current_restatus here waiting .running with
    ⟨fault, live, live'⟩ | ⟨state, live, waits, live'⟩
  · exact .inl ⟨_, rfl, (execute_of_fault live now payload).2,
      (execute_of_fault live' later payload).1⟩
  have approves := execute_of_plan (plan_approve live waits now payload)
  have submits := execute_of_plan (plan_submit live' rfl later payload)
  rw [planOutput_restatus] at submits
  rcases e.planOutput_approving state payload with
    ⟨why, early, refused⟩ | ⟨flow, step, archive, bound, filed, archived, planned⟩
  · rw [refused] at approves submits
    exact .inl ⟨why, early, approves, submits⟩
  let journey := onward (e.track flow)
    (withOutput state step (payload.erase Refusal.choiceKey)) step (choice? payload)
  have written (approving : Bool) : (e.planOutput state payload approving).writes =
      archive ++ approval state step approving ++
        output (withOutput state step (payload.erase Refusal.choiceKey)) step
          (payload.erase Refusal.choiceKey) ++ journey.writes := by
    rw [planned]
    rfl
  obtain ⟨noted, left⟩ := commit_output archived e now (written true)
  obtain ⟨noted', left'⟩ := commit_output archived (e.restatus .running) later (written false)
  have archives : (e.commit now (e.planOutput state payload true)).store.archives =
      ((e.restatus .running).commit later (e.planOutput state payload false)).store.archives := by
    have same : e.store.archives = (e.restatus .running).store.archives := rfl
    show (e.store.applyAll now (e.planOutput state payload true).writes).archives =
      ((e.restatus .running).store.applyAll later (e.planOutput state payload false).writes).archives
    rw [written, written]
    simp only [List.append_assoc]
    exact archives_approval same now later archive _ state step
  refine .inr ⟨state, flow, step, _, Write.notes journey.writes, live, bound, filed, rfl, ?_, ?_,
    ?_, checkpoints_approve e now later payload, ?_, ?_⟩
  · rw [approves, submits, planned, planned]
    rfl
  · rw [approves, submits]
    exact left.trans left'.symm
  · rw [approves, submits]
    exact archives
  · rw [approves]
    exact noted
  · rw [submits]
    exact noted'

/-- A flow that begins with a gate. -/
def gatedFlow : Flow where
  name := "unnamed flow"
  steps := .ofList [
    ("g", { name := "g", transitions := [.plain "c"], config := { kind := .wait, wait := true } }),
    ("c", { name := "c" })]
  entry := "g"

/-- A definition of `gatedFlow`. -/
def gatedText : String := "steps: [\x7bname: g, wait: 1\x7d, c]"

theorem parse?_gatedText : Yaml.parse? gatedText =
    some (.obj [("steps", .arr [.obj [("name", .str "g"), ("wait", .int 1)], .str "c"])]) := by
  decide +kernel

theorem compile_gatedText : compile gatedText = .ok (gatedFlow, [⟨.deadEnd, some "c"⟩]) :=
  Flow.compile_of_document parse?_gatedText (by cbv) (by cbv) rfl

/-- The state of a run of `gatedFlow` that has just begun. -/
def atGate : RunState where
  flowName := "unnamed flow"
  currentStep := "g"
  status := .waiting
  data := []
  loops := .empty
  startedAt := ⟨0⟩

/-- A run of `gatedFlow` that waits at the gate. -/
def heldUp : Engine :=
  (Engine.new .empty {}).after [(⟨0⟩, .start "steps: [\x7bname: g, wait: 1\x7d, c]" [])]

/-- The gate lets the run through to the step after it, as if the run had not been held up. -/
theorem execute_approve_eq_heldUp :
    (heldUp.execute ⟨1⟩ (.approve [])).2 = .arrived "c" ∧
      ((heldUp.restatus .running).execute ⟨2⟩ (.submit [])).2 = .arrived "c" ∧
      ∃ moves taken,
        (heldUp.execute ⟨1⟩ (.approve [])).1.store.notes =
          moves ++ taken :: ⟨"unnamed flow", "g", "approve", none⟩ :: heldUp.store.notes ∧
        ((heldUp.restatus .running).execute ⟨2⟩ (.submit [])).1.store.notes =
          moves ++ taken :: heldUp.store.notes := by
  have begun : heldUp =
      (new .empty {}).commit ⟨0⟩ ((new .empty {}).departure ⟨0⟩ gatedFlow []) :=
    congrArg Prod.fst (execute_start (free_of_empty rfl) _ compile_gatedText [])
  obtain ⟨here, current, loaded, approved⟩ :
      heldUp.store.live = some (.ofState atGate) ∧ heldUp.current = .ok (some atGate) ∧
        heldUp.flow = some gatedFlow ∧
        (heldUp.execute ⟨1⟩ (.approve [])).2 = .arrived "c" := by
    rw [begun]
    cbv
    exact ⟨rfl, trivial⟩
  rcases execute_approve_eq here rfl ⟨1⟩ ⟨2⟩ [] with
    ⟨why, -, refused, -⟩ |
      ⟨state, flow, step, taken, moves, live, bound, filed, -, same, -, -, -, noted, noted'⟩
  · rw [refused] at approved
    cases approved
  · cases live.symm.trans current
    have follows : heldUp.flowOf atGate = .ok gatedFlow := by
      unfold flowOf
      rw [loaded]
      rfl
    cases bound.symm.trans follows
    cases filed
    exact ⟨approved, same.symm.trans approved, moves, taken, noted, noted'⟩

end Engine

end Runbook
