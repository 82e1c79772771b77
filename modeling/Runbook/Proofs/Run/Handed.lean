import Runbook.Proofs.Run.Archived
import Runbook.Proofs.Text.Pieces

/-!
# What is handed over

The step that an output names is for the engine alone.  It is taken out before anyone else looks at
the output: the check of the step's hook, its archive, the live state with all guards that read it,
and the history.  This module shows that each of them gets the output as it would be without the
name, wherever the run then goes.

## Main definitions

* `Command.output`: the two operations that take an output
* `Write.HandsOver`: what a write hands over is the output of a step
* `Journey.Carries`: the data of the run are the same all along a journey
* `Engine.Finds`: a refusal says no more of an output than its check and its archive do
* `Engine.NamesNone`: the values that name no step

## Main statements

* `Track.carries_onward`: on its way a run leaves its data alone
* `Engine.Records.handsOver`: what recording an output writes is that output
* `Engine.execute_handedOver`: an output that names a step is handed over without the name, and one
  that names a blank is as good as one that names none

## Design notes

An output may name a step that the flow does not have, or run into an archive that does not take it.
It is refused then, and so is seen by fewer of those above; the statement is about whatever each of
them gets to see.

Nothing is asked of the flow, which need not be accepted.
-/

namespace Runbook

/-- The two operations that take an output. -/
def Command.output (approving : Bool) (payload : Json.Object) : Command :=
  if approving then .approve payload else .submit payload

/-- What a write hands over is the output of a step: the live state has it in its data, a row that
notes an output has its text, and an archive gets it as it is. -/
def Write.HandsOver (before : RunState) (step : String) (payload : Json.Object) : Write → Prop
  | .live state => state.data = before.data.insert step (.obj payload)
  | .record _ _ action data => action = .submit → data = some payload.compress
  | .archive _ _ handed => handed = payload
  | .checkpoint _ _ | .clear => False

/-! ## On the way -/

/-- All along the journey the data of the run are these. -/
def Journey.Carries (journey : Journey) (data : Json.Object) : Prop :=
  ∀ hop ∈ journey.hops, hop.state.data = data

namespace Journey

variable {data : Json.Object} {journey : Journey}

theorem carries_stay (outcome : Outcome) : (stay outcome).Carries data := List.forall_mem_nil _

theorem Carries.after {hop : Hop} (same : hop.state.data = data) (rest : journey.Carries data) :
    (after hop journey).Carries data :=
  List.forall_mem_cons.2 ⟨same, rest⟩

/-- What is written on the way hands over no other output. -/
theorem Carries.handsOver {before : RunState} {step : String} {payload : Json.Object}
    (carries : journey.Carries (before.data.insert step (.obj payload))) :
    ∀ w ∈ journey.writes, w.HandsOver before step payload := by
  intro w member
  obtain ⟨hop, among, written⟩ := List.mem_flatMap.1 member
  have saved : (Write.live hop.state).HandsOver before step payload := carries hop among
  have noted {flow name : String} {action : Action} {text : Option String}
      (other : action ≠ .submit) :
      (Write.record flow name action text).HandsOver before step payload :=
    fun same => absurd same other
  cases hop with
  | pass header pass state =>
    cases pass with
    | skip => cases written
    | enter | next | complete => exact List.mem_singleton.1 written ▸ saved
  | arrive name recorded state =>
    rcases List.mem_cons.1 written with rfl | written
    · exact saved
    · split at written
      · exact List.mem_singleton.1 written ▸ noted (by decide)
      · cases written
  | terminate name reason state =>
    rcases List.mem_cons.1 written with rfl | written
    · exact saved
    · exact List.mem_singleton.1 written ▸ noted (by decide)
  | finish state => exact List.mem_singleton.1 written ▸ saved

end Journey

namespace Track

variable {track : Track} {state : RunState} {go : RunState → String → Journey} {data : Json.Object}

theorem carries_passThrough (same : state.data = data)
    (onward : ∀ next target, next.data = data → (go next target).Carries data) (header : Step) :
    (passThrough go state header).Carries data := by
  have ends (ending : LoopEnding) {next : RunState} (same : next.data = data) :
      (endAt header ending next).Carries data :=
    .after same (Journey.carries_stay _)
  unfold passThrough
  split
  · exact ends _ same
  · refine .after same ?_
    split
    · exact onward _ _ same
    · split
      · exact onward _ _ same
      · exact ends _ same

theorem carries_leave (same : state.data = data)
    (onward : ∀ next target, next.data = data → (go next target).Carries data) (step : Step) :
    (track.leave go state step).Carries data := by
  unfold leave
  split
  · exact onward _ _ same
  · exact Journey.carries_stay _
  · exact .after same (Journey.carries_stay _)
  · exact Journey.carries_stay _

theorem carries_arrive (track : Track) (budget : Nat) (state : RunState) (same : state.data = data)
    (target : String) (recorded : Bool) :
    (track.arrive budget state target recorded).Carries data := by
  induction budget generalizing state target recorded with
  | zero => exact Journey.carries_stay _
  | succ budget ih =>
    have onward (next : RunState) (target : String) (same : next.data = data) :
        (track.arrive budget next target true).Carries data := ih next same target true
    unfold arrive
    split
    · exact Journey.carries_stay _
    · rename_i step _
      split
      · exact carries_passThrough same onward step
      split
      · exact .after same (Journey.carries_stay _)
      · have here : (atStep step state).data = data := same
        refine .after here ?_
        split
        · exact carries_leave here onward step
        · exact Journey.carries_stay _

/-- **On its way a run leaves its data alone**, wherever its output takes it. -/
theorem carries_onward (track : Track) (state : RunState) (step : Step) (choice : Option String) :
    (Engine.onward track state step choice).Carries state.data := by
  have onward (budget : Nat) (next : RunState) (target : String) (same : next.data = state.data) :
      (track.arrive budget next target true).Carries state.data :=
    track.carries_arrive budget next same target true
  cases choice with
  | some target => exact onward _ state target rfl
  | none =>
    show (track.follow state step).Carries state.data
    unfold follow
    split
    · exact carries_passThrough rfl (onward _) step
    · exact carries_leave rfl (onward _) step

end Track

namespace Engine

variable {e : Engine} {now : Instant} {payload : Json.Object} {approving : Bool} {plan : Plan}
  {state : RunState}

/-! ## What is decided about an output -/

/-- The refusal says no more of an output than the check and the archive of a step do. -/
def Finds (e : Engine) (payload : Json.Object) : Refusal → Prop
  | .complaint step reason => complaint? e.hooks step payload = some reason
  | .notArchived fault => ∃ step, e.archiveWrites step payload = .error fault
  | _ => True

theorem finds_of_flowOf {why : Refusal} (bound : e.flowOf state = .error why) :
    e.Finds payload why := by
  unfold flowOf at bound
  split at bound
  · obtain rfl := Except.error.inj bound
    trivial
  · split at bound
    · cases bound
    · obtain rfl := Except.error.inj bound
      trivial

/-- An output is refused with no more than what its check and its archive say, or recorded. -/
theorem planOutput_finds (e : Engine) (state : RunState) (payload : Json.Object)
    (approving : Bool) :
    (∃ why, e.planOutput state payload approving = .refuse why ∧
        e.Finds (payload.erase Refusal.choiceKey) why) ∨
      e.Records state payload approving (e.planOutput state payload approving) := by
  unfold planOutput onFlow
  cases bound : e.flowOf state with
  | error why => exact .inl ⟨why, rfl, finds_of_flowOf bound⟩
  | ok flow =>
    dsimp only
    cases filed : flow.step? state.currentStep with
    | none => exact .inl ⟨_, rfl, trivial⟩
    | some step =>
      dsimp only
      split
      · exact .inl ⟨_, rfl, trivial⟩
      · rename_i known
        cases passed : complaint? e.hooks step.name (payload.erase Refusal.choiceKey) with
        | some reason => exact .inl ⟨_, rfl, passed⟩
        | none =>
          dsimp only
          cases archived : e.archiveWrites step.name (payload.erase Refusal.choiceKey) with
          | error fault => exact .inl ⟨_, rfl, step.name, archived⟩
          | ok archive =>
            refine .inr (.intro bound filed (fun target named => ?_) passed archived)
            simpa [named, Option.filter] using known

/-- What is planned for an output depends on the step that it names and on what it is without. -/
theorem planOutput_congr (e : Engine) (state : RunState) {payload payload' : Json.Object}
    (choice : choice? payload = choice? payload')
    (rest : payload.erase Refusal.choiceKey = payload'.erase Refusal.choiceKey)
    (approving : Bool) :
    e.planOutput state payload approving = e.planOutput state payload' approving := by
  unfold planOutput
  rw [choice, rest]

/-- The plan for an output, by the status of the run. -/
def planTaken (e : Engine) (approving : Bool) (payload : Json.Object) (state : RunState) : Plan :=
  if approving then e.planApprove payload state else e.planSubmit payload state

theorem plan_output (e : Engine) (now : Instant) (approving : Bool) (payload : Json.Object) :
    e.plan now (.output approving payload) =
      e.onRun fun state => pure (e.planTaken approving payload state) := by
  cases approving <;> rfl

/-- The status may be in the way of an output, which has nothing to do with what it says. -/
theorem planTaken_cases (e : Engine) (approving : Bool) (state : RunState) :
    (∃ why, ∀ payload, e.planTaken approving payload state = .refuse why ∧ e.Finds payload why) ∨
      ∀ payload, e.planTaken approving payload state = e.planOutput state payload approving := by
  cases approving with
  | true =>
    by_cases waiting : state.status = .waiting
    · exact .inr fun payload => if_pos waiting
    · exact .inl ⟨.notGated state.currentStep state.status, fun payload =>
        ⟨if_neg waiting, trivial⟩⟩
  | false =>
    have plan (payload : Json.Object) :
        e.planTaken false payload state = e.planSubmit payload state := rfl
    simp only [plan, planSubmit]
    cases state.status with
    | running => exact .inr fun _ => rfl
    | waiting | stopped | done => exact .inl ⟨_, fun _ => ⟨rfl, trivial⟩⟩

/-- So an output is refused whatever it says, or it is decided on the run where it stands. -/
theorem execute_output_cases (e : Engine) (now : Instant) (approving : Bool) :
    (∃ why, ∀ payload, e.execute now (.output approving payload) = (e, .refused why) ∧
        e.Finds payload why) ∨
      ∃ state, e.current = .ok (some state) ∧
        ∀ payload, e.plan now (.output approving payload) =
          .ok (e.planOutput state payload approving) := by
  cases live : e.current with
  | error fault =>
    refine .inl ⟨.fault fault, fun payload => ⟨?_, trivial⟩⟩
    simp only [execute, perform, plan_output, onRun, live, bind, Except.bind]
    rfl
  | ok previous =>
    cases previous with
    | none =>
      refine .inl ⟨.noRun, fun payload => ⟨execute_of_refuse ?_, trivial⟩⟩
      simp only [plan_output, onRun, live, bind, Except.bind]
      rfl
    | some state =>
      have decided (payload : Json.Object) : e.plan now (.output approving payload) =
          .ok (e.planTaken approving payload state) :=
        (e.plan_output now approving payload).trans (onRun_of_current live _)
      rcases e.planTaken_cases approving state with ⟨why, refuses⟩ | records
      · refine .inl ⟨why, fun payload => ⟨execute_of_refuse ?_, (refuses payload).2⟩⟩
        rw [decided, (refuses payload).1]
      · exact .inr ⟨state, rfl, fun payload => by rw [decided, records]⟩

/-! ## What is recorded of an output -/

/-- What is written to archive an output is that output. -/
theorem handsOver_of_archiveWrites {step : String} {archive : List Write}
    (archived : e.archiveWrites step payload = .ok archive) :
    ∀ w ∈ archive, w.HandsOver state step payload := by
  unfold archiveWrites at archived
  split at archived
  · obtain rfl := Except.ok.inj archived
    exact List.forall_mem_nil _
  · rename_i table schema _
    cases kept : e.store.archiveOutput table schema payload with
    | error fault =>
      rw [kept] at archived
      cases archived
    | ok store =>
      rw [kept] at archived
      obtain rfl := Except.ok.inj archived
      exact List.forall_mem_singleton.2 rfl

/-- **What recording an output writes is that output**, without the step that it names: it archives
the output, saves it and notes it, and whatever is written after that hands over the same. -/
theorem Records.handsOver (records : e.Records state payload approving plan) :
    ∃ flow step archive more, e.flow = some flow ∧ flow.step? state.currentStep = some step ∧
      complaint? e.hooks step.name (payload.erase Refusal.choiceKey) = none ∧
      e.archiveWrites step.name (payload.erase Refusal.choiceKey) = .ok archive ∧
      plan.writes = archive ++ more ∧ (∀ w ∈ more, w.Stays) ∧
      (∀ w ∈ plan.writes, w.HandsOver state step.name (payload.erase Refusal.choiceKey)) ∧
      (∃ next, .live next ∈ plan.writes) ∧
      ∃ flow, .record flow step.name .submit
        (some (Json.Object.compress (payload.erase Refusal.choiceKey))) ∈ plan.writes := by
  obtain @⟨flow, step, archive, bound, filed, chosen, passed, archived⟩ := records
  let next := withOutput state step (payload.erase Refusal.choiceKey)
  let journey := onward (e.track flow) next step (choice? payload)
  let own := output next step (payload.erase Refusal.choiceKey)
  have opens : ∀ w ∈ approval state step approving,
      w.Stays ∧ w.HandsOver state step.name (payload.erase Refusal.choiceKey) := by
    cases approving with
    | false => exact List.forall_mem_nil _
    | true => exact List.forall_mem_singleton.2 ⟨trivial, nofun⟩
  have owns : ∀ w ∈ own,
      w.Stays ∧ w.HandsOver state step.name (payload.erase Refusal.choiceKey) :=
    List.forall_mem_cons.2 ⟨⟨trivial, rfl⟩, List.forall_mem_singleton.2 ⟨trivial, fun _ => rfl⟩⟩
  have travels := ((e.track flow).carries_onward next step (choice? payload)).handsOver
  have written : (Plan.travel (archive ++ approval state step approving ++ own) journey).writes =
      archive ++ (approval state step approving ++ (own ++ journey.writes)) := by
    simp only [Plan.travel, List.append_assoc]
  have among {w : Write} (member : w ∈ own) :
      w ∈ archive ++ (approval state step approving ++ (own ++ journey.writes)) :=
    List.mem_append_right _ (List.mem_append_right _ (List.mem_append_left _ member))
  refine ⟨flow, step, archive, _, flow_of_flowOf bound, filed, passed, archived, written, ?_, ?_,
    ⟨next, ?_⟩, next.flowName, ?_⟩
  · simp only [List.forall_mem_append]
    exact ⟨fun w member => (opens w member).1, fun w member => (owns w member).1,
      fun w member => (journey.bare w member).stays⟩
  · rw [written]
    simp only [List.forall_mem_append]
    exact ⟨handsOver_of_archiveWrites archived, fun w member => (opens w member).2,
      fun w member => (owns w member).2, travels⟩
  · rw [written]
    exact among List.mem_cons_self
  · rw [written]
    exact among (List.mem_cons_of_mem _ List.mem_cons_self)

end Engine

/-! ## What is left of an output in the store -/

section HandsOver

variable {before : RunState} {step : String} {payload : Json.Object} {writes : List Write}

theorem Write.keep_of_handsOver (hands : ∀ w ∈ writes, w.HandsOver before step payload) :
    Write.Keep writes := by
  rintro w member rfl
  exact hands _ member

/-- If one of the writes saves a state, the live state is one that has the output. -/
theorem Store.live_of_handsOver (now : Instant) (store : Store)
    (hands : ∀ w ∈ writes, w.HandsOver before step payload) {saved : RunState}
    (saves : .live saved ∈ writes) :
    ∃ next, (store.applyAll now writes).live = some (.ofState next) ∧
      next.data = before.data.insert step (.obj payload) := by
  have among : saved ∈ writes.filterMap Write.saved? := List.mem_filterMap.2 ⟨_, saves, rfl⟩
  have last := List.getLast?_eq_some_getLast (List.ne_nil_of_mem among)
  generalize List.getLast _ (List.ne_nil_of_mem among) = next at last
  obtain ⟨w, member, same⟩ := List.mem_filterMap.1 (List.mem_of_getLast? last)
  refine ⟨next, ?_, ?_⟩
  · rw [live_applyAll now store (Write.keep_of_handsOver hands), last]
    rfl
  · cases w with
    | live state => exact Option.some.inj same ▸ hands _ member
    | _ => cases same

/-- Of the rows that the writes put in front, those about an output have its text. -/
theorem Store.history_of_handsOver (now : Instant) (store : Store)
    (hands : ∀ w ∈ writes, w.HandsOver before step payload) {flow : String} {text : Option String}
    (notes : .record flow step .submit text ∈ writes) :
    ∃ rows, (store.applyAll now writes).history = rows ++ store.history ∧
      (∃ row ∈ rows, row.step = step ∧ row.action = Action.submit.name) ∧
      ∀ row ∈ rows, row.action = Action.submit.name → row.data = some payload.compress := by
  obtain ⟨rows, history, same, -⟩ :=
    store.history_applyAll now (Write.keep_of_handsOver hands)
  refine ⟨rows, history, ?_, fun row member submits => ?_⟩
  · have noted : (⟨flow, step, Action.submit.name, text⟩ : Note) ∈ rows.map HistoryRow.note := by
      rw [same]
      exact List.mem_reverse.2 (List.mem_filterMap.2 ⟨_, notes, rfl⟩)
    obtain ⟨row, member, same⟩ := List.mem_map.1 noted
    exact ⟨row, member, congrArg Note.step same, congrArg Note.action same⟩
  · have noted : row.note ∈ Write.notes writes := same ▸ List.mem_map_of_mem member
    obtain ⟨w, among, same⟩ := List.mem_filterMap.1 (List.mem_reverse.1 noted)
    cases w with
    | record name place action data =>
      have same := Option.some.inj same
      have submit : action.name = Action.submit.name :=
        (congrArg Note.action same).trans submits
      exact (congrArg Note.data same).symm.trans (hands _ among (Action.name_inj.1 submit))
    | _ => cases same

end HandsOver

namespace Engine

/-! ## The two operations -/

/-- The value names no step: it is null, or a text of blanks only. -/
def NamesNone (value : Json) : Prop :=
  value = .null ∨ ∃ text : String, value = .str text ∧ ∀ c ∈ text.toList, Text.isBlank c = true

/-- What names no step is no choice. -/
theorem choice?_insert_of_namesNone {value : Json} (blank : NamesNone value)
    (payload : Json.Object) : choice? (payload.insert Refusal.choiceKey value) = none := by
  unfold choice?
  rw [Fields.get?_insert, if_pos rfl]
  rcases blank with rfl | ⟨text, rfl, blanks⟩
  · rfl
  · simp [Text.trim_eq_nil blanks]

/-- **An output that names a step is handed over without the name.**  It is refused, and then the
hook or the archive, if they are what it is refused for, have seen nothing but the output; or it is
recorded, and then the check has passed the output, the archives have taken it, the data have got
it, and the history has its text, all without the name.  An output that names a blank is as good as
one that names none. -/
theorem execute_handedOver (e : Engine) (now : Instant) {payload : Json.Object}
    (unnamed : payload.get? Refusal.choiceKey = none) (value : Json) (approving : Bool) :
    let result := e.execute now (.output approving (payload.insert Refusal.choiceKey value))
    ((∃ why, result = (e, .refused why) ∧ e.Finds payload why) ∨
      ∃ state flow step archive writes next rows, e.current = .ok (some state) ∧
        e.flow = some flow ∧ flow.step? state.currentStep = some step ∧
        complaint? e.hooks step.name payload = none ∧
        e.archiveWrites step.name payload = .ok archive ∧
        result.1.store = e.store.applyAll now writes ∧
        (∀ w ∈ writes, w.HandsOver state step.name payload) ∧
        result.1.store.archives = (e.store.applyAll now archive).archives ∧
        result.1.store.live = some (.ofState next) ∧
        next.data = state.data.insert step.name (.obj payload) ∧
        result.1.store.history = rows ++ e.store.history ∧
        (∃ row ∈ rows, row.step = step.name ∧ row.action = Action.submit.name) ∧
        ∀ row ∈ rows, row.action = Action.submit.name → row.data = some payload.compress) ∧
    (NamesNone value → result = e.execute now (.output approving payload)) := by
  intro result
  have taken : (payload.insert Refusal.choiceKey value).erase Refusal.choiceKey = payload :=
    (Fields.erase_insert _ _ _).trans (Fields.erase_of_get?_eq_none unnamed)
  rcases e.execute_output_cases now approving with ⟨why, refused⟩ | ⟨state, live, planned⟩
  · exact ⟨.inl ⟨why, (refused _).1, (refused payload).2⟩,
      fun _ => (refused _).1.trans (refused payload).1.symm⟩
  refine ⟨?_, fun blank => ?_⟩
  · rcases e.planOutput_finds state (payload.insert Refusal.choiceKey value) approving with
      ⟨why, refuses, finds⟩ | records
    · rw [taken] at finds
      exact .inl ⟨why, execute_of_refuse ((planned _).trans (congrArg Except.ok refuses)), finds⟩
    · obtain ⟨flow, step, archive, more, loaded, filed, passed, archived, written, stays, hands,
        ⟨saved, saves⟩, name, notes⟩ := records.handsOver
      rw [taken] at passed archived hands
      have store : result.1.store = e.store.applyAll now
          (e.planOutput state (payload.insert Refusal.choiceKey value) approving).writes :=
        congrArg (fun result => result.1.store) (execute_of_plan (planned _))
      obtain ⟨next, kept, data⟩ := Store.live_of_handsOver now e.store hands saves
      obtain ⟨rows, history, submit, texts⟩ := Store.history_of_handsOver now e.store hands notes
      refine .inr ⟨state, flow, step, archive, _, next, rows, live, loaded, filed, passed, archived,
        store, hands, ?_, store ▸ kept, data, store ▸ history, submit, texts⟩
      rw [store, written, Store.applyAll_append, Store.archives_applyAll _ _ stays]
  · have choice : choice? (payload.insert Refusal.choiceKey value) = choice? payload := by
      rw [choice?_insert_of_namesNone blank, choice?, unnamed]
    have rest : (payload.insert Refusal.choiceKey value).erase Refusal.choiceKey =
        payload.erase Refusal.choiceKey := Fields.erase_insert _ _ _
    have same := e.planOutput_congr state choice rest approving
    show e.execute now _ = e.execute now _
    rw [execute_of_plan (planned _), execute_of_plan (planned payload), same]

/-- An output that goes to the last step of `Flow.askingFlow` at once is kept without saying so, and
one that goes to a blank goes where it would go anyway. -/
theorem execute_handedOver_asking :
    (∃ next, (asking.execute ⟨1⟩ (.submit [("_goto", .str "c"), ("n", .int 2)])).1.store.live =
        some (.ofState next) ∧ next.data = [("a", .obj [("n", .int 2)])]) ∧
      asking.execute ⟨1⟩ (.submit [("_goto", .str " "), ("n", .int 2)]) =
        asking.execute ⟨1⟩ (.submit [("n", .int 2)]) := by
  have unnamed : Fields.get? [("n", Json.int 2)] Refusal.choiceKey = none := by decide
  have blank : NamesNone (.str " ") := .inr ⟨" ", rfl, by simp [Text.isBlank]⟩
  have named (target : String) :
      Command.output false (Fields.insert [("n", .int 2)] Refusal.choiceKey (.str target)) =
        .submit [("_goto", .str target), ("n", .int 2)] := rfl
  have live : asking.current = .ok (some (.initial "unnamed flow" "a" [] ⟨0⟩)) := by cbv
  have arrived : (asking.execute ⟨1⟩ (.submit [("_goto", .str "c"), ("n", .int 2)])).2.succeeded =
      true := by
    decide +kernel
  have bound : asking.flow = some Flow.askingFlow := rfl
  have here : Flow.askingFlow.step? "a" = some { name := "a", transitions := [.plain "b"] } := by
    cbv
  obtain ⟨handed, -⟩ := execute_handedOver asking ⟨1⟩ unnamed (.str "c") false
  obtain ⟨-, same⟩ := execute_handedOver asking ⟨1⟩ unnamed (.str " ") false
  rw [named] at handed same
  refine ⟨?_, same blank⟩
  rcases handed with ⟨why, refused, -⟩ | ⟨state, flow, step, archive, writes, next, rows, stands,
    loaded, filed, -, -, -, -, -, kept, data, -⟩
  · rw [refused] at arrived
    cases arrived
  · obtain rfl := Option.some.inj (Except.ok.inj (live.symm.trans stands))
    obtain rfl := Option.some.inj (bound.symm.trans loaded)
    obtain rfl := Option.some.inj (here.symm.trans filed)
    exact ⟨next, kept, data⟩

end Engine

end Runbook
