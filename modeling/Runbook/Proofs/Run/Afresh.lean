import Runbook.Proofs.Run.Loops
import Runbook.Proofs.Run.Travel

/-!
# Where loops begin afresh

A loop has a counter from the pass that enters its body to the pass that completes it, and a pass
looks at nothing else to tell whether the loop is to begin or to go on.  So a loop begins afresh
wherever its counter is gone, and the counter is gone wherever the run came out of the body the way
it came in, through the header.  A run that is put out of a body by hand takes the counter along,
and the next pass goes on with it.

## Main definitions

* `Hop.reached`: the state after some hops
* `Hop.tally`: the counter of a loop after some hops
* `Trip`: a journey and the state from which it sets out
* `Step.Begins`: a pass begins a loop with the list that it runs over at that moment
* `Engine.SetsOut`: an operation lets the run set out on a trip
* `Engine.Orderly`: the run left bodies through their headers only

## Main statements

* `Track.Travels.pass_eq`: a pass is decided by the state that it meets
* `Track.Travels.get?_reached`: the counters on a journey are those that its passes leave
* `Track.Travels.counter_reached`: until the first pass the counter is the one the run set out with
* `Engine.Does.loops_or_setsOut`: apart from trips, operations leave the counters as they are
* `Engine.begins_iff`: a run begins a loop exactly if no counter of it is left, and outside a body
  that was never left by hand none is
* `Engine.goes_on_jumpOut`: put out of the body by hand, it does not begin the loop

## Design notes

What holds of the first pass on a journey is all that is needed: for the passes after it, the last
pass before takes the place of the operation.
-/

namespace Runbook

/-! ## Passes on a journey -/

namespace Hop

/-- The header that the hop passes through. -/
def header? : Hop → Option String
  | pass header _ _ => some header
  | _ => none

/-- The state after some hops from a state. -/
def reached (state : RunState) (hops : List Hop) : RunState :=
  (hops.getLast?.map Hop.state).getD state

@[simp] theorem reached_nil (state : RunState) : reached state [] = state := rfl

@[simp] theorem reached_cons (state : RunState) (hop : Hop) (hops : List Hop) :
    reached state (hop :: hops) = reached hop.state hops := by
  rw [reached, List.getLast?_cons, reached]
  cases hops.getLast? <;> rfl

end Hop

/-- Another hop than a pass comes before it. -/
theorem Hop.before_pass {hop : Hop} (other : hop.header? = none) {hops before rest : List Hop}
    {header : String} {pass : Pass} {after : RunState}
    (comes : hop :: hops = before ++ .pass header pass after :: rest) :
    ∃ before', before = hop :: before' ∧ hops = before' ++ .pass header pass after :: rest := by
  rcases List.cons_eq_append_iff.1 comes with ⟨-, same⟩ | later
  · rw [← (List.cons.inj same).1] at other
    cases other
  · exact later

namespace Track

variable {track : Track} {state after : RunState} {journey : Journey} {before rest : List Hop}
  {header : String} {pass : Pass}

/-- **A pass is decided by the state that it meets**, the one after the hops before it. -/
theorem Travels.pass_eq (travels : track.Travels state journey)
    (comes : journey.hops = before ++ .pass header pass after :: rest) :
    ∃ step, track.flow.step? header = some step ∧ step.name = header ∧
      pass = step.pass (Hop.reached state before) ∧
      after = pass.apply header (Hop.reached state before) := by
  induction travels generalizing before with
  | giveUp | stuck | undecided => exact absurd comes.symm (by simp)
  | finish | terminate | stand =>
    obtain ⟨before', -, none⟩ := Hop.before_pass rfl comes
    exact absurd none.symm (by simp)
  | advance filed plain lasts advances first onward ih =>
    obtain ⟨before', rfl, later⟩ := Hop.before_pass rfl comes
    rw [Hop.reached_cons]
    exact ih later
  | @pass state step journey filed isHeader onward ih =>
    rcases List.cons_eq_append_iff.1 comes with ⟨rfl, same⟩ | ⟨before', rfl, later⟩
    · obtain ⟨rfl, rfl, rfl⟩ := Hop.pass.inj (List.cons.inj same).1
      exact ⟨step, filed, rfl, rfl, rfl⟩
    · rw [Hop.reached_cons]
      exact ih later

/-- A journey leaves the run in the state after its last hop. -/
theorem Travels.final_eq (travels : track.Travels state journey) :
    journey.final state = Hop.reached state journey.hops := by
  induction travels with
  | giveUp | stuck | undecided | finish | terminate | stand => rfl
  | advance filed plain lasts advances first onward ih =>
    rw [Journey.final_after, Journey.hops_after, Hop.reached_cons]
    exact ih
  | pass filed header onward ih =>
    rw [Journey.final_after, Hop.saved?_pass, Journey.hops_after, Hop.reached_cons]
    exact ih

end Track

/-- A pass through another header leaves the counter of a loop alone. -/
theorem Pass.get?_apply (pass : Pass) {header other : String} (apart : header ≠ other)
    (state : RunState) : (pass.apply header state).loops.get? other = state.loops.get? other := by
  cases pass with
  | enter count => exact (Dict.get?_insert _ _ _ _).trans (if_neg apart)
  | next counter => exact (Dict.get?_insert _ _ _ _).trans (if_neg apart)
  | complete => exact (Dict.get?_erase _ _ _).trans (if_neg apart)
  | skip => rfl

/-- The counter that a pass leaves of its loop. -/
def Pass.counter : Pass → Option LoopCounter
  | enter count => some ⟨0, count⟩
  | next counter => some counter
  | complete | skip => none

/-- Of the loop of its header a pass leaves its counter. -/
theorem Step.get?_apply_pass (header : Step) (found : RunState) :
    ((header.pass found).apply header.name found).loops.get? header.name =
      (header.pass found).counter := by
  unfold pass
  cases known : found.loops.get? header.name with
  | none =>
    dsimp only
    split
    · exact known
    · exact Dict.get?_insert_self _ _ _
  | some counter =>
    dsimp only
    split
    · exact Dict.get?_insert_self _ _ _
    · exact (Dict.get?_erase _ _ _).trans (if_pos rfl)

namespace Hop

/-- The counter of a loop after a hop, from the one before it. -/
def count (header : String) (counter : Option LoopCounter) : Hop → Option LoopCounter
  | pass name made _ => if name = header then made.counter else counter
  | _ => counter

/-- **The counter of a loop after some hops**: what the last pass through its header left, if there
was one. -/
def tally (header : String) (counter : Option LoopCounter) (hops : List Hop) : Option LoopCounter :=
  hops.foldl (count header) counter

@[simp] theorem tally_nil (header : String) (counter : Option LoopCounter) :
    tally header counter [] = counter := rfl

@[simp] theorem tally_cons (header : String) (counter : Option LoopCounter) (hop : Hop)
    (hops : List Hop) :
    tally header counter (hop :: hops) = tally header (count header counter hop) hops := rfl

theorem tally_append (header : String) (counter : Option LoopCounter) (hops more : List Hop) :
    tally header counter (hops ++ more) = tally header (tally header counter hops) more :=
  List.foldl_append

/-- A hop that is no pass through the header leaves the counter alone. -/
theorem count_of_ne {header : String} {hop : Hop} (other : hop.header? ≠ some header)
    (counter : Option LoopCounter) : count header counter hop = counter := by
  cases hop with
  | pass name made after => exact if_neg fun same => other (congrArg some same)
  | _ => rfl

/-- So do any number of them. -/
theorem tally_of_ne {header : String} {hops : List Hop}
    (others : ∀ hop ∈ hops, hop.header? ≠ some header) (counter : Option LoopCounter) :
    tally header counter hops = counter := by
  induction hops with
  | nil => rfl
  | cons hop hops ih =>
    rw [List.forall_mem_cons] at others
    rw [tally_cons, count_of_ne others.1, ih others.2]

end Hop

/-- After a pass through any header a loop has the counter that is counted. -/
theorem Step.get?_apply (step : Step) (found : RunState) (header : String) :
    ((step.pass found).apply step.name found).loops.get? header =
      Hop.count header (found.loops.get? header)
        (.pass step.name (step.pass found) ((step.pass found).apply step.name found)) := by
  rw [Hop.count]
  split
  · rename_i same
    rw [← same]
    exact step.get?_apply_pass found
  · rename_i apart
    exact Pass.get?_apply _ apart found

/-- **The counters on a journey are those that its passes leave.** -/
theorem Track.Travels.get?_reached {track : Track} {state : RunState} {journey : Journey}
    (travels : track.Travels state journey) {before rest : List Hop}
    (parts : journey.hops = before ++ rest) (header : String) :
    (Hop.reached state before).loops.get? header =
      Hop.tally header (state.loops.get? header) before := by
  induction travels generalizing before with
  | giveUp | stuck | undecided =>
    obtain ⟨rfl, -⟩ := List.append_eq_nil_iff.1 parts.symm
    rfl
  | finish | terminate | stand =>
    rcases List.cons_eq_append_iff.1 parts with ⟨rfl, -⟩ | ⟨before', rfl, later⟩
    · rfl
    · obtain ⟨rfl, -⟩ := List.append_eq_nil_iff.1 later.symm
      rfl
  | advance filed plain lasts advances arrival onward ih =>
    rcases List.cons_eq_append_iff.1 parts with ⟨rfl, -⟩ | ⟨before', rfl, later⟩
    · rfl
    · rw [Hop.reached_cons]
      exact ih later
  | @pass state step journey filed isHeader onward ih =>
    rcases List.cons_eq_append_iff.1 parts with ⟨rfl, -⟩ | ⟨before', rfl, later⟩
    · rfl
    · rw [Hop.reached_cons, Hop.tally_cons, ← Step.get?_apply]
      exact ih later

/-- **Until the first pass the counter is the one that the run set out with.** -/
theorem Track.Travels.counter_reached {track : Track} {state : RunState} {journey : Journey}
    (travels : track.Travels state journey) {before rest : List Hop}
    (parts : journey.hops = before ++ rest) {header : String}
    (first : ∀ hop ∈ before, hop.header? ≠ some header) :
    (Hop.reached state before).loops.get? header = state.loops.get? header := by
  rw [travels.get?_reached parts, Hop.tally_of_ne first]

namespace Step

/-- **The pass begins the loop**, with the list that its header has at that moment: it enters the
body for the first item, or passes by if that is no list or an empty one. -/
def Begins (header : Step) (found : RunState) (pass : Pass) (after : RunState) : Prop :=
  (∃ items, Guard.evaluate (header.config.iterate.getD "").toList found.context = .arr items ∧
      items ≠ [] ∧ pass = .enter items.length ∧
      after.loops.get? header.name = some ⟨0, items.length⟩) ∨
    pass = .skip ∧ after = found ∧
      ∀ items, Guard.evaluate (header.config.iterate.getD "").toList found.context = .arr items →
        items = []

/-- **A loop begins exactly if it has no counter.** -/
theorem begins_pass_iff {header : Step} {found : RunState} :
    header.Begins found (header.pass found) ((header.pass found).apply header.name found) ↔
      found.loops.get? header.name = none := by
  unfold pass
  cases found.loops.get? header.name with
  | none =>
    refine iff_of_true ?_ rfl
    dsimp only
    unfold items Begins
    cases Guard.evaluate (header.config.iterate.getD "").toList found.context with
    | arr items =>
      cases items with
      | nil => exact .inr ⟨rfl, rfl, fun items same => (Json.arr.inj same).symm⟩
      | cons item items =>
        refine .inl ⟨item :: items, rfl, List.cons_ne_nil _ _, rfl, ?_⟩
        exact Dict.get?_insert_self _ _ _
    | _ => exact .inr ⟨rfl, rfl, fun items same => by cases same⟩
  | some counter =>
    -- a pass that finds a counter goes on with the loop or completes it
    refine iff_of_false ?_ (Option.some_ne_none counter)
    dsimp only
    split
    · rintro (⟨items, -, -, same, -⟩ | ⟨same, -⟩) <;> cases same
    · rintro (⟨items, -, -, same, -⟩ | ⟨same, -⟩) <;> cases same

end Step

/-! ## Journeys of operations -/

/-- A journey, what it goes by, and the state from which it sets out. -/
structure Trip where
  track : Track
  start : RunState
  journey : Journey

namespace Trip

/-- The trip of a run that begins. -/
def ofStart (e : Engine) (now : Instant) (flow : Flow) (data : Json.Object) : Trip where
  track := e.track flow
  start := .initial flow.name flow.entry data now
  journey := (e.track flow).enter (.initial flow.name flow.entry data now) flow.entry false

/-- The trip of a run that has the output of a step. -/
def ofOutput (e : Engine) (flow : Flow) (state : RunState) (step : Step) (payload : Json.Object) :
    Trip where
  track := e.track flow
  start := Engine.withOutput state step (payload.erase Refusal.choiceKey)
  journey := Engine.onward (e.track flow)
    (Engine.withOutput state step (payload.erase Refusal.choiceKey)) step (Engine.choice? payload)

/-- The trip of a run that leaves a step without output. -/
def ofSkip (e : Engine) (flow : Flow) (state : RunState) (step : Step) : Trip where
  track := e.track flow
  start := { state with status := .running }
  journey := (e.track flow).follow { state with status := .running } step

end Trip

namespace Engine

variable {e : Engine} {now : Instant} {command : Command} {plan : Plan} {trip : Trip}

/-- The operation lets the run set out on the trip. -/
inductive SetsOut (e : Engine) (now : Instant) : Command → Trip → Prop where
  | start {definition : String} {data : Json.Object} {flow : Flow} {warnings : List Diagnostic}
      (free : e.Free) (loaded : compile definition = .ok (flow, warnings)) :
      SetsOut e now (.start definition data) (.ofStart e now flow data)
  | submit {payload : Json.Object} {state : RunState} {flow : Flow} {step : Step} {plan : Plan}
      (live : e.current = .ok (some state)) (running : state.status = .running)
      (records : e.Records state payload false plan) (loaded : e.flow = some flow)
      (filed : flow.step? state.currentStep = some step) :
      SetsOut e now (.submit payload) (.ofOutput e flow state step payload)
  | approve {payload : Json.Object} {state : RunState} {flow : Flow} {step : Step} {plan : Plan}
      (live : e.current = .ok (some state)) (waiting : state.status = .waiting)
      (records : e.Records state payload true plan) (loaded : e.flow = some flow)
      (filed : flow.step? state.currentStep = some step) :
      SetsOut e now (.approve payload) (.ofOutput e flow state step payload)
  | skip {reason : Option String} {state : RunState} {flow : Flow} {step : Step}
      (live : e.current = .ok (some state))
      (active : state.status = .running ∨ state.status = .waiting)
      (bound : e.flowOf state = .ok flow) (filed : flow.step? state.currentStep = some step) :
      SetsOut e now (.skip reason) (.ofSkip e flow state step)

/-- With a recorded output a run sets out on its trip.  What is written before it notes no moves. -/
theorem Records.exists_trip {state : RunState} {payload : Json.Object} {approving : Bool}
    (records : e.Records state payload approving plan) :
    ∃ flow step writes, e.flow = some flow ∧ flow.step? state.currentStep = some step ∧
      plan.writes = writes ++ (Trip.ofOutput e flow state step payload).journey.writes ∧
      (writes.filterMap Write.saved?).getLast? =
        some (Trip.ofOutput e flow state step payload).start ∧
      plan.outcome = (Trip.ofOutput e flow state step payload).journey.outcome ∧
      Write.Keep writes ∧ Note.moves (Write.notes writes) = [] := by
  obtain ⟨flow, loaded⟩ := records.exists_flow
  obtain ⟨step, writes, filed, -, rfl, keeps, notes, last⟩ := records.travels loaded
  refine ⟨flow, step, writes, loaded, filed, rfl, last, rfl, keeps, ?_⟩
  rw [notes]
  cases approving <;> rfl

/-- **Only trips change counters.**  An operation that carries out a plan saves a state and lets
the run set out from there, or restores a checkpoint; else it leaves the counters as they are,
wherever it puts the run. -/
theorem Does.loops_or_setsOut (does : e.Does now command plan) :
    (∃ trip writes, e.SetsOut now command trip ∧ plan.writes = writes ++ trip.journey.writes ∧
        (writes.filterMap Write.saved?).getLast? = some trip.start) ∨
      (∃ name, command = .restoreCheckpoint name) ∨
      ∀ saved ∈ plan.writes.filterMap Write.saved?,
        ∃ state, e.current = .ok (some state) ∧ saved.loops = state.loops := by
  cases does with
  | @start definition data flow warnings free loaded =>
    exact .inl ⟨_, [.live _, .record _ _ .start none], .start free loaded, rfl, rfl⟩
  | submit live running records =>
    obtain ⟨flow, step, writes, loaded, filed, written, last, -⟩ := records.exists_trip
    exact .inl ⟨_, writes, .submit live running records loaded filed, written, last⟩
  | approve live waiting records =>
    obtain ⟨flow, step, writes, loaded, filed, written, last, -⟩ := records.exists_trip
    exact .inl ⟨_, writes, .approve live waiting records loaded filed, written, last⟩
  | skip live active bound filed =>
    exact .inl ⟨_, _, .skip live active bound filed, rfl, rfl⟩
  | restoreCheckpoint saved => exact .inr (.inl ⟨_, rfl⟩)
  | retry live | goto live | back live | stop live | resume live =>
    exact .inr (.inr (List.forall_mem_singleton.2 ⟨_, live, rfl⟩))
  | reject live | saveCheckpoint live | reset => exact .inr (.inr (List.forall_mem_nil _))

/-- The journey of a trip is one through its flow. -/
theorem SetsOut.travels (sets : e.SetsOut now command trip) (vetted : e.Vetted) :
    trip.track.Travels trip.start trip.journey := by
  have outputs {state : RunState} {payload : Json.Object} {approving : Bool} {plan : Plan}
      (records : e.Records state payload approving plan) {flow : Flow} {step : Step}
      (loaded : e.flow = some flow) (filed : flow.step? state.currentStep = some step) :
      (Trip.ofOutput e flow state step payload).track.Travels
        (Trip.ofOutput e flow state step payload).start
        (Trip.ofOutput e flow state step payload).journey := by
    obtain ⟨found, writes, filed', chosen, -⟩ := records.travels loaded
    exact (e.track flow).travels_onward (vetted.sound loaded)
      (withOutput state step (payload.erase Refusal.choiceKey)) filed chosen
  cases sets with
  | @start definition data flow warnings free loaded =>
    have sound : flow.Sound := Flow.Accepted.sound ⟨definition, warnings, loaded⟩
    exact (e.track flow).travels_enter sound _ rfl
  | submit live running records loaded filed => exact outputs records loaded filed
  | approve live waiting records loaded filed => exact outputs records loaded filed
  | @skip reason state flow step live active bound filed =>
    exact (e.track flow).travels_follow (vetted.sound (flow_of_flowOf bound)) _ filed

/-- A run sets out with the counters of the live state, or with none if it begins. -/
theorem SetsOut.get?_loops (sets : e.SetsOut now command trip) {state : RunState}
    (live : e.current = .ok (some state)) (header : String) :
    trip.start.loops.get? header = none ∨
      trip.start.loops.get? header = state.loops.get? header := by
  have same {found : RunState} (live' : e.current = .ok (some found)) : found = state :=
    Option.some.inj (Except.ok.inj (live'.symm.trans live))
  cases sets with
  | start free loaded => exact .inl rfl
  | submit live' => exact .inr (same live' ▸ rfl)
  | approve live' => exact .inr (same live' ▸ rfl)
  | skip live' => exact .inr (same live' ▸ rfl)

/-! ## Runs that leave bodies through their headers -/

/-- **The bodies are left through their headers.**  Nothing happens but operations that follow the
flow of the document, in which no step says itself where the run goes, and none of them gives up. -/
structure Orderly (hooks : Registry) (limits : Limits) (events : List Event)
    (outlines : List Outline) : Prop where
  implicit : Outline.ImplicitList outlines
  follows : ∃ text flow warnings, compile text = .ok (flow, warnings) ∧
    Outline.ofText? text = some outlines ∧
    ∀ event ∈ events, ∃ now command, event = .operate now command ∧ command.Follows flow
  within : ∀ answer ∈ (new hooks limits).replies events, ¬ answer.HitsLimit

/-- What a run keeps that follows its flow, it has after any number of operations. -/
theorem placed_through {flow : Flow} {declared : List (String × List String)} (sound : flow.Sound)
    (nested : flow.Nested declared) {events : List Event}
    (follows : ∀ event ∈ events, ∃ now command, event = .operate now command ∧ command.Follows flow)
    (within : ∀ answer ∈ e.replies events, ¬ answer.HitsLimit) (placed : e.Placed flow declared) :
    (e.through events).Placed flow declared := by
  induction events generalizing e with
  | nil => exact placed
  | cons event events ih =>
    rw [List.forall_mem_cons] at follows
    obtain ⟨⟨now, command, rfl, follows⟩, others⟩ := follows
    rw [replies_cons, List.forall_mem_append] at within
    have here : ¬ (e.execute now command).2.HitsLimit := within.1 _ (List.mem_singleton.2 rfl)
    exact ih others within.2 (placed_execute sound nested placed now follows here)

/-- Where the bodies are left through their headers, a run counts no loop that is not around its
step. -/
theorem Orderly.get?_loops {hooks : Registry} {limits : Limits} {events : List Event}
    {outlines : List Outline} (orderly : Orderly hooks limits events outlines) {state : RunState}
    (live : ((new hooks limits).through events).current = .ok (some state)) {around : List String}
    (enclosed : Outline.enclosing? outlines state.currentStep = some around) {header : String}
    (outside : header ∉ around) : state.loops.get? header = none := by
  obtain ⟨text, flow, warnings, loaded, declares, follows⟩ := orderly.follows
  have sound := Flow.Accepted.sound ⟨text, warnings, loaded⟩
  have nested := Flow.nested_of_compile loaded declares orderly.implicit
  have placed := placed_through sound nested follows orderly.within
    (placed_new hooks limits flow _)
  obtain ⟨member, -⟩ := placed.fits_current live
  have keys : state.loops.keys = around :=
    Option.some.inj ((Dict.find?_of_mem nested.distinct member).symm.trans enclosed)
  rw [Dict.get?_eq_none_iff, keys]
  exact outside

/-- **Where a loop begins.**  Whatever happens in a session, jumps, checkpoints and steps that say
themselves where the run goes included: if an operation takes the run to a header, then the first
pass begins the loop, for the first item of the list that it has then, exactly if no counter of it
is left from before.  And none is left in a run that stands outside the body of the loop and has
left bodies through their headers only, whatever operation comes next. -/
theorem begins_iff (hooks : Registry) (limits : Limits) {events : List Event}
    (sets : ((new hooks limits).through events).SetsOut now command trip) {before rest : List Hop}
    {header : String} {pass : Pass} {after : RunState}
    (comes : trip.journey.hops = before ++ .pass header pass after :: rest)
    (first : ∀ hop ∈ before, hop.header? ≠ some header) :
    ∃ step, trip.track.flow.step? header = some step ∧
      (step.Begins (Hop.reached trip.start before) pass after ↔
        header ∉ trip.start.loops.keys) ∧
      ∀ outlines state around, Orderly hooks limits events outlines →
        ((new hooks limits).through events).current = .ok (some state) →
        Outline.enclosing? outlines state.currentStep = some around → header ∉ around →
        header ∉ trip.start.loops.keys := by
  have travels := sets.travels ((vetted_opening .empty hooks limits).through events)
  have counter := travels.counter_reached comes first
  obtain ⟨step, filed, rfl, rfl, rfl⟩ := travels.pass_eq comes
  refine ⟨step, filed, ?_, fun outlines state around orderly live enclosed outside => ?_⟩
  · rw [Step.begins_pass_iff, counter, Dict.get?_eq_none_iff]
  · rw [← Dict.get?_eq_none_iff]
    rcases sets.get?_loops live step.name with none | same
    · exact none
    · exact same.trans (orderly.get?_loops live enclosed outside)

/-- A run of `Flow.loopText` that has just begun. -/
def justBegun : List Event :=
  [.operate ⟨0⟩ (.start Flow.loopText [("xs", .arr [.int 5, .int 7])])]

/-- Where it stands then. -/
def atFirst : RunState := .initial "unnamed flow" "a" [("xs", .arr [.int 5, .int 7])] ⟨0⟩

/-- The first step of `Flow.loopFlow`. -/
def firstStep : Step := { name := "a", transitions := [.plain "l"] }

/-- The header of its loop. -/
def loopHeader : Step :=
  { name := "l", transitions := [.plain "b", .plain "c"],
    config := { kind := .loop, iterate := some "xs" } }

/-- The output of the first step takes the run to the header. -/
theorem hops_firstStep (e : Engine) : ∃ after rest,
    (Trip.ofOutput e Flow.loopFlow atFirst firstStep []).journey.hops =
      .pass "l" (.enter 2) after :: rest := by
  have route : firstStep.route (e.track Flow.loopFlow).hooks (withOutput atFirst firstStep []) =
      .towards "l" := rfl
  have filed : (e.track Flow.loopFlow).flow.step? "l" = some loopHeader := rfl
  have opens : loopHeader.transitions = [.plain "b", .plain "c"] := rfl
  have enters : loopHeader.pass (withOutput atFirst firstStep []) = .enter 2 := by cbv
  show ∃ after rest, (Track.follow (e.track Flow.loopFlow) (withOutput atFirst firstStep [])
    firstStep).hops = .pass "l" (.enter 2) after :: rest
  rw [Track.follow, if_neg (by decide), Track.leave, route]
  dsimp only
  rw [Track.enter, Track.budget, Track.arrive, filed]
  dsimp only
  rw [if_pos (by decide), Track.passThrough, opens]
  dsimp only
  rw [enters, Journey.hops_after]
  exact ⟨_, _, rfl⟩

/-- From the first step the run comes to the loop, which begins with both items. -/
theorem begins_iff_justBegun : ∃ trip after rest,
    ((new .empty {}).through justBegun).SetsOut ⟨0⟩ (.submit []) trip ∧
      trip.journey.hops = .pass "l" (.enter 2) after :: rest ∧
      ∃ step, trip.track.flow.step? "l" = some step ∧ step.Begins trip.start (.enter 2) after := by
  obtain ⟨began, answered, loaded, live⟩ :
      (new .empty {}).replies justBegun = [.started "unnamed flow" (.arrived "a")] ∧
        (((new .empty {}).through justBegun).execute ⟨0⟩ (.submit [])).2 = .arrived "b" ∧
        ((new .empty {}).through justBegun).flow = some Flow.loopFlow ∧
        ((new .empty {}).through justBegun).current = .ok (some atFirst) := by
    rw [justBegun, replies_cons, Event.answer?, through_cons, Event.apply,
      execute_start (free_of_empty rfl) _ Flow.compile_loopText]
    cbv
  have sets : ((new .empty {}).through justBegun).SetsOut ⟨0⟩ (.submit [])
      (.ofOutput ((new .empty {}).through justBegun) Flow.loopFlow atFirst firstStep []) := by
    rcases execute_cases ((new .empty {}).through justBegun) ⟨0⟩ (.submit []) with
      ⟨why, same, -⟩ | ⟨plan, does, -⟩
    · rw [same] at answered
      cases answered
    cases does with
    | submit live' running records =>
      rw [Option.some.inj (Except.ok.inj (live'.symm.trans live))] at running records
      exact .submit live running records loaded rfl
  obtain ⟨after, rest, hops⟩ := hops_firstStep ((new .empty {}).through justBegun)
  have orderly : Orderly .empty {} justBegun Flow.loopOutlines := by
    refine ⟨?_, ⟨_, _, _, Flow.compile_loopText, Flow.ofText?_loopText, ?_⟩, ?_⟩
    · simp [Flow.loopOutlines, Outline.ImplicitList, Outline.Implicit, Outline.wayKeys, Fields.get?]
    · exact List.forall_mem_singleton.2 ⟨_, _, rfl, _, Flow.compile_loopText⟩
    · rw [began]
      simp [Outcome.HitsLimit]
  have enclosed : Outline.enclosing? Flow.loopOutlines atFirst.currentStep = some [] := by decide
  have parts : (Trip.ofOutput ((new .empty {}).through justBegun) Flow.loopFlow atFirst firstStep
      []).journey.hops = [] ++ .pass "l" (.enter 2) after :: rest := hops
  obtain ⟨step, filed, begins, uncounted⟩ :=
    begins_iff .empty {} sets parts (List.forall_mem_nil _)
  exact ⟨_, after, rest, sets, hops, step, filed,
    begins.2 (uncounted _ _ _ orderly live enclosed List.not_mem_nil)⟩

/-- A run that came into the loop and is put back to the step before it. -/
def jumpOut : List (Instant × Command) := intoLoop ++ [(⟨0⟩, .goto "a")]

/-- **Put out of the body by hand, a run does not begin the loop.**  It stands outside, and the
next output takes it to the second item at once, though it came from outside. -/
theorem goes_on_jumpOut :
    Outline.enclosing? Flow.loopOutlines "a" = some [] ∧
      ((new .empty {}).after jumpOut).current = .ok (some { insideLoop with currentStep := "a" }) ∧
      (((new .empty {}).after jumpOut).execute ⟨0⟩ (.submit [])).1.current =
        .ok (some { insideLoop with loops := .ofList [("l", ⟨1, 2⟩)] }) := by
  refine ⟨by decide, ?_⟩
  rw [jumpOut, intoLoop, List.cons_append, after_cons,
    execute_start (free_of_empty rfl) _ Flow.compile_loopText]
  cbv
  exact ⟨rfl, rfl⟩

end Engine

end Runbook
