import Runbook.Proofs.Run.Stages

/-!
# Legs of a run

What a run does in the course of a session is scattered over many operations.  Some of them send it
on a trip, the others leave it alone or put it somewhere by hand, and in between hooks change, other
sessions open the store, and definitions are loaded.  This module takes all trips of a session apart
into legs and puts these into one list.  Of each leg it says from which state it sets out and where
it leads, so that nothing has to be said about trips any more.

## Main definitions

* `Leg`: a hop, with the state that it is made from and the journey behind it
* `Leg.Leads`: a pass leads where its header says
* `Leg.Counted`: the legs count a loop
* `Command.Proceeds`, `Event.Proceeds`: what happens in the course of one run of a flow
* `Engine.Covers`: the legs of a session

## Main statements

* `Track.leads_arrive`, `Track.leads_follow`: passes lead where their headers say
* `Track.Travels.counted`: the hops of a journey count each of its loops
* `Engine.exists_covers`, `Engine.Covers.unique`: a session has its legs
* `Engine.Covers.counted`: in the course of one run nothing but passes changes a counter

## Design notes

A leg has no store and no time.  The state that it is made from is the one that the leg before has
left, or, if an operation came between the two, one that has the same counters.

That a pass leads somewhere means that the journey behind it begins with an arrival there.  It may
end with this arrival as well, if no more of them are left.
-/

namespace Runbook

/-- A hop of a run, the state that it is made from, and the journey behind it. -/
structure Leg where
  found : RunState
  hop : Hop
  onward : Journey

namespace Leg

/-- The legs of some hops that a run makes from a state, if they end like this. -/
def ofHops (outcome : Outcome) (found : RunState) : List Hop → List Leg
  | [] => []
  | hop :: hops => ⟨found, hop, ⟨hops, outcome⟩⟩ :: ofHops outcome hop.state hops

/-- The hops of some legs. -/
def hops (legs : List Leg) : List Hop := legs.map Leg.hop

@[simp] theorem hops_nil : hops [] = [] := rfl

@[simp] theorem hops_cons (leg : Leg) (legs : List Leg) :
    hops (leg :: legs) = leg.hop :: hops legs := rfl

theorem hops_append (legs more : List Leg) : hops (legs ++ more) = hops legs ++ hops more :=
  List.map_append

@[simp] theorem hops_ofHops (outcome : Outcome) (found : RunState) (made : List Hop) :
    hops (ofHops outcome found made) = made := by
  induction made generalizing found with
  | nil => rfl
  | cons hop made ih =>
    rw [ofHops, hops_cons, ih]

end Leg

/-- The legs of a journey from a state. -/
def Journey.legs (journey : Journey) (found : RunState) : List Leg :=
  Leg.ofHops journey.outcome found journey.hops

/-- The legs of a trip. -/
def Trip.legs (trip : Trip) : List Leg := trip.journey.legs trip.start

@[simp] theorem Journey.legs_stay (outcome : Outcome) (found : RunState) :
    (Journey.stay outcome).legs found = [] := rfl

@[simp] theorem Journey.legs_after (hop : Hop) (journey : Journey) (found : RunState) :
    (Journey.after hop journey).legs found = ⟨found, hop, journey⟩ :: journey.legs hop.state := rfl

@[simp] theorem Journey.hops_legs (journey : Journey) (found : RunState) :
    Leg.hops (journey.legs found) = journey.hops := Leg.hops_ofHops _ _ _

/-! ## Where passes lead -/

/-- **A pass leads where its header says**: to its first transition if it enters the body, and else
to its second one. -/
def Leg.Leads (flow : Flow) (leg : Leg) : Prop :=
  ∀ header pass after, leg.hop = .pass header pass after →
    ∃ step body exit more, flow.step? header = some step ∧
      step.transitions = body :: exit :: more ∧
      ∃ (track : Track) (budget : Nat), track.flow = flow ∧
        leg.onward = track.arrive budget after
          (if pass.entersBody then body.target else exit.target) true

/-- All passes on the journey lead where their headers say. -/
def Journey.Leads (flow : Flow) (found : RunState) (journey : Journey) : Prop :=
  ∀ leg ∈ journey.legs found, leg.Leads flow

namespace Track

variable {track : Track} {state : RunState} {step : Step} {go : RunState → String → Journey}

/-- A journey without passes has none that could lead elsewhere. -/
theorem leads_stay (flow : Flow) (outcome : Outcome) : (Journey.stay outcome).Leads flow state :=
  List.forall_mem_nil _

/-- A hop that is no pass leads nowhere by itself. -/
theorem leads_after {flow : Flow} {hop : Hop} (other : hop.header? = none) {journey : Journey}
    (onward : journey.Leads flow hop.state) : (Journey.after hop journey).Leads flow state := by
  unfold Journey.Leads
  rw [Journey.legs_after, List.forall_mem_cons]
  refine ⟨?_, onward⟩
  rintro header pass after rfl
  cases other

/-- A pass through a header leads where the header says. -/
theorem leads_passThrough (sound : track.flow.Sound)
    (filed : track.flow.step? step.name = some step) (header : step.config.isLoopHeader = true)
    {budget : Nat}
    (onward : ∀ next target, track.flow.contains target = true →
      (track.arrive budget next target true).Leads track.flow next) :
    (passThrough (fun next target => track.arrive budget next target true) state step).Leads
      track.flow state := by
  obtain ⟨body, exit, more, transitions⟩ := sound.loops filed header
  have known := sound.targets filed
  rw [transitions, List.forall_mem_cons, List.forall_mem_cons] at known
  unfold passThrough Journey.Leads
  rw [transitions]
  dsimp only
  rw [Journey.legs_after, List.forall_mem_cons]
  constructor
  · rintro name pass after made
    obtain ⟨rfl, rfl, rfl⟩ := Hop.pass.inj made
    refine ⟨step, body, exit, more, filed, transitions, track, budget, rfl, ?_⟩
    dsimp only
    split <;> rfl
  · show Journey.Leads track.flow ((step.pass state).apply step.name state) _
    split
    · exact onward _ _ known.1
    · exact onward _ _ known.2.1

/-- Leaving a plain step, a run makes no pass by itself. -/
theorem leads_leave (sound : track.flow.Sound)
    (filed : track.flow.step? step.name = some step)
    (onward : ∀ target, track.flow.contains target = true →
      (go state target).Leads track.flow state) :
    (track.leave go state step).Leads track.flow state := by
  unfold leave
  split
  · rename_i target towards
    obtain ⟨t, taken, rfl⟩ := List.mem_map.1 (Step.mem_targets_of_route towards)
    exact onward _ (sound.targets filed t taken)
  · exact leads_stay _ _
  · exact leads_after rfl (leads_stay _ _)
  · exact leads_stay _ _

/-- **On a journey that starts with an arrival passes lead where their headers say.** -/
theorem leads_arrive (track : Track) (sound : track.flow.Sound) (budget : Nat) (state : RunState)
    {target : String} (known : track.flow.contains target = true) (recorded : Bool) :
    (track.arrive budget state target recorded).Leads track.flow state := by
  induction budget generalizing state target recorded with
  | zero => exact leads_stay _ _
  | succ budget ih =>
    obtain ⟨step, filed⟩ := Flow.contains_iff_step?.1 known
    obtain rfl := sound.filed filed
    unfold arrive
    rw [filed]
    dsimp only
    split
    · rename_i header
      exact leads_passThrough sound filed header fun next target known => ih next known true
    · split
      · exact leads_after rfl (leads_stay _ _)
      · refine leads_after rfl ?_
        split
        · exact leads_leave sound filed fun target known => ih _ known true
        · exact leads_stay _ _

/-- **So do they on a journey that starts with leaving a step.** -/
theorem leads_follow (track : Track) (sound : track.flow.Sound) (state : RunState)
    (filed : track.flow.step? step.name = some step) :
    (track.follow state step).Leads track.flow state := by
  unfold follow
  split
  · rename_i header
    exact leads_passThrough sound filed header fun next target known =>
      track.leads_arrive sound track.limit next known true
  · exact leads_leave sound filed fun target known =>
      track.leads_arrive sound track.budget state known true

end Track

/-! ## Counters -/

/-- **The legs count a loop**, if its counter is this one before them: each leg finds the counter
that the one before it has left, a pass through the header goes by it, and nothing else changes
it. -/
def Leg.Counted (header : Step) : Option LoopCounter → List Leg → Prop
  | _, [] => True
  | counter, leg :: legs =>
    leg.found.loops.get? header.name = counter ∧
      leg.hop.state.loops.get? header.name = Hop.count header.name counter leg.hop ∧
      (∀ pass after, leg.hop = .pass header.name pass after →
        pass = header.pass leg.found ∧ after = pass.apply header.name leg.found) ∧
      Counted header (Hop.count header.name counter leg.hop) legs

/-- Legs count a loop if they do so one after the other. -/
theorem Leg.counted_append {header : Step} {counter : Option LoopCounter} {legs more : List Leg} :
    Leg.Counted header counter (legs ++ more) ↔
      Leg.Counted header counter legs ∧
        Leg.Counted header (Hop.tally header.name counter (Leg.hops legs)) more := by
  induction legs generalizing counter with
  | nil => exact (iff_of_eq (true_and _)).symm
  | cons leg legs ih =>
    rw [List.cons_append, Leg.hops_cons, Hop.tally_cons, Leg.Counted, Leg.Counted, ih]
    simp only [and_assoc]

/-- **The hops of a journey count each of its loops.** -/
theorem Track.Travels.counted {track : Track} {state : RunState} {journey : Journey}
    (travels : track.Travels state journey) {header : Step}
    (filed : track.flow.step? header.name = some header) :
    Leg.Counted header (state.loops.get? header.name) (journey.legs state) := by
  induction travels with
  | giveUp | stuck | undecided => trivial
  | finish | terminate | stand => exact ⟨rfl, rfl, nofun, trivial⟩
  | advance _ plain lasts advances first onward ih => exact ⟨rfl, rfl, nofun, ih⟩
  | @pass state step journey filed' isHeader onward ih =>
    rw [Journey.legs_after]
    refine ⟨rfl, step.get?_apply state header.name, fun pass after made => ?_, ?_⟩
    · obtain ⟨same, rfl, rfl⟩ := Hop.pass.inj made
      rw [same] at filed'
      obtain rfl := Option.some.inj (filed'.symm.trans filed)
      exact ⟨rfl, rfl⟩
    · rw [← Step.get?_apply]
      exact ih

namespace Engine

variable {e : Engine} {now : Instant} {command : Command} {plan : Plan} {trip other : Trip}

/-- On a trip passes lead where their headers say. -/
theorem SetsOut.leads (sets : e.SetsOut now command trip) (vetted : e.Vetted) :
    trip.journey.Leads trip.track.flow trip.start := by
  have outputs {state : RunState} {payload : Json.Object} {approving : Bool} {plan : Plan}
      (records : e.Records state payload approving plan) {flow : Flow} {step : Step}
      (loaded : e.flow = some flow) (filed : flow.step? state.currentStep = some step) :
      (Trip.ofOutput e flow state step payload).journey.Leads flow
        (Trip.ofOutput e flow state step payload).start := by
    obtain ⟨found, writes, filed', chosen, -⟩ := records.travels loaded
    have sound := vetted.sound loaded
    rw [← sound.filed filed] at filed
    show Journey.Leads flow _ (onward (e.track flow) _ step (choice? payload))
    cases choice : choice? payload with
    | none => exact (e.track flow).leads_follow sound _ filed
    | some target => exact (e.track flow).leads_arrive sound _ _ (chosen target choice) true
  cases sets with
  | @start definition data flow warnings free loaded =>
    have sound : flow.Sound := Flow.Accepted.sound ⟨definition, warnings, loaded⟩
    exact (e.track flow).leads_arrive sound _ _ sound.entry false
  | submit live running records loaded filed => exact outputs records loaded filed
  | approve live waiting records loaded filed => exact outputs records loaded filed
  | @skip reason state flow step live active bound filed =>
    have sound := vetted.sound (flow_of_flowOf bound)
    rw [← sound.filed filed] at filed
    exact (e.track flow).leads_follow sound _ filed

/-! ## Sessions -/

/-- A run sets out on one trip only. -/
theorem SetsOut.unique (sets : e.SetsOut now command trip) (sets' : e.SetsOut now command other) :
    other = trip := by
  have same {state found : RunState} (live : e.current = .ok (some state))
      (live' : e.current = .ok (some found)) : found = state :=
    Option.some.inj (Except.ok.inj (live'.symm.trans live))
  cases sets with
  | start free loaded =>
    cases sets' with
    | start free' loaded' =>
      obtain ⟨rfl, -⟩ := Prod.mk.inj (Except.ok.inj (loaded'.symm.trans loaded))
      rfl
  | submit live running records loaded filed =>
    cases sets' with
    | submit live' running' records' loaded' filed' =>
      obtain rfl := same live live'
      obtain rfl := Option.some.inj (loaded'.symm.trans loaded)
      obtain rfl := Option.some.inj (filed'.symm.trans filed)
      rfl
  | approve live waiting records loaded filed =>
    cases sets' with
    | approve live' waiting' records' loaded' filed' =>
      obtain rfl := same live live'
      obtain rfl := Option.some.inj (loaded'.symm.trans loaded)
      obtain rfl := Option.some.inj (filed'.symm.trans filed)
      rfl
  | skip live active bound filed =>
    cases sets' with
    | skip live' active' bound' filed' =>
      obtain rfl := same live live'
      obtain rfl := Except.ok.inj (bound'.symm.trans bound)
      obtain rfl := Option.some.inj (filed'.symm.trans filed)
      rfl

/-- An operation that lets a run set out carries out a plan with the trip. -/
theorem SetsOut.exists_plan (sets : e.SetsOut now command trip) :
    ∃ plan writes, e.execute now command = (e.commit now plan, plan.outcome) ∧
      plan.writes = writes ++ trip.journey.writes ∧
      (writes.filterMap Write.saved?).getLast? = some trip.start ∧ Write.Keep writes := by
  obtain ⟨plan, does, departs⟩ : ∃ plan, e.Does now command plan ∧ command.Departs := by
    cases sets with
    | start free loaded => exact ⟨_, .start free loaded, trivial⟩
    | submit live running records => exact ⟨_, .submit live running records, trivial⟩
    | approve live waiting records => exact ⟨_, .approve live waiting records, trivial⟩
    | skip live active bound filed => exact ⟨_, .skip live active bound filed, trivial⟩
  obtain ⟨found, writes, sets', written, last, -, keeps, -⟩ := does.exists_trip departs
  obtain rfl := sets.unique sets'
  exact ⟨plan, writes, execute_of_plan does.planned, written, last, keeps⟩

/-- **The legs of a session**, those of all its trips in their order. -/
inductive Covers : Engine → List Event → List Leg → Prop where
  | nil {e : Engine} : Covers e [] []
  /-- An operation lets the run set out. -/
  | trip {e : Engine} {now : Instant} {command : Command} {trip : Trip} {events : List Event}
      {legs : List Leg} (sets : e.SetsOut now command trip)
      (rest : Covers (e.execute now command).1 events legs) :
      Covers e (.operate now command :: events) (trip.legs ++ legs)
  /-- Nothing lets the run set out. -/
  | still {e : Engine} {event : Event} {events : List Event} {legs : List Leg}
      (stays : ∀ now command trip, event = .operate now command → ¬ e.SetsOut now command trip)
      (rest : Covers (event.apply e) events legs) : Covers e (event :: events) legs

/-- Each session has its legs. -/
theorem exists_covers (e : Engine) (events : List Event) : ∃ legs, e.Covers events legs := by
  induction events generalizing e with
  | nil => exact ⟨[], .nil⟩
  | cons event events ih =>
    obtain ⟨legs, rest⟩ := ih (event.apply e)
    by_cases out : ∃ now command trip, event = .operate now command ∧ e.SetsOut now command trip
    · obtain ⟨now, command, trip, rfl, sets⟩ := out
      exact ⟨_, .trip sets rest⟩
    · refine ⟨legs, .still (fun now command trip same sets => ?_) rest⟩
      exact out ⟨now, command, trip, same, sets⟩

/-- It has no others. -/
theorem Covers.unique {events : List Event} {legs others : List Leg}
    (covers : e.Covers events legs) (covers' : e.Covers events others) : others = legs := by
  induction covers generalizing others with
  | nil =>
    cases covers'
    rfl
  | trip sets rest ih =>
    cases covers' with
    | trip sets' rest' => rw [sets.unique sets', ih rest']
    | still stays => exact absurd sets (stays _ _ _ rfl)
  | still stays rest ih =>
    cases covers' with
    | trip sets' => exact absurd sets' (stays _ _ _ rfl)
    | still stays' rest' => exact ih rest'

/-- Of a longer session the legs go on. -/
theorem Covers.append {past future : List Event} {made later : List Leg}
    (covers : e.Covers past made) (covers' : (e.through past).Covers future later) :
    e.Covers (past ++ future) (made ++ later) := by
  induction covers with
  | nil => exact covers'
  | trip sets rest ih =>
    rw [List.append_assoc]
    exact .trip sets (ih covers')
  | still stays rest ih => exact .still stays (ih covers')

end Engine

/-! ## The course of one run -/

/-- The operations after which the run is still the one it was: it is not replaced by a new one, by
one that was saved, or by none. -/
def Command.Proceeds : Command → Prop
  | start _ _ | restoreCheckpoint _ | reset => False
  | _ => True

/-- What happens in the course of one run of the flow: the run is not replaced, and no other flow is
loaded. -/
def Event.Proceeds (flow : Flow) : Event → Prop
  | operate _ command => command.Proceeds
  | load definition =>
    ∀ found warnings, Engine.compile definition = .ok (found, warnings) → found = flow
  | equip _ | reopen _ _ => True

namespace Engine

variable {e : Engine} {now : Instant} {command : Command} {plan : Plan} {trip : Trip} {flow : Flow}
  {header : String} {counter : Option LoopCounter}

/-- No flow is loaded but this one. -/
def Binds (e : Engine) (flow : Flow) : Prop := ∀ found, e.flow = some found → found = flow

/-- The live state has this counter of the loop. -/
def Has (e : Engine) (header : String) (counter : Option LoopCounter) : Prop :=
  ∀ state, e.current = .ok (some state) → state.loops.get? header = counter

/-- In the course of a run operations load no flow. -/
theorem Does.binds_eq_none (does : e.Does now command plan) (proceeds : command.Proceeds) :
    plan.binds = none := by
  cases does with
  | start | restoreCheckpoint | reset => exact absurd proceeds id
  | submit live running records =>
    obtain ⟨⟩ := records
    rfl
  | approve live waiting records =>
    obtain ⟨⟩ := records
    rfl
  | _ => rfl

/-- In the course of a run the flow stays loaded, if any. -/
theorem Binds.apply (binds : e.Binds flow) {event : Event} (proceeds : event.Proceeds flow) :
    (event.apply e).Binds flow := by
  cases event with
  | operate now command =>
    show (e.execute now command).1.Binds flow
    rcases execute_cases e now command with ⟨why, same, -⟩ | ⟨plan, does, same⟩
    · rw [same]
      exact binds
    · rw [same]
      intro found loaded
      refine binds found ?_
      rw [← loaded]
      show e.flow = plan.binds.or e.flow
      rw [does.binds_eq_none proceeds]
      rfl
  | load definition =>
    cases read : e.load definition with
    | error fault =>
      have unchanged : (Event.load definition).apply e = e := by simp only [Event.apply, read]
      rw [unchanged]
      exact binds
    | ok result =>
      obtain ⟨loaded, warnings⟩ := result
      obtain ⟨found, compiled, rfl⟩ := load_eq_ok.1 read
      have loads : (Event.load definition).apply e = { e with flow := some found } := by
        simp only [Event.apply, read]
      rw [loads]
      intro other same
      obtain rfl := Option.some.inj same
      exact proceeds found warnings compiled
  | equip hooks => exact binds
  | reopen hooks limits =>
    intro found loaded
    cases loaded

/-- In the course of a run no operation forgets it. -/
theorem Does.keeps (does : e.Does now command plan) (proceeds : command.Proceeds) :
    Write.Keep plan.writes := by
  by_cases departs : command.Departs
  · obtain ⟨trip, writes, -, written, -, -, keeps, -⟩ := does.exists_trip departs
    rw [written]
    exact Write.keep_append.2 ⟨keeps, trip.journey.keep_writes⟩
  · cases does with
    | start | submit | approve | skip => exact absurd trivial departs
    | restoreCheckpoint | reset => exact absurd proceeds id
    | _ => simp [Plan.act, mark, planRetry, planSave]

/-- A run sets out with the counters of the live state, unless it begins. -/
theorem SetsOut.has (sets : e.SetsOut now command trip) (proceeds : command.Proceeds)
    (has : e.Has header counter) : trip.start.loops.get? header = counter := by
  cases sets with
  | start => exact absurd proceeds id
  | @submit _ state _ _ _ live => exact has state live
  | @approve _ state _ _ _ live => exact has state live
  | @skip _ state _ _ live => exact has state live

/-- The live state has the counters that it was saved with. -/
theorem has_of_live {state : RunState} (live : e.store.live = some (.ofState state))
    (header : String) : e.Has header (state.loops.get? header) := by
  intro back current
  rw [eq_of_current live current]

/-- After a trip the live state has the counter that the hops of the trip left. -/
theorem SetsOut.has_execute (sets : e.SetsOut now command trip) (vetted : e.Vetted)
    (proceeds : command.Proceeds) (has : e.Has header counter) :
    (e.execute now command).1.Has header (Hop.tally header counter trip.journey.hops) := by
  obtain ⟨plan, writes, same, written, last, keeps⟩ := sets.exists_plan
  obtain ⟨-, live⟩ := commit_travel e now written keeps last
  have travels := sets.travels vetted
  have whole : trip.journey.hops = trip.journey.hops ++ [] := (List.append_nil _).symm
  rw [travels.final_eq] at live
  rw [same, ← sets.has proceeds has, ← travels.get?_reached whole header]
  exact has_of_live live header

/-- Without a trip the live state keeps its counters. -/
theorem has_of_still (stays : ∀ trip, ¬ e.SetsOut now command trip) (proceeds : command.Proceeds)
    (has : e.Has header counter) : (e.execute now command).1.Has header counter := by
  rcases execute_cases e now command with ⟨why, same, -⟩ | ⟨plan, does, same⟩
  · rw [same]
    exact has
  rw [same]
  rcases does.loops_or_setsOut with ⟨trip, -, sets, -⟩ | ⟨name, rfl⟩ | quiet
  · exact absurd sets (stays trip)
  · exact absurd proceeds id
  have live : (e.commit now plan).store.live =
      ((plan.writes.filterMap Write.saved?).getLast?.map LiveRow.ofState).or e.store.live :=
    Store.live_applyAll now e.store (does.keeps proceeds)
  cases last : (plan.writes.filterMap Write.saved?).getLast? with
  | none =>
    rw [last] at live
    have unmoved : (e.commit now plan).current = e.current := by
      unfold current Store.current
      rw [live]
      rfl
    intro state current
    exact has state (unmoved ▸ current)
  | some saved =>
    obtain ⟨state, current, loops⟩ := quiet saved (List.mem_of_getLast? last)
    rw [last] at live
    rw [← has state current, ← loops]
    exact has_of_live live header

/-- A trip in the course of a run is one through its flow. -/
theorem SetsOut.flow_eq (sets : e.SetsOut now command trip) (proceeds : command.Proceeds)
    (binds : e.Binds flow) : trip.track.flow = flow := by
  cases sets with
  | start => exact absurd proceeds id
  | submit live running records loaded filed => exact binds _ loaded
  | approve live waiting records loaded filed => exact binds _ loaded
  | skip live active bound filed => exact binds _ (flow_of_flowOf bound)

/-- **In the course of one run nothing but passes changes a counter**, and each pass is made as the
counter says and leads where the header says. -/
theorem Covers.counted (accepted : flow.Accepted) {step : Step}
    (filed : flow.step? step.name = some step) {events : List Event} {legs : List Leg}
    (covers : e.Covers events legs) (binds : e.Binds flow)
    (proceeds : ∀ event ∈ events, event.Proceeds flow) (has : e.Has step.name counter) :
    Leg.Counted step counter legs ∧ (∀ leg ∈ legs, leg.Leads flow) ∧
      (e.through events).Has step.name (Hop.tally step.name counter (Leg.hops legs)) := by
  induction covers generalizing counter with
  | nil => exact ⟨trivial, List.forall_mem_nil _, has⟩
  | @trip e now command trip events legs sets rest ih =>
    rw [List.forall_mem_cons] at proceeds
    have vetted : e.Vetted := fun found loaded => binds found loaded ▸ accepted
    have through := sets.flow_eq proceeds.1 binds
    have leads := sets.leads vetted
    have counts := (sets.travels vetted).counted (through ▸ filed)
    rw [sets.has proceeds.1 has] at counts
    rw [through] at leads
    obtain ⟨counted, led, left⟩ := ih (binds.apply proceeds.1) proceeds.2
      (sets.has_execute vetted proceeds.1 has)
    have made : Leg.hops trip.legs = trip.journey.hops := trip.journey.hops_legs trip.start
    refine ⟨Leg.counted_append.2 ⟨counts, ?_⟩, List.forall_mem_append.2 ⟨leads, led⟩, ?_⟩
    · rw [made]
      exact counted
    · rw [Leg.hops_append, Hop.tally_append, made]
      exact left
  | @still e event events legs stays rest ih =>
    rw [List.forall_mem_cons] at proceeds
    refine ih (binds.apply proceeds.1) proceeds.2 ?_
    cases event with
    | operate now command => exact has_of_still (fun trip => stays _ _ trip rfl) proceeds.1 has
    | _ =>
      intro state live
      refine has state ?_
      rw [← live]
      unfold current Store.current
      rw [store_apply e rfl]

end Engine

end Runbook
