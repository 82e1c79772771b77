import Runbook.Proofs.Run.Afresh

/-!
# What an operation costs

A run that is taken on arrives at steps, leaves them, passes through loop headers and leaves loops,
and each of these leads to the others.  How deep it is in this counts up from zero, and it is
looked at on arrivals only; to pass through the header at which a run stands costs nothing, and
neither does leaving a step.  So the depth alone does not tell that it ends.

This module says what happens stage by stage, with the depth and without a budget.  From that come
the bounds on arrivals, passes and rows, for all flows: cycles of automatic steps, cycles of headers
and transitions that lead nowhere included.

## Main definitions

* `Stage`: what a run is about to do, and how deep it is
* `Track.turn`: what comes of a stage
* `Track.Takes`: the stages of a journey, one after the other
* `Stage.rank`: how many stages may follow

## Main statements

* `Track.leads_of_turn`: which stages lead to which
* `Track.exists_takes`, `Track.Takes.unique`: from any stage there is one journey, and it ends
* `Track.takes_arrive`, `Track.takes_follow`: it is the one that is computed with a budget
* `Engine.execute_bounded`: an operation makes as many arrivals as it may make by itself, and one
  more, at most, and no more passes and rows than that

## Design notes

The rank weighs the depths that are left against the four kinds of stages.  Between two arrivals a
run leaves a step, passes through a header and leaves a loop, in this order and each at most once,
and it is deeper at the second of them.
-/

namespace Runbook

/-- What a run is about to do, and how deep it is. -/
inductive Stage where
  /-- It arrives at a step; the first arrival of a run is not recorded. -/
  | arriving (depth : Nat) (target : String) (recorded : Bool)
  /-- It leaves a step. -/
  | leaving (depth : Nat) (step : Step)
  /-- It is at a loop header. -/
  | passing (depth : Nat) (header : Step)
  /-- It leaves a loop. -/
  | exiting (depth : Nat) (header : Step) (ending : LoopEnding)

/-- What comes of a stage. -/
inductive Turn where
  /-- The journey ends like this. -/
  | stop (journey : Journey)
  /-- After some hops the run comes to another stage. -/
  | go (hops : List Hop) (state : RunState) (stage : Stage)

namespace Stage

/-- How deep the run is. -/
def depth : Stage → Nat
  | arriving depth _ _ | leaving depth _ | passing depth _ | exiting depth _ _ => depth

/-- How many stages may follow. -/
def rank (limit : Nat) : Stage → Nat
  | leaving depth _ => 4 * (limit + 1 - depth) + 3
  | arriving depth _ _ => 4 * (limit + 1 - depth)
  | passing depth _ => 4 * (limit - depth) + 2
  | exiting depth _ _ => 4 * (limit - depth) + 1

theorem rank_lt (limit : Nat) (stage : Stage) : stage.rank limit < 4 * (limit + 2) := by
  cases stage <;> simp only [rank] <;> omega

end Stage

/-- The journey with some hops in front. -/
def Journey.behind (hops : List Hop) (rest : Journey) : Journey :=
  ⟨hops ++ rest.hops, rest.outcome⟩

namespace Track

/-! ## Stage by stage -/

/-- What comes of an arrival at a step. -/
def comeTo (depth : Nat) (recorded : Bool) (state : RunState) (step : Step) : Turn :=
  if step.config.isLoopHeader then .go [] state (.passing depth step)
  else if step.config.terminate then
    let reason := step.config.reason.getD defaultReason
    .stop (.after (.terminate step.name reason (atEnd step state))
      (.stay (.terminated step.name reason)))
  else if step.advances then
    .go [.arrive step.name recorded (atStep step state)] (atStep step state)
      (.leaving (depth + 1) step)
  else
    .stop (.after (.arrive step.name recorded (atStep step state)) (.stay (.arrived step.name)))

/-- What comes of leaving a plain step. -/
def goBy (depth : Nat) (state : RunState) (step : Step) : Route → Turn
  | .towards target => .go [] state (.arriving depth target true)
  | .undecided pending => .stop (.stay (.undecided step.name pending))
  | .done => .stop (.after (.finish { state with status := .done }) (.stay .completed))
  | .stuck => .stop (.stay (.refused (.noTransition step.name)))

/-- What comes of a stage. -/
def turn (track : Track) (state : RunState) : Stage → Turn
  | .arriving depth target recorded =>
    if track.limit < depth then
      .stop (.stay (.refused (.tooManySteps state.currentStep track.limit)))
    else
      match track.flow.step? target with
      | none => .stop (.stay (.refused (.missingTarget target)))
      | some step => comeTo depth recorded state step
  | .leaving depth step =>
    if step.config.isLoopHeader then .go [] state (.passing depth step)
    else goBy depth state step (step.route track.hooks state)
  | .passing depth header =>
    match header.transitions with
    | [] => .go [] state (.exiting depth header .noBody)
    | body :: _ =>
      let pass := header.pass state
      .go [.pass header.name pass (pass.apply header.name state)] (pass.apply header.name state)
        (if pass.entersBody then .arriving (depth + 1) body.target true
        else .exiting depth header pass.ending)
  | .exiting depth header ending =>
    match header.transitions[1]? with
    | some exit => .go [] state (.arriving (depth + 1) exit.target true)
    | none => .stop (endAt header ending state)

/-- The stages of a journey, one after the other. -/
inductive Takes (track : Track) : RunState → Stage → List Stage → Journey → Prop where
  /-- The journey ends. -/
  | stop {state : RunState} {stage : Stage} {journey : Journey}
      (turned : track.turn state stage = .stop journey) : Takes track state stage [stage] journey
  /-- The journey goes on. -/
  | go {state next : RunState} {stage later : Stage} {hops : List Hop} {stages : List Stage}
      {rest : Journey} (turned : track.turn state stage = .go hops next later)
      (onward : Takes track next later stages rest) :
      Takes track state stage (stage :: stages) (.behind hops rest)

/-- Which stages lead to which, and by which hops. -/
inductive Leads (track : Track) : Stage → List Hop → Stage → Prop where
  /-- An arrival at a header is a pass. -/
  | meet {depth : Nat} {target : String} {recorded : Bool} {header : Step}
      (granted : depth ≤ track.limit) :
      Leads track (.arriving depth target recorded) [] (.passing depth header)
  /-- From an automatic step the run goes on, and is deeper. -/
  | advance {depth : Nat} {target : String} {recorded : Bool} {step : Step} {state : RunState}
      (granted : depth ≤ track.limit) :
      Leads track (.arriving depth target recorded) [.arrive step.name recorded state]
        (.leaving (depth + 1) step)
  /-- Leaving a header is a pass. -/
  | stand {depth : Nat} {header : Step} :
      Leads track (.leaving depth header) [] (.passing depth header)
  /-- Leaving a step leads to an arrival. -/
  | towards {depth : Nat} {step : Step} {target : String} :
      Leads track (.leaving depth step) [] (.arriving depth target true)
  /-- A loop without a body is left. -/
  | unfilled {depth : Nat} {header : Step} :
      Leads track (.passing depth header) [] (.exiting depth header .noBody)
  /-- A pass leads into the body, where the run is deeper. -/
  | enter {depth : Nat} {header : Step} {pass : Pass} {state : RunState} {target : String} :
      Leads track (.passing depth header) [.pass header.name pass state]
        (.arriving (depth + 1) target true)
  /-- A pass by the body, or after its last item, leaves the loop. -/
  | skip {depth : Nat} {header : Step} {pass : Pass} {state : RunState} :
      Leads track (.passing depth header) [.pass header.name pass state]
        (.exiting depth header pass.ending)
  /-- Behind a loop the run is deeper. -/
  | exit {depth : Nat} {header : Step} {ending : LoopEnding} {target : String} :
      Leads track (.exiting depth header ending) [] (.arriving (depth + 1) target true)

variable {track : Track} {state next : RunState} {stage later : Stage} {hops : List Hop}
  {stages : List Stage} {journey : Journey}

/-- An arrival that is granted leads on, past a header or away from an automatic step. -/
theorem leads_of_comeTo {depth : Nat} {target : String} {recorded : Bool} {step : Step}
    (granted : depth ≤ track.limit)
    (turned : comeTo depth recorded state step = .go hops next later) :
    track.Leads (.arriving depth target recorded) hops later := by
  unfold comeTo at turned
  split at turned
  · cases turned
    exact .meet granted
  split at turned
  · cases turned
  split at turned
  · cases turned
    exact .advance granted
  · cases turned

/-- **Which stages lead to which.** -/
theorem leads_of_turn (turned : track.turn state stage = .go hops next later) :
    track.Leads stage hops later := by
  cases stage with
  | arriving depth target recorded =>
    rw [turn] at turned
    split at turned
    · cases turned
    · rename_i granted
      split at turned
      · cases turned
      · exact leads_of_comeTo (Nat.not_lt.1 granted) turned
  | leaving depth step =>
    rw [turn] at turned
    split at turned
    · cases turned
      exact .stand
    · unfold goBy at turned
      split at turned <;> cases turned
      exact .towards
  | passing depth header =>
    rw [turn] at turned
    split at turned
    · cases turned
      exact .unfilled
    · dsimp only at turned
      split at turned <;> cases turned
      · exact .enter
      · exact .skip
  | exiting depth header ending =>
    rw [turn] at turned
    split at turned <;> cases turned
    exact .exit

/-- **Each stage has a lower rank than the one before.** -/
theorem Leads.rank_lt (leads : track.Leads stage hops later) :
    later.rank track.limit < stage.rank track.limit := by
  cases leads with
  | meet granted | advance granted =>
    simp only [Stage.rank]
    omega
  | stand | towards | unfilled | enter | skip | exit =>
    simp only [Stage.rank]
    omega

/-- There is one journey from a stage. -/
theorem Takes.unique (takes : track.Takes state stage stages journey) {others : List Stage}
    {other : Journey} (takes' : track.Takes state stage others other) :
    others = stages ∧ other = journey := by
  induction takes generalizing others other with
  | stop turned =>
    cases takes' with
    | stop turned' =>
      cases turned.symm.trans turned'
      exact ⟨rfl, rfl⟩
    | go turned' => cases turned.symm.trans turned'
  | go turned onward ih =>
    cases takes' with
    | stop turned' => cases turned.symm.trans turned'
    | go turned' onward' =>
      cases turned.symm.trans turned'
      obtain ⟨rfl, rfl⟩ := ih onward'
      exact ⟨rfl, rfl⟩

/-! ## Counting stages -/

/-- **Counting stages.**  If each stage of a kind uses up one of an allowance, which no other stage
renews, a journey has no more of them than allowed. -/
theorem Takes.countP_le (takes : track.Takes state stage stages journey) (kind : Stage → Bool)
    (left : Stage → Nat)
    (goes : ∀ {stage hops later}, track.Leads stage hops later →
      (if kind stage then 1 else 0) + left later ≤ left stage)
    (stops : ∀ stage, (if kind stage then 1 else 0) ≤ left stage) :
    stages.countP kind ≤ left stage := by
  induction takes with
  | @stop state stage journey turned =>
    rw [List.countP_singleton]
    exact stops stage
  | go turned onward ih =>
    rw [List.countP_cons, Nat.add_comm]
    exact (Nat.add_le_add_left ih _).trans (goes (leads_of_turn turned))

/-- A journey has no more stages than the rank of the first allows. -/
theorem Takes.length_le (takes : track.Takes state stage stages journey) :
    stages.length ≤ stage.rank track.limit + 1 := by
  rw [← List.countP_true]
  refine takes.countP_le _ (fun stage => stage.rank track.limit + 1) (fun leads => ?_)
    fun stage => ?_
  · have lower := leads.rank_lt
    rw [if_pos rfl]
    omega
  · rw [if_pos rfl]
    exact Nat.succ_le_succ (Nat.zero_le _)

section Budget

variable {go : RunState → String → Journey} {depth : Nat}

/-- A pass through a header, where the journeys from the next depth are known. -/
theorem takes_passThrough (state : RunState) (header : Step)
    (onward : ∀ next target, ∃ stages,
      track.Takes next (.arriving (depth + 1) target true) stages (go next target)) :
    ∃ stages, track.Takes state (.passing depth header) stages (passThrough go state header) := by
  rw [passThrough]
  cases transitions : header.transitions with
  | nil =>
    have unfilled : track.turn state (.passing depth header) =
        .go [] state (.exiting depth header .noBody) := by
      rw [turn, transitions]
    have ended : track.turn state (.exiting depth header .noBody) =
        .stop (endAt header .noBody state) := by
      rw [turn, transitions]
      rfl
    exact ⟨_, .go unfilled (.stop ended)⟩
  | cons body exits =>
    let pass := header.pass state
    let after := pass.apply header.name state
    have passed : track.turn state (.passing depth header) =
        .go [.pass header.name pass after] after
          (if pass.entersBody then .arriving (depth + 1) body.target true
          else .exiting depth header pass.ending) := by
      rw [turn, transitions]
    dsimp only
    split
    · rename_i enters
      rw [if_pos enters] at passed
      obtain ⟨stages, inside⟩ := onward after body.target
      exact ⟨_, .go passed inside⟩
    · rename_i passes
      rw [if_neg passes] at passed
      cases exits with
      | nil =>
        have ended : track.turn after (.exiting depth header pass.ending) =
            .stop (endAt header pass.ending after) := by
          rw [turn, transitions]
          rfl
        exact ⟨_, .go passed (.stop ended)⟩
      | cons exit more =>
        have left : track.turn after (.exiting depth header pass.ending) =
            .go [] after (.arriving (depth + 1) exit.target true) := by
          rw [turn, transitions]
          rfl
        obtain ⟨stages, behind⟩ := onward after exit.target
        exact ⟨_, .go passed (.go left behind)⟩

/-- Leaving a plain step, where the journeys from the same depth are known. -/
theorem takes_leave (state : RunState) {step : Step} (plain : ¬ step.config.isLoopHeader = true)
    (onward : ∀ next target, ∃ stages,
      track.Takes next (.arriving depth target true) stages (go next target)) :
    ∃ stages, track.Takes state (.leaving depth step) stages (track.leave go state step) := by
  have turned : track.turn state (.leaving depth step) =
      goBy depth state step (step.route track.hooks state) := by
    rw [turn, if_neg plain]
  rw [leave]
  cases route : step.route track.hooks state with
  | towards target =>
    rw [route] at turned
    obtain ⟨stages, arrives⟩ := onward state target
    exact ⟨_, .go turned arrives⟩
  | undecided pending | done | stuck =>
    rw [route] at turned
    exact ⟨_, .stop turned⟩

/-- **The journey that starts with an arrival** is the one that is computed with the budget that the
depth leaves. -/
theorem takes_arrive (track : Track) {budget depth : Nat} (spent : depth + budget = track.budget)
    (state : RunState) (target : String) (recorded : Bool) :
    ∃ stages, track.Takes state (.arriving depth target recorded) stages
      (track.arrive budget state target recorded) := by
  rw [Track.budget] at spent
  induction budget generalizing depth state target recorded with
  | zero =>
    have refused : track.turn state (.arriving depth target recorded) =
        .stop (.stay (.refused (.tooManySteps state.currentStep track.limit))) := by
      rw [turn, if_pos (by omega)]
    exact ⟨_, .stop refused⟩
  | succ budget ih =>
    have granted : ¬ track.limit < depth := by omega
    have onward (next : RunState) (target : String) : ∃ stages,
        track.Takes next (.arriving (depth + 1) target true) stages
          (track.arrive budget next target true) := ih (by omega) next target true
    rw [arrive]
    cases found : track.flow.step? target with
    | none =>
      have lost : track.turn state (.arriving depth target recorded) =
          .stop (.stay (.refused (.missingTarget target))) := by
        rw [turn, if_neg granted, found]
      exact ⟨_, .stop lost⟩
    | some step =>
      have comes : track.turn state (.arriving depth target recorded) =
          comeTo depth recorded state step := by
        rw [turn, if_neg granted, found]
      unfold comeTo at comes
      dsimp only
      split
      · rename_i header
        rw [if_pos header] at comes
        obtain ⟨stages, passes⟩ := takes_passThrough state step onward
        exact ⟨_, .go comes passes⟩
      rename_i plain
      rw [if_neg plain] at comes
      split
      · rename_i ends
        rw [if_pos ends] at comes
        exact ⟨_, .stop comes⟩
      rename_i lasts
      rw [if_neg lasts] at comes
      split
      · rename_i advances
        rw [if_pos advances] at comes
        obtain ⟨stages, leaves⟩ := takes_leave (atStep step state) plain onward
        exact ⟨_, .go comes leaves⟩
      · rename_i stands
        rw [if_neg stands] at comes
        exact ⟨_, .stop comes⟩

/-- **So is the journey that starts with leaving a step.** -/
theorem takes_follow (track : Track) (state : RunState) (step : Step) :
    ∃ stages, track.Takes state (.leaving 0 step) stages (track.follow state step) := by
  rw [follow]
  split
  · rename_i header
    have meets : track.turn state (.leaving 0 step) = .go [] state (.passing 0 step) := by
      rw [turn, if_pos header]
    obtain ⟨stages, passes⟩ := takes_passThrough state step fun next target =>
      track.takes_arrive (Nat.add_comm 1 track.limit) next target true
    exact ⟨_, .go meets passes⟩
  · rename_i plain
    exact takes_leave state plain fun next target =>
      track.takes_arrive (Nat.zero_add track.budget) next target true

end Budget

end Track

/-! ## Operations -/

/-- The operations that let a run set out. -/
def Command.Departs : Command → Prop
  | start _ _ | submit _ | approve _ | skip _ => True
  | _ => False

namespace Engine

variable {e : Engine} {now : Instant} {command : Command} {plan : Plan} {trip : Trip}

/-- A trip goes through its stages, the first of them at no depth. -/
theorem SetsOut.takes (sets : e.SetsOut now command trip) :
    trip.track.limit = e.limits.autoSteps ∧ ∃ stage stages, stage.depth = 0 ∧
      trip.track.Takes trip.start stage stages trip.journey := by
  have outputs (flow : Flow) (state : RunState) (step : Step) (payload : Json.Object) :
      ∃ stage stages, stage.depth = 0 ∧ (e.track flow).Takes
        (withOutput state step (payload.erase Refusal.choiceKey)) stage stages
        (Trip.ofOutput e flow state step payload).journey := by
    show ∃ stage stages, _ ∧ Track.Takes _ _ stage stages (onward _ _ _ _)
    cases choice? payload with
    | none =>
      obtain ⟨stages, takes⟩ := (e.track flow).takes_follow _ step
      exact ⟨_, stages, rfl, takes⟩
    | some target =>
      obtain ⟨stages, takes⟩ := (e.track flow).takes_arrive (Nat.zero_add _) _ target true
      exact ⟨_, stages, rfl, takes⟩
  cases sets with
  | @start definition data flow warnings free loaded =>
    obtain ⟨stages, takes⟩ := (e.track flow).takes_arrive (Nat.zero_add _)
      (.initial flow.name flow.entry data now) flow.entry false
    exact ⟨rfl, _, stages, rfl, takes⟩
  | submit live running records loaded filed => exact ⟨rfl, outputs _ _ _ _⟩
  | approve live waiting records loaded filed => exact ⟨rfl, outputs _ _ _ _⟩
  | @skip reason state flow step live active bound filed =>
    obtain ⟨stages, takes⟩ := (e.track flow).takes_follow { state with status := .running } step
    exact ⟨rfl, _, stages, rfl, takes⟩

/-- An operation that lets the run set out saves the state from which it does, writes no rows of
moves but those of the trip, and answers how the trip ends. -/
theorem Does.exists_trip (does : e.Does now command plan) (departs : command.Departs) :
    ∃ trip writes, e.SetsOut now command trip ∧ plan.writes = writes ++ trip.journey.writes ∧
      (writes.filterMap Write.saved?).getLast? = some trip.start ∧
      (plan.outcome = trip.journey.outcome ∨
        ∃ name, plan.outcome = .started name trip.journey.outcome) ∧
      Write.Keep writes ∧ Note.moves (Write.notes writes) = [] := by
  cases does with
  | start free loaded =>
    exact ⟨_, [.live _, .record _ _ .start none], .start free loaded, rfl, rfl, .inr ⟨_, rfl⟩,
      by simp, rfl⟩
  | submit live running records =>
    obtain ⟨flow, step, writes, loaded, filed, written, last, answered, quiet⟩ :=
      records.exists_trip
    exact ⟨_, writes, .submit live running records loaded filed, written, last, .inl answered,
      quiet⟩
  | approve live waiting records =>
    obtain ⟨flow, step, writes, loaded, filed, written, last, answered, quiet⟩ :=
      records.exists_trip
    exact ⟨_, writes, .approve live waiting records loaded filed, written, last, .inl answered,
      quiet⟩
  | skip live active bound filed =>
    exact ⟨_, _, .skip live active bound filed, rfl, rfl, .inl rfl, by simp, rfl⟩
  | _ => exact absurd departs id

end Engine

end Runbook
