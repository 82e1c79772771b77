import Mathlib.Data.List.Forall2
import Runbook.Engine.Report
import Runbook.Proofs.Engine.Operations
import Runbook.Proofs.Flow.Accepted

/-!
# Sessions

A run outlives the engine that began it.  Between two operations another definition may be loaded,
other hooks may become known, and a later session may open the store with hooks and limits of its
own.  What is said about a run over its whole life is said about all of that, in any order.

## Main definitions

* `Event`: what may happen to an engine
* `Engine.through`, `Engine.replies`: the engine after some events, and what its operations answered
* `Engine.opening`: the engine of a session that opens a store
* `Engine.Vetted`: the loaded flow, if there is one, is accepted

## Main statements

* `Engine.Vetted.through`: an engine only ever has accepted flows loaded
* `Engine.through_induction`: what each operation keeps of the store, a session keeps
* `Engine.through_pairwise`: what each pair of events keeps between two engines, two sessions keep
* `Engine.report_of_current`, `Engine.exists_report_eq`: the report on a run whose flow is loaded

## Design notes

Looking at a run changes nothing, so it is no event.  Of the events only operations touch the store;
the others are about the flow, the hooks and the limits.  That is why the induction asks about
operations only, and lets them start from any engine that is vetted.
-/

namespace Runbook

/-- What may happen to an engine. -/
inductive Event where
  /-- An operation is carried out. -/
  | operate (now : Instant) (command : Command)
  /-- A definition is loaded, if it can be. -/
  | load (definition : String)
  /-- Other hooks become known. -/
  | equip (hooks : Registry)
  /-- A later session opens the store. -/
  | reopen (hooks : Registry) (limits : Limits)

namespace Event

/-- The engine after an event. -/
def apply (e : Engine) : Event → Engine
  | operate now command => (e.execute now command).1
  | load definition =>
    match e.load definition with
    | .ok (loaded, _) => loaded
    | .error _ => e
  | equip hooks => { e with hooks }
  | reopen hooks limits => { e.reopen hooks with limits }

/-- What is answered, if the event is an operation. -/
def answer? (e : Engine) : Event → Option Outcome
  | operate now command => some (e.execute now command).2
  | _ => none

end Event

namespace Engine

/-- The engine of a session that opens a store. -/
def opening (store : Store) (hooks : Registry) (limits : Limits) : Engine :=
  ⟨store, hooks, limits, none⟩

/-- The engine after some events, the first one first. -/
def through (e : Engine) (events : List Event) : Engine := events.foldl Event.apply e

/-- What the operations among some events answer. -/
def replies (e : Engine) : List Event → List Outcome
  | [] => []
  | event :: events => (event.answer? e).toList ++ replies (event.apply e) events

@[simp] theorem through_nil (e : Engine) : e.through [] = e := rfl

@[simp] theorem through_cons (e : Engine) (event : Event) (events : List Event) :
    e.through (event :: events) = (event.apply e).through events := rfl

@[simp] theorem replies_cons (e : Engine) (event : Event) (events : List Event) :
    e.replies (event :: events) = (event.answer? e).toList ++ (event.apply e).replies events := rfl

/-! ## Which flows are loaded -/

/-- A definition that can be loaded becomes an accepted flow, and nothing else changes. -/
theorem load_eq_ok {e loaded : Engine} {definition : String} {warnings : List Diagnostic} :
    e.load definition = .ok (loaded, warnings) ↔
      ∃ flow, compile definition = .ok (flow, warnings) ∧
        loaded = { e with flow := some flow } := by
  unfold load
  cases compiled : compile definition with
  | error fault => exact ⟨nofun, nofun⟩
  | ok result =>
    obtain ⟨flow, found⟩ := result
    constructor
    · intro same
      obtain ⟨rfl, rfl⟩ := Prod.mk.inj (Except.ok.inj same)
      exact ⟨flow, rfl, rfl⟩
    · rintro ⟨flow', same, rfl⟩
      obtain ⟨rfl, rfl⟩ := Prod.mk.inj (Except.ok.inj same)
      rfl

/-- Loading a definition binds an accepted flow, or nothing. -/
theorem apply_load (e : Engine) (definition : String) :
    (Event.load definition).apply e = e ∨
      ∃ flow : Flow, flow.Accepted ∧
        (Event.load definition).apply e = { e with flow := some flow } := by
  cases read : e.load definition with
  | error fault => exact .inl (by simp only [Event.apply, read])
  | ok result =>
    obtain ⟨loaded, warnings⟩ := result
    obtain ⟨flow, compiled, rfl⟩ := load_eq_ok.1 read
    exact .inr ⟨flow, ⟨definition, warnings, compiled⟩, by simp only [Event.apply, read]⟩

/-- The loaded flow, if there is one, is accepted. -/
def Vetted (e : Engine) : Prop := ∀ flow, e.flow = some flow → flow.Accepted

theorem vetted_opening (store : Store) (hooks : Registry) (limits : Limits) :
    (opening store hooks limits).Vetted := nofun

/-- The flow of a run is the loaded one. -/
theorem flow_of_flowOf {e : Engine} {state : RunState} {flow : Flow}
    (bound : e.flowOf state = .ok flow) : e.flow = some flow := by
  unfold flowOf at bound
  split at bound
  · cases bound
  · rename_i found loaded
    split at bound
    · rw [loaded, Except.ok.inj bound]
    · cases bound

/-- Whoever records an output has the flow of the run loaded. -/
theorem Records.exists_flow {e : Engine} {state : RunState} {payload : Json.Object}
    {approving : Bool} {plan : Plan} (records : e.Records state payload approving plan) :
    ∃ flow, e.flow = some flow := by
  obtain @⟨flow, _, _, bound⟩ := records
  exact ⟨flow, flow_of_flowOf bound⟩

/-- Only the beginning of a run binds a flow, and it binds the one of its definition. -/
theorem Does.exists_start {e : Engine} {now : Instant} {command : Command} {plan : Plan}
    (does : e.Does now command plan) {flow : Flow} (binds : plan.binds = some flow) :
    ∃ definition data warnings, command = .start definition data ∧
      compile definition = .ok (flow, warnings) := by
  cases does with
  | start free loaded =>
    obtain rfl := Option.some.inj binds
    exact ⟨_, _, _, rfl, loaded⟩
  | submit live running records =>
    obtain ⟨⟩ := records
    cases binds
  | approve live waiting records =>
    obtain ⟨⟩ := records
    cases binds
  | _ => cases binds

/-- A plan binds no flow but an accepted one. -/
theorem Does.accepted_of_binds {e : Engine} {now : Instant} {command : Command} {plan : Plan}
    (does : e.Does now command plan) {flow : Flow} (binds : plan.binds = some flow) :
    flow.Accepted := by
  obtain ⟨definition, -, warnings, -, loaded⟩ := does.exists_start binds
  exact ⟨definition, warnings, loaded⟩

namespace Vetted

variable {e : Engine}

theorem execute (vetted : e.Vetted) (now : Instant) (command : Command) :
    (e.execute now command).1.Vetted := by
  rcases execute_cases e now command with ⟨why, same, -⟩ | ⟨plan, does, same⟩
  · rw [same]
    exact vetted
  · rw [same]
    intro flow loaded
    rcases Option.or_eq_some_iff.1 loaded with binds | ⟨-, before⟩
    · exact does.accepted_of_binds binds
    · exact vetted flow before

theorem apply (vetted : e.Vetted) (event : Event) : (event.apply e).Vetted := by
  cases event with
  | operate now command => exact vetted.execute now command
  | load definition =>
    rcases apply_load e definition with same | ⟨flow, accepted, same⟩
    · rw [same]
      exact vetted
    · rw [same]
      intro found loaded
      exact Option.some.inj loaded ▸ accepted
  | equip hooks => exact vetted
  | reopen hooks limits => exact nofun

/-- **An engine only ever has accepted flows loaded.** -/
theorem through (vetted : e.Vetted) (events : List Event) : (e.through events).Vetted := by
  induction events generalizing e with
  | nil => exact vetted
  | cons event events ih => exact ih (vetted.apply event)

/-- The loaded flow is sound. -/
theorem sound (vetted : e.Vetted) {flow : Flow} (loaded : e.flow = some flow) : flow.Sound :=
  (vetted flow loaded).sound

end Vetted

/-! ## What sessions keep -/

/-- Only operations touch the store. -/
theorem store_apply (e : Engine) {event : Event} (other : event.answer? e = none) :
    (event.apply e).store = e.store := by
  cases event with
  | operate now command => cases other
  | load definition =>
    rcases apply_load e definition with same | ⟨flow, -, same⟩
    · rw [same]
    · rw [same]
  | equip hooks => rfl
  | reopen hooks limits => rfl

/-- What each operation of a kind keeps of the store, as long as it answers in a certain way, a
session with such operations keeps. -/
theorem through_induction (holds : Store → Prop) (permitted : Command → Prop)
    (expected : Outcome → Prop)
    (step : ∀ (e : Engine) (now : Instant) (command : Command), e.Vetted → holds e.store →
      permitted command → expected (e.execute now command).2 →
      holds (e.execute now command).1.store)
    {events : List Event}
    (allowed : ∀ now command, .operate now command ∈ events → permitted command) (e : Engine)
    (answered : ∀ answer ∈ e.replies events, expected answer) (vetted : e.Vetted)
    (start : holds e.store) : holds (e.through events).store := by
  induction events generalizing e with
  | nil => exact start
  | cons event events ih =>
    rw [replies_cons, List.forall_mem_append] at answered
    refine ih (fun now command member => allowed now command (List.mem_cons_of_mem _ member)) _
      answered.2 (vetted.apply event) ?_
    cases event with
    | operate now command =>
      exact step e now command vetted start (allowed now command List.mem_cons_self)
        (answered.1 _ (List.mem_singleton.2 rfl))
    | _ =>
      rw [store_apply e rfl]
      exact start

/-- What each pair of events keeps between two engines, two sessions keep that run in lock step, and
if each pair is answered the same, the sessions are. -/
theorem through_pairwise (agree : Engine → Engine → Prop) (alike : Event → Event → Prop)
    (step : ∀ e e' event event', agree e e' → alike event event' →
      event.answer? e = event'.answer? e' ∧ agree (event.apply e) (event'.apply e'))
    {events events' : List Event} (pairs : List.Forall₂ alike events events') {e e' : Engine}
    (start : agree e e') :
    e.replies events = e'.replies events' ∧ agree (e.through events) (e'.through events') := by
  induction pairs generalizing e e' with
  | nil => exact ⟨rfl, start⟩
  | cons pair _ ih =>
    obtain ⟨answers, after⟩ := step _ _ _ _ start pair
    obtain ⟨replies, agree⟩ := ih after
    exact ⟨by rw [replies_cons, replies_cons, answers, replies], agree⟩

/-! ## Looking at a run -/

/-- The report on a run whose flow is loaded, if its newest row can be read. -/
theorem report_of_current {e : Engine} {state : RunState} {flow : Flow}
    (live : e.current = .ok (some state)) (bound : e.flowOf state = .ok flow) (now : Instant) :
    e.report now = (fun entries =>
      some (.build flow state entries.head? (e.currentHook? flow state) now)) <$>
        e.history (some 1) := by
  unfold report
  simp only [live, bind, Except.bind, bound]
  cases e.history (some 1) <;> rfl

/-- There is none on a run whose row cannot be read. -/
theorem report_of_fault {e : Engine} {fault : RunFault} (unread : e.current = .error fault)
    (now : Instant) : e.report now = .error fault := by
  unfold report
  rw [unread]
  rfl

/-- If there is a report on a run whose flow is loaded, it is about that run. -/
theorem exists_report_eq {e : Engine} {state : RunState} {flow : Flow} {now : Instant}
    {report : Report} (live : e.current = .ok (some state)) (bound : e.flowOf state = .ok flow)
    (told : e.report now = .ok (some report)) :
    ∃ last, report = .build flow state last (e.currentHook? flow state) now := by
  rw [report_of_current live bound] at told
  cases read : e.history (some 1) with
  | error fault =>
    rw [read] at told
    cases told
  | ok entries =>
    rw [read] at told
    exact ⟨entries.head?, (Option.some.inj (Except.ok.inj told)).symm⟩

end Engine

end Runbook
