import Runbook.Proofs.Run.Loops

/-!
# Raising the limit on arrivals

The limit says how many arrivals may follow one another, and nothing else looks at it.  So a run that
comes to an end within a limit comes to the same end within any higher one, by the same hops.  A run
that gives up has made the first hops of the run that a higher limit lets go on.

## Main definitions

* `Engine.limitedTo`: the engine with another limit on arrivals
* `Journey.Extends`: the other journey is the same, or goes on where this one gives up
* `Plan.Extends`, `Engine.Prolongs`: the same of plans, and of what is decided

## Main statements

* `Track.extends_arrive`, `Track.extends_follow`: journeys with more arrivals extend those with fewer
* `Engine.plan_prolongs`: what an operation is going to do extends what it would do within less
* `Engine.execute_raised`: an operation within the limit is the same under any higher one

## Design notes

Both cases are carried through the recursion at once.  A journey that gives up inside another one
makes the outer one give up too, so neither case can be had without the other.

Flows do not have to be accepted for this: a transition that dangles is met under any limit that
lets the run come to it.
-/

namespace Runbook

/-! ## Journeys -/

namespace Journey

/-- The other journey is the same, or this one gives up and the other one goes on from there. -/
def Extends (short long : Journey) : Prop :=
  long = short ∨ short.outcome.HitsLimit ∧ short.hops <+: long.hops

theorem Extends.refl (journey : Journey) : journey.Extends journey := .inl rfl

/-- A hop in front of both changes nothing. -/
theorem Extends.after {short long : Journey} (hop : Hop) (ext : short.Extends long) :
    (after hop short).Extends (after hop long) := by
  rcases ext with rfl | ⟨hits, more⟩
  · exact .refl _
  · refine .inr ⟨hits, ?_⟩
    rw [hops_after, hops_after, List.prefix_cons_inj]
    exact more

/-- What the longer journey writes more does not forget the run. -/
theorem Extends.exists_writes {short long : Journey} (ext : short.Extends long) :
    long = short ∨
      short.outcome.HitsLimit ∧ ∃ more, Write.Keep more ∧ long.writes = short.writes ++ more := by
  rcases ext with same | ⟨hits, hops, parts⟩
  · exact .inl same
  · refine .inr ⟨hits, hops.flatMap Hop.writes, ?_, ?_⟩
    · exact (Journey.mk hops long.outcome).keep_writes
    · rw [writes, ← parts, List.flatMap_append]
      rfl

end Journey

namespace Track

variable {track : Track} {go longer : RunState → String → Journey}

/-- The track with another limit. -/
def limitedTo (track : Track) (limit : Nat) : Track := { track with limit }

@[simp] theorem flow_limitedTo (track : Track) (limit : Nat) :
    (track.limitedTo limit).flow = track.flow := rfl

theorem extends_passThrough (onward : ∀ next target, (go next target).Extends (longer next target))
    (state : RunState) (header : Step) :
    (passThrough go state header).Extends (passThrough longer state header) := by
  unfold passThrough
  split
  · exact .refl _
  · refine .after _ ?_
    split
    · exact onward _ _
    · split
      · exact onward _ _
      · exact .refl _

theorem extends_leave (onward : ∀ next target, (go next target).Extends (longer next target))
    (limit raised : Nat) (state : RunState) (step : Step) :
    ((track.limitedTo limit).leave go state step).Extends
      ((track.limitedTo raised).leave longer state step) := by
  -- which way the run goes is up to the hooks, and they are the same
  show Journey.Extends (leave _ go state step) (leave (track.limitedTo limit) longer state step)
  unfold leave
  split
  · exact onward _ _
  · exact .refl _
  · exact .refl _
  · exact .refl _

/-- **A journey with more arrivals extends one with fewer.** -/
theorem extends_arrive (track : Track) (limit raised : Nat) {budget more : Nat}
    (le : budget ≤ more) (state : RunState) (target : String) (recorded : Bool) :
    ((track.limitedTo limit).arrive budget state target recorded).Extends
      ((track.limitedTo raised).arrive more state target recorded) := by
  induction budget generalizing more state target recorded with
  | zero => exact .inr ⟨trivial, List.nil_prefix⟩
  | succ budget ih =>
    obtain ⟨more, rfl⟩ := Nat.exists_eq_add_one_of_ne_zero (Nat.ne_of_gt (Nat.zero_lt_of_lt le))
    have onward (next : RunState) (target : String) :
        ((track.limitedTo limit).arrive budget next target true).Extends
          ((track.limitedTo raised).arrive more next target true) :=
      ih (Nat.le_of_succ_le_succ le) next target true
    rw [arrive, arrive, flow_limitedTo, flow_limitedTo]
    cases track.flow.step? target with
    | none => exact .refl _
    | some step =>
      dsimp only
      split
      · exact extends_passThrough onward state step
      split
      · exact .refl _
      refine .after _ ?_
      split
      · exact extends_leave onward limit raised _ step
      · exact .refl _

/-- **So does one that starts with leaving a step.** -/
theorem extends_follow (track : Track) {limit raised : Nat} (le : limit ≤ raised) (state : RunState)
    (step : Step) :
    ((track.limitedTo limit).follow state step).Extends
      ((track.limitedTo raised).follow state step) := by
  unfold follow
  split
  · exact extends_passThrough
      (fun next target => track.extends_arrive limit raised le next target true) state step
  · refine extends_leave (fun next target => ?_) limit raised state step
    exact track.extends_arrive limit raised (Nat.succ_le_succ le) next target true

/-- The journey after an output, along the flow or to the step that the output names. -/
theorem extends_onward (track : Track) {limit raised : Nat} (le : limit ≤ raised) (state : RunState)
    (step : Step) (choice : Option String) :
    (Engine.onward (track.limitedTo limit) state step choice).Extends
      (Engine.onward (track.limitedTo raised) state step choice) := by
  cases choice with
  | none => exact track.extends_follow le state step
  | some target =>
    exact track.extends_arrive limit raised (Nat.succ_le_succ le) state target true

end Track

/-! ## Plans -/

namespace Plan

/-- The other plan is the same, or the run gives up in this one and goes on from there in the other
one. -/
def Extends (short long : Plan) : Prop :=
  long = short ∨
    short.outcome.HitsLimit ∧ long.binds = short.binds ∧
      ∃ more, Write.Keep more ∧ long.writes = short.writes ++ more

theorem Extends.refl (plan : Plan) : plan.Extends plan := .inl rfl

/-- A plan that writes the same and then goes on a longer journey. -/
theorem Extends.travel {short long : Journey} (ext : short.Extends long) (writes : List Write) :
    (Plan.travel writes short).Extends (.travel writes long) := by
  rcases ext.exists_writes with rfl | ⟨hits, more, keeps, written⟩
  · exact .refl _
  · refine .inr ⟨hits, rfl, more, keeps, ?_⟩
    show writes ++ long.writes = writes ++ short.writes ++ more
    rw [written, List.append_assoc]

/-- A plan that begins a run, and then goes on a longer journey. -/
theorem Extends.depart {short long : Journey} (ext : short.Extends long) (binds : Option Flow)
    (flowName : String) (own : List Write) :
    (Plan.mk binds (own ++ short.writes) (.started flowName short.outcome)).Extends
      ⟨binds, own ++ long.writes, .started flowName long.outcome⟩ := by
  rcases ext.exists_writes with rfl | ⟨hits, more, keeps, written⟩
  · exact .refl _
  · refine .inr ⟨hits, rfl, more, keeps, ?_⟩
    show own ++ long.writes = own ++ short.writes ++ more
    rw [written, List.append_assoc]

end Plan

namespace Engine

/-- The engine with another limit on arrivals. -/
def limitedTo (e : Engine) (limit : Nat) : Engine :=
  { e with limits := { e.limits with autoSteps := limit } }

@[simp] theorem flowOf_limitedTo (e : Engine) (limit : Nat) (state : RunState) :
    (e.limitedTo limit).flowOf state = e.flowOf state := rfl

@[simp] theorem hooks_limitedTo (e : Engine) (limit : Nat) : (e.limitedTo limit).hooks = e.hooks :=
  rfl

@[simp] theorem archiveWrites_limitedTo (e : Engine) (limit : Nat) (step : String)
    (payload : Json.Object) :
    (e.limitedTo limit).archiveWrites step payload = e.archiveWrites step payload := rfl

/-- Two decisions, of which the second one is at fault like the first one or extends it. -/
inductive Prolongs : Except RunFault Plan → Except RunFault Plan → Prop where
  | fault (fault : RunFault) : Prolongs (.error fault) (.error fault)
  | plan {short long : Plan} (ext : short.Extends long) : Prolongs (.ok short) (.ok long)

theorem Prolongs.refl (decision : Except RunFault Plan) : Prolongs decision decision := by
  cases decision with
  | error fault => exact .fault fault
  | ok plan => exact .plan (.refl plan)

variable {limit raised : Nat}

/-- A plan that records an output. -/
theorem planOutput_extends (e : Engine) (le : limit ≤ raised) (state : RunState)
    (payload : Json.Object) (approving : Bool) :
    ((e.limitedTo limit).planOutput state payload approving).Extends
      ((e.limitedTo raised).planOutput state payload approving) := by
  unfold planOutput onFlow
  -- everything that can be in the way of the output is the same under both limits
  simp only [flowOf_limitedTo, hooks_limitedTo, archiveWrites_limitedTo]
  cases e.flowOf state with
  | error why => exact .refl _
  | ok flow =>
    dsimp only
    cases flow.step? state.currentStep with
    | none => exact .refl _
    | some step =>
      dsimp only
      split
      · exact .refl _
      cases complaint? e.hooks step.name (payload.erase Refusal.choiceKey) with
      | some reason => exact .refl _
      | none =>
        dsimp only
        cases e.archiveWrites step.name (payload.erase Refusal.choiceKey) with
        | error fault => exact .refl _
        | ok archive => exact .travel ((e.track flow).extends_onward le _ step _) _

/-- A plan that skips a step. -/
theorem planSkip_extends (e : Engine) (le : limit ≤ raised) (reason : Option String)
    (state : RunState) :
    ((e.limitedTo limit).planSkip reason state).Extends
      ((e.limitedTo raised).planSkip reason state) := by
  have leaves (flow : Flow) (own : List Write) (step : Step) :
      (Plan.travel own (((e.limitedTo limit).track flow).follow
        { state with status := .running } step)).Extends
      (.travel own (((e.limitedTo raised).track flow).follow
        { state with status := .running } step)) :=
    .travel ((e.track flow).extends_follow le _ step) own
  unfold planSkip onFlow
  split
  · exact .refl _
  · exact .refl _
  all_goals
    rw [flowOf_limitedTo, flowOf_limitedTo]
    cases e.flowOf state with
    | error why => exact .refl _
    | ok flow =>
      dsimp only
      cases flow.step? state.currentStep with
      | none => exact .refl _
      | some step => exact leaves flow _ step

/-- A plan that begins a run. -/
theorem planStart_prolongs (e : Engine) (le : limit ≤ raised) (now : Instant) (definition : String)
    (data : Json.Object) :
    Prolongs ((e.limitedTo limit).planStart now definition data)
      ((e.limitedTo raised).planStart now definition data) := by
  unfold planStart
  show Prolongs (e.current >>= _) (e.current >>= _)
  cases e.current with
  | error fault => exact .fault fault
  | ok previous =>
    simp only [bind, Except.bind]
    split
    · exact .refl _
    · cases compile definition with
      | error fault => exact .fault fault
      | ok result =>
        obtain ⟨flow, warnings⟩ := result
        refine .plan (.depart ?_ (some flow) flow.name
          [.live _, .record flow.name flow.entry .start none])
        exact (e.track flow).extends_arrive limit raised (Nat.succ_le_succ le) _ flow.entry false

/-- An operation on the run. -/
theorem onRun_prolongs (e : Engine) {decide decide' : RunState → Except RunFault Plan}
    (decides : ∀ state, Prolongs (decide state) (decide' state)) :
    Prolongs ((e.limitedTo limit).onRun decide) ((e.limitedTo raised).onRun decide') := by
  unfold onRun
  show Prolongs (e.current >>= _) (e.current >>= _)
  cases e.current with
  | error fault => exact .fault fault
  | ok previous =>
    cases previous with
    | none => exact .refl _
    | some state => exact decides state

/-- **What an operation is going to do extends what it would do within a lower limit.** -/
theorem plan_prolongs (e : Engine) (le : limit ≤ raised) (now : Instant) (command : Command) :
    Prolongs ((e.limitedTo limit).plan now command) ((e.limitedTo raised).plan now command) := by
  cases command with
  | start definition data => exact e.planStart_prolongs le now definition data
  | submit payload =>
    refine e.onRun_prolongs fun state => .plan ?_
    unfold planSubmit
    split
    · exact .refl _
    · exact .refl _
    · exact .refl _
    · exact e.planOutput_extends le state payload false
  | approve payload =>
    refine e.onRun_prolongs fun state => .plan ?_
    unfold planApprove
    split
    · exact e.planOutput_extends le state payload true
    · exact .refl _
  | skip reason => exact e.onRun_prolongs fun state => .plan (e.planSkip_extends le reason state)
  | _ => exact .refl _

/-- **Raising the limit on arrivals changes nothing for an operation that stays within it.**  It
answers the same and leaves the same store and the same flow behind.  And an operation that gives up
has noted what comes first under the higher limit too: what that lets the run do more comes after
it. -/
theorem execute_raised (e : Engine) (le : limit ≤ raised) (now : Instant) (command : Command) :
    (¬ ((e.limitedTo limit).execute now command).2.HitsLimit →
      (e.limitedTo raised).execute now command =
        (((e.limitedTo limit).execute now command).1.limitedTo raised,
          ((e.limitedTo limit).execute now command).2)) ∧
    ∃ more, ((e.limitedTo raised).execute now command).1.store.notes =
      more ++ ((e.limitedTo limit).execute now command).1.store.notes := by
  unfold execute perform
  have prolongs := e.plan_prolongs le now command
  generalize (e.limitedTo limit).plan now command = lower at prolongs
  generalize (e.limitedTo raised).plan now command = higher at prolongs
  cases prolongs with
  | fault fault => exact ⟨fun _ => rfl, [], rfl⟩
  | @plan short long ext =>
    rcases ext with rfl | ⟨hits, -, more, keeps, written⟩
    · exact ⟨fun _ => rfl, [], rfl⟩
    · refine ⟨fun within => absurd hits within, Write.notes more, ?_⟩
      show (e.store.applyAll now long.writes).notes =
        Write.notes more ++ (e.store.applyAll now short.writes).notes
      rw [written, Store.applyAll_append, Store.notes_applyAll now _ keeps]

/-- A run of `Flow.loopText` that has just begun. -/
def begun : Engine := (Engine.new .empty {}).after (intoLoop.take 1)

/-- From the first step to the first one in the loop it takes two arrivals.  One that may follow
another is enough for that, and then a hundred make no difference. -/
theorem execute_raised_begun :
    ((begun.limitedTo 0).execute ⟨0⟩ (.submit [])).2 = .refused (.tooManySteps "a" 0) ∧
      ((begun.limitedTo 1).execute ⟨0⟩ (.submit [])).2 = .arrived "b" ∧
      (begun.limitedTo 100).execute ⟨0⟩ (.submit []) =
        (((begun.limitedTo 1).execute ⟨0⟩ (.submit [])).1.limitedTo 100, .arrived "b") := by
  obtain ⟨gaveUp, arrived⟩ :
      ((begun.limitedTo 0).execute ⟨0⟩ (.submit [])).2 = .refused (.tooManySteps "a" 0) ∧
        ((begun.limitedTo 1).execute ⟨0⟩ (.submit [])).2 = .arrived "b" := by
    rw [begun, intoLoop, List.take_succ_cons, after_cons,
      execute_start (free_of_empty rfl) _ Flow.compile_loopText]
    cbv
  have within : ¬ ((begun.limitedTo 1).execute ⟨0⟩ (.submit [])).2.HitsLimit := by
    rw [arrived]
    exact id
  have same := (execute_raised begun (by decide : 1 ≤ 100) ⟨0⟩ (.submit [])).1 within
  rw [arrived] at same
  exact ⟨gaveUp, arrived, same⟩

end Engine

end Runbook
