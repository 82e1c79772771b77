import Runbook.Proofs.Engine.Session

/-!
# Mentioned hooks

A registry is consulted in three places: when an output is recorded, for the check and the archive
of the step; when a run leaves a plain step, for each of its guards that is left to a hook; and in a
report, for the hook of the current step.  Each of them asks for a name that the flow mentions, so a
run reads a registry at those names only.

## Main definitions

* `Registry.referent`: the name that a guard refers to
* `Flow.mentioned`: the names that a flow mentions
* `Registry.AgreeOn`: two registries with the same hooks under those names
* `Event.AgreeOn`: what happens is the same, but for such registries

## Main statements

* `Step.route_congr`: a step reads a registry at the names that its guards refer to
* `Track.arrive_equipped`, `Track.follow_equipped`: so does a journey, however long it is
* `Engine.plan_equipped`: what an operation is going to do
* `Engine.sessions_agreeOn`: sessions with such registries cannot be told apart

## Design notes

Steps name themselves when they ask for their hooks, and a flow mentions the names that its steps
are filed under.  In an accepted flow these are the same names, and this is all that acceptance is
needed for.  A guard is asked for only when a run leaves its step, so a flow mentions more than any
one run asks for.
-/

namespace Runbook

/-! ## Names of hooks -/

namespace Registry

/-- The name that a guard refers to: the condition without blanks around it and marks in front. -/
def referent (condition : String) : String :=
  String.ofList ((Text.trim condition.toList).dropWhile (· == '@'))

theorem guard?_eq (hooks : Registry) (condition : String) :
    hooks.guard? condition = hooks.hook? (referent condition) := rfl

end Registry

/-- The name that the guard of a transition refers to, if it is left to a hook. -/
def Transition.referent? (t : Transition) : Option String :=
  t.condition.bind fun condition =>
    if Guard.Kind.ofChars condition.toList = .capability then some (Registry.referent condition)
    else none

/-- The names that the guards of a step refer to. -/
def Step.referents (step : Step) : List String := step.transitions.filterMap Transition.referent?

namespace Flow

/-- The names that a flow mentions: those of its steps, and those that its guards refer to. -/
def mentioned (flow : Flow) : List String :=
  flow.stepNames ++ flow.steps.values.flatMap Step.referents

variable {flow : Flow} {name : String}

theorem mem_mentioned_of_contains (known : flow.contains name = true) : name ∈ flow.mentioned :=
  List.mem_append_left _ ((Dict.contains_iff _ _).1 known)

theorem mem_mentioned_of_referents {filed : String} {step : Step}
    (found : flow.step? filed = some step) (refers : name ∈ step.referents) :
    name ∈ flow.mentioned :=
  List.mem_append_right _ (List.mem_flatMap.2 ⟨step, mem_values_of_step? found, refers⟩)

end Flow

namespace Registry

/-- The registries have the same hooks under the names that a flow mentions. -/
def AgreeOn (hooks others : Registry) (flow : Flow) : Prop :=
  ∀ name ∈ flow.mentioned, hooks.hook? name = others.hook? name

variable {hooks others : Registry} {flow : Flow}

/-- One more hook changes nothing under the mentioned names, unless its name is one of them. -/
theorem agreeOn_insert (hooks : Registry) {hook : Hook} (silent : hook.name ∉ flow.mentioned) :
    hooks.AgreeOn (hooks.insert hook.name hook) flow := by
  intro name mentioned
  have other : ¬ hook.name = name := fun same => silent (same ▸ mentioned)
  rw [hook?, hook?, Dict.get?_insert, if_neg other]

/-- Neither does one hook less. -/
theorem agreeOn_erase (hooks : Registry) {gone : String} (silent : gone ∉ flow.mentioned) :
    hooks.AgreeOn (hooks.erase gone) flow := by
  intro name mentioned
  have other : ¬ gone = name := fun same => silent (same ▸ mentioned)
  rw [hook?, hook?, Dict.get?_erase, if_neg other]

end Registry

/-! ## Journeys -/

section Congruence

variable {hooks others : Registry}

/-- A guard reads a registry at the name that it refers to. -/
theorem Transition.fires_congr {t : Transition}
    (agree : ∀ name, t.referent? = some name → hooks.hook? name = others.hook? name)
    (state : RunState) : t.fires others state = t.fires hooks state := by
  obtain ⟨target, condition⟩ := t
  cases condition with
  | none => rfl
  | some condition =>
    show others.decides state condition = hooks.decides state condition
    unfold Registry.decides
    cases kind : Guard.Kind.ofChars condition.toList with
    | capability =>
      have same := agree (Registry.referent condition) (by simp [referent?, kind])
      simp only [Registry.permits, Registry.guard?_eq, same]
    | expression => rfl
    | deferred => rfl

/-- **A step reads a registry at the names that its guards refer to.** -/
theorem Step.route_congr {step : Step}
    (agree : ∀ name ∈ step.referents, hooks.hook? name = others.hook? name) (state : RunState) :
    step.route others state = step.route hooks state := by
  have fires : step.transitions.find? (Transition.fires others state) =
      step.transitions.find? (Transition.fires hooks state) :=
    List.find?_congr fun t member => Transition.fires_congr
      (fun name refers => agree name (List.mem_filterMap.2 ⟨t, member, refers⟩)) state
  unfold route
  rw [fires]

end Congruence

namespace Track

/-- The track with other hooks. -/
def equipped (track : Track) (hooks : Registry) : Track := { track with hooks }

@[simp] theorem flow_equipped (track : Track) (hooks : Registry) :
    (track.equipped hooks).flow = track.flow := rfl

@[simp] theorem hooks_equipped (track : Track) (hooks : Registry) :
    (track.equipped hooks).hooks = hooks := rfl

variable {track : Track} {others : Registry}

theorem leave_equipped (agree : track.hooks.AgreeOn others track.flow) {name : String} {step : Step}
    (filed : track.flow.step? name = some step) (go : RunState → String → Journey)
    (state : RunState) :
    (track.equipped others).leave go state step = track.leave go state step := by
  have routes : step.route others state = step.route track.hooks state :=
    Step.route_congr (fun name refers =>
      agree name (Flow.mem_mentioned_of_referents filed refers)) state
  unfold leave
  rw [hooks_equipped, routes]

/-- **A journey reads a registry at the mentioned names**, however many steps it takes by itself. -/
theorem arrive_equipped (agree : track.hooks.AgreeOn others track.flow) (budget : Nat)
    (state : RunState) (target : String) (recorded : Bool) :
    (track.equipped others).arrive budget state target recorded =
      track.arrive budget state target recorded := by
  induction budget generalizing state target recorded with
  | zero => rfl
  | succ budget ih =>
    have onward : (fun state target => (track.equipped others).arrive budget state target true) =
        fun state target => track.arrive budget state target true :=
      funext fun state => funext fun target => ih state target true
    rw [arrive, arrive, onward, flow_equipped]
    cases filed : track.flow.step? target with
    | none => rfl
    | some step =>
      dsimp only
      rw [leave_equipped agree filed]

theorem enter_equipped (agree : track.hooks.AgreeOn others track.flow) (state : RunState)
    (target : String) (recorded : Bool) :
    (track.equipped others).enter state target recorded = track.enter state target recorded :=
  arrive_equipped agree track.budget state target recorded

/-- **So does one that starts with leaving a step.** -/
theorem follow_equipped (agree : track.hooks.AgreeOn others track.flow) {name : String}
    {step : Step} (filed : track.flow.step? name = some step) (state : RunState) :
    (track.equipped others).follow state step = track.follow state step := by
  have onward (budget : Nat) :
      (fun state target => (track.equipped others).arrive budget state target true) =
        fun state target => track.arrive budget state target true :=
    funext fun state => funext fun target => arrive_equipped agree budget state target true
  unfold follow enter
  rw [leave_equipped agree filed]
  split
  · exact congrArg (passThrough · state step) (onward track.limit)
  · exact congrArg (track.leave · state step) (onward track.budget)

theorem onward_equipped (agree : track.hooks.AgreeOn others track.flow) {name : String}
    {step : Step} (filed : track.flow.step? name = some step) (state : RunState)
    (choice : Option String) :
    Engine.onward (track.equipped others) state step choice =
      Engine.onward track state step choice := by
  cases choice with
  | none => exact follow_equipped agree filed state
  | some target => exact enter_equipped agree state target true

end Track

/-! ## Operations -/

/-- The definition is one of this flow, or it cannot be loaded. -/
def Flow.Admits (flow : Flow) (text : String) : Prop :=
  ∀ other warnings, Engine.compile text = .ok (other, warnings) → other = flow

/-- The command loads no flow but this one. -/
def Command.Within (flow : Flow) : Command → Prop
  | .start text _ => flow.Admits text
  | _ => True

namespace Engine

/-- No flow is loaded but this one. -/
def Bound (e : Engine) (flow : Flow) : Prop := ∀ loaded, e.flow = some loaded → loaded = flow

/-- The engine with other hooks. -/
def equipped (e : Engine) (hooks : Registry) : Engine := { e with hooks }

variable {e : Engine} {others : Registry} {flow : Flow}

theorem current_equipped (e : Engine) (others : Registry) :
    (e.equipped others).current = e.current := rfl

theorem track_equipped (e : Engine) (others : Registry) (flow : Flow) :
    (e.equipped others).track flow = (e.track flow).equipped others := rfl

theorem flowOf_equipped (e : Engine) (others : Registry) (state : RunState) :
    (e.equipped others).flowOf state = e.flowOf state := rfl

/-- Plans that depend on the flow of a run. -/
theorem onFlow_equipped {state : RunState} (bound : e.Bound flow)
    {decide decide' : Flow → Plan} (same : decide' flow = decide flow) :
    (e.equipped others).onFlow state decide' = e.onFlow state decide := by
  unfold onFlow
  rw [flowOf_equipped]
  cases ofRun : e.flowOf state with
  | error why => rfl
  | ok found =>
    obtain rfl := bound found (flow_of_flowOf ofRun)
    exact same

/-- A plan that records an output. -/
theorem planOutput_equipped (bound : e.Bound flow) (sound : flow.Sound)
    (agree : e.hooks.AgreeOn others flow) (state : RunState) (payload : Json.Object)
    (approving : Bool) :
    (e.equipped others).planOutput state payload approving =
      e.planOutput state payload approving := by
  refine onFlow_equipped bound ?_
  cases filed : flow.step? state.currentStep with
  | none => rfl
  | some step =>
    have known : step.name ∈ flow.mentioned := by
      rw [sound.filed filed]
      exact Flow.mem_mentioned_of_contains (Flow.contains_iff_step?.2 ⟨step, filed⟩)
    have same := agree step.name known
    -- the check and the archive are those of one hook, and the onward journey has its own lemma
    have complaints (output : Json.Object) :
        complaint? (e.equipped others).hooks step.name output =
          complaint? e.hooks step.name output := by
      unfold complaint?
      rw [same]
      rfl
    have archives (output : Json.Object) :
        (e.equipped others).archiveWrites step.name output = e.archiveWrites step.name output := by
      unfold archiveWrites archive?
      rw [same]
      rfl
    simp only [complaints, archives, track_equipped, (e.track flow).onward_equipped agree filed]

/-- A plan that skips a step. -/
theorem planSkip_equipped (bound : e.Bound flow) (agree : e.hooks.AgreeOn others flow)
    (reason : Option String) (state : RunState) :
    (e.equipped others).planSkip reason state = e.planSkip reason state := by
  unfold planSkip
  split
  · rfl
  · rfl
  all_goals
    refine onFlow_equipped bound ?_
    cases filed : flow.step? state.currentStep with
    | none => rfl
    | some step =>
      dsimp only
      rw [track_equipped, (e.track flow).follow_equipped agree filed]

/-- A plan that begins a run. -/
theorem planStart_equipped {text : String} {data : Json.Object}
    (within : (Command.start text data).Within flow) (agree : e.hooks.AgreeOn others flow)
    (now : Instant) : (e.equipped others).planStart now text data = e.planStart now text data := by
  unfold planStart
  rw [current_equipped]
  -- what the engines go on with is not the same by definition, so a fault has to drop it first
  cases e.current with
  | error fault => simp only [bind, Except.bind]
  | ok previous =>
    simp only [bind, Except.bind]
    split
    · rfl
    · cases compiled : compile text with
      | error fault => simp only
      | ok result =>
        obtain ⟨loaded, warnings⟩ := result
        obtain rfl := within loaded warnings compiled
        simp only [track_equipped, (e.track loaded).enter_equipped agree]

/-- **What an operation is going to do depends on the hooks of the mentioned names only.** -/
theorem plan_equipped (bound : e.Bound flow) (sound : flow.Sound)
    (agree : e.hooks.AgreeOn others flow) (now : Instant) {command : Command}
    (within : command.Within flow) : (e.equipped others).plan now command = e.plan now command := by
  cases command with
  | start text data => exact planStart_equipped within agree now
  | submit payload =>
    have same (state : RunState) :
        (e.equipped others).planSubmit payload state = e.planSubmit payload state := by
      unfold planSubmit
      rw [planOutput_equipped bound sound agree]
    exact congrArg e.onRun (funext fun state => congrArg pure (same state))
  | approve payload =>
    have same (state : RunState) :
        (e.equipped others).planApprove payload state = e.planApprove payload state := by
      unfold planApprove
      rw [planOutput_equipped bound sound agree]
    exact congrArg e.onRun (funext fun state => congrArg pure (same state))
  | skip reason =>
    exact congrArg e.onRun (funext fun state =>
      congrArg pure (planSkip_equipped bound agree reason state))
  | reject | retry | goto | back | stop | resume | saveCheckpoint | restoreCheckpoint | reset => rfl

/-- **So does the report on a run.** -/
theorem report_equipped (bound : e.Bound flow)
    (agree : e.hooks.AgreeOn others flow) (now : Instant) :
    (e.equipped others).report now = e.report now := by
  unfold report
  rw [current_equipped]
  refine congrArg (e.current >>= ·) (funext fun live => ?_)
  cases live with
  | none => rfl
  | some state =>
    dsimp only
    rw [flowOf_equipped]
    cases ofRun : e.flowOf state with
    | error why => rfl
    | ok found =>
      obtain rfl := bound found (flow_of_flowOf ofRun)
      have hook : (e.equipped others).currentHook? found state = e.currentHook? found state := by
        unfold currentHook?
        split
        · rename_i known
          exact (agree _ (Flow.mem_mentioned_of_contains known)).symm
        · rfl
      dsimp only
      rw [hook]
      rfl

end Engine

/-! ## Sessions -/

/-- The events are the same, but for hooks that the flow does not mention, and they load no flow but
this one. -/
inductive Event.AgreeOn (flow : Flow) : Event → Event → Prop where
  | operate (now : Instant) {command : Command} (within : command.Within flow) :
      AgreeOn flow (.operate now command) (.operate now command)
  | load {text : String} (admits : flow.Admits text) : AgreeOn flow (.load text) (.load text)
  | equip {hooks others : Registry} (agree : hooks.AgreeOn others flow) :
      AgreeOn flow (.equip hooks) (.equip others)
  | reopen {hooks others : Registry} (agree : hooks.AgreeOn others flow) (limits : Limits) :
      AgreeOn flow (.reopen hooks limits) (.reopen others limits)

namespace Engine

/-- The engines are the same, but for hooks that the flow does not mention, and no flow is loaded
but this one. -/
def AgreeOn (flow : Flow) (e e' : Engine) : Prop :=
  e.Bound flow ∧ ∃ others, e.hooks.AgreeOn others flow ∧ e' = e.equipped others

variable {e e' : Engine} {flow : Flow}

/-- No other flow is loaded by an operation. -/
theorem Bound.execute (bound : e.Bound flow) (now : Instant) {command : Command}
    (within : command.Within flow) : (e.execute now command).1.Bound flow := by
  rcases execute_cases e now command with ⟨why, same, -⟩ | ⟨plan, does, same⟩
  · rw [same]
    exact bound
  · rw [same]
    intro loaded here
    rcases Option.or_eq_some_iff.1 here with binds | ⟨-, before⟩
    · obtain ⟨text, data, warnings, rfl, compiled⟩ := does.exists_start binds
      exact within loaded warnings compiled
    · exact bound loaded before

/-- **What an operation answers and leaves behind is the same.** -/
theorem execute_agreeOn (alike : e.AgreeOn flow e') (sound : flow.Sound) (now : Instant)
    {command : Command} (within : command.Within flow) :
    (e.execute now command).2 = (e'.execute now command).2 ∧
      (e.execute now command).1.AgreeOn flow (e'.execute now command).1 := by
  obtain ⟨bound, others, agree, rfl⟩ := alike
  have after := bound.execute now within
  have plans := plan_equipped bound sound agree now within
  unfold execute perform at after ⊢
  rw [plans]
  generalize e.plan now command = decision at after ⊢
  cases decision with
  | error fault => exact ⟨rfl, bound, others, agree, rfl⟩
  | ok plan => exact ⟨rfl, after, others, agree, rfl⟩

/-- Engines that agree go on to do so, whatever happens to both of them. -/
theorem apply_agreeOn (alike : e.AgreeOn flow e') (sound : flow.Sound) {event event' : Event}
    (events : event.AgreeOn flow event') :
    event.answer? e = event'.answer? e' ∧ (event.apply e).AgreeOn flow (event'.apply e') := by
  cases events with
  | operate now within =>
    obtain ⟨answers, after⟩ := execute_agreeOn alike sound now within
    exact ⟨congrArg some answers, after⟩
  | @load text admits =>
    obtain ⟨bound, others, agree, rfl⟩ := alike
    refine ⟨rfl, ?_⟩
    simp only [Event.apply, load, bind, Except.bind]
    cases compiled : compile text with
    | error fault => exact ⟨bound, others, agree, rfl⟩
    | ok result =>
      obtain ⟨found, warnings⟩ := result
      refine ⟨fun loaded here => ?_, others, agree, rfl⟩
      exact Option.some.inj here ▸ admits found warnings compiled
  | equip agree =>
    obtain ⟨bound, others, -, rfl⟩ := alike
    exact ⟨rfl, bound, _, agree, rfl⟩
  | reopen agree limits =>
    obtain ⟨-, others, -, rfl⟩ := alike
    refine ⟨rfl, fun loaded here => ?_, _, agree, rfl⟩
    cases here

/-- **A session depends on the hooks of the names that its flow mentions, and on no others.**  Take
two registries with the same hooks under these names, and two sessions on the flow with one and the
other, in which other hooks may become known and later sessions may open the store.  The operations
answer the same, and the store and the reports on the run are the same at all times.  In particular
it makes no difference whether a hook is known that the flow does not mention. -/
theorem sessions_agreeOn (accepted : flow.Accepted) (alike : e.AgreeOn flow e')
    {events events' : List Event} (pairs : List.Forall₂ (Event.AgreeOn flow) events events') :
    e.replies events = e'.replies events' ∧
      (e.through events).store = (e'.through events').store ∧
      (∀ now, (e.through events).report now = (e'.through events').report now) ∧
      ∀ (hooks : Registry) (hook : Hook), hook.name ∉ flow.mentioned →
        hooks.AgreeOn (hooks.insert hook.name hook) flow ∧
          hooks.AgreeOn (hooks.erase hook.name) flow := by
  obtain ⟨replies, bound, others, agree, same⟩ := through_pairwise (AgreeOn flow)
    (Event.AgreeOn flow) (fun e e' event event' alike events =>
      apply_agreeOn alike accepted.sound events) pairs alike
  refine ⟨replies, ?_, fun now => ?_, fun hooks hook silent =>
    ⟨hooks.agreeOn_insert silent, hooks.agreeOn_erase silent⟩⟩
  · rw [same]
    rfl
  · rw [same]
    exact (report_equipped bound agree now).symm

end Engine

/-! ## A flow with a guard that is left to a hook -/

namespace Flow

/-- A definition whose first step leads on if a hook has nothing against it. -/
def consultText : String :=
  "steps: [\x7bname: a, next: [\x7bif: '@ok', go: b\x7d, c]\x7d, b, c]"

/-- Its flow. -/
def consultFlow : Flow where
  name := "unnamed flow"
  steps := .ofList [("a", { name := "a", transitions := [.guarded "b" "@ok", .plain "c"] }),
    ("b", { name := "b", transitions := [.plain "c"] }), ("c", { name := "c" })]
  entry := "a"

theorem parse?_consultText : Yaml.parse? consultText = some (.obj [("steps", .arr [
    .obj [("name", .str "a"),
      ("next", .arr [.obj [("go", .str "b"), ("if", .str "@ok")], .str "c"])],
    .str "b", .str "c"])]) := by
  decide +kernel

theorem compile_consultText :
    Engine.compile consultText = .ok (consultFlow, [⟨.deadEnd, some "c"⟩]) :=
  compile_of_document parse?_consultText (by cbv) (by cbv) rfl

theorem mentioned_consultFlow : consultFlow.mentioned = ["a", "b", "c", "ok"] := by
  cbv

end Flow

namespace Engine

/-- A hook for the guard of `consultText`. -/
def consent : Hook := { name := "ok", kinds := [.eval], check := some .accept }

/-- A hook that the flow does not mention, and that rejects all there is. -/
def stranger : Hook :=
  { name := "other", kinds := [.validate, .eval], check := some (.reject "no") }

/-- A run along the definition, up to the first output. -/
def consultEvents : List Event :=
  [.operate ⟨0⟩ (.start Flow.consultText []), .operate ⟨1⟩ (.submit [])]

/-- The definition is compiled, whichever hooks there are. -/
theorem replies_consultEvents (hooks : Registry) :
    (new hooks {}).replies consultEvents =
      ((new hooks {}).departure ⟨0⟩ Flow.consultFlow []).outcome ::
        ((new hooks {}).commit ⟨0⟩ ((new hooks {}).departure ⟨0⟩ Flow.consultFlow [])).replies
          [.operate ⟨1⟩ (.submit [])] := by
  rw [consultEvents, replies_cons, Event.answer?, Event.apply,
    execute_start (free_of_empty rfl) _ Flow.compile_consultText]
  rfl

/-- The hook of the guard decides where the run goes, and the stranger does not. -/
theorem sessions_agreeOn_stranger :
    Flow.consultFlow.Accepted ∧
      (new (.ofHooks [consent]) {}).replies consultEvents =
        [.started "unnamed flow" (.arrived "a"), .arrived "b"] ∧
      (new ((Registry.ofHooks [consent]).insert "other" stranger) {}).replies consultEvents =
        [.started "unnamed flow" (.arrived "a"), .arrived "b"] ∧
      (new .empty {}).replies consultEvents =
        [.started "unnamed flow" (.arrived "a"), .arrived "c"] := by
  have accepted : Flow.consultFlow.Accepted := ⟨_, _, Flow.compile_consultText⟩
  have silent : stranger.name ∉ Flow.consultFlow.mentioned := by
    rw [Flow.mentioned_consultFlow]
    decide
  have alike : (new (.ofHooks [consent]) {}).AgreeOn Flow.consultFlow
      (new ((Registry.ofHooks [consent]).insert "other" stranger) {}) :=
    ⟨nofun, _, Registry.agreeOn_insert _ silent, rfl⟩
  have admits : Flow.consultFlow.Admits Flow.consultText := by
    intro other warnings compiled
    rw [Flow.compile_consultText] at compiled
    exact (Prod.mk.inj (Except.ok.inj compiled)).1.symm
  have pairs : List.Forall₂ (Event.AgreeOn Flow.consultFlow) consultEvents consultEvents :=
    .cons (.operate ⟨0⟩ admits) (.cons (.operate ⟨1⟩ trivial) .nil)
  have known : (new (.ofHooks [consent]) {}).replies consultEvents =
      [.started "unnamed flow" (.arrived "a"), .arrived "b"] := by
    rw [replies_consultEvents]
    cbv
  refine ⟨accepted, known, ?_, ?_⟩
  · exact (sessions_agreeOn accepted alike pairs).1.symm.trans known
  · rw [replies_consultEvents]
    cbv

end Engine

end Runbook
