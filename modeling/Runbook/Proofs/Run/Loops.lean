import Runbook.Proofs.Engine.Operations
import Runbook.Proofs.Flow.Nesting
import Runbook.Proofs.Store.Rows

/-!
# The active loops

A run counts the loops that it is in, and the flow that it follows knows nothing of the document in
which they were nested.  This module says that the two agree: wherever a run stands, its active
loops are those around its step in the document, in their order, and each of them has an item left.

## Main definitions

* `Dict.Counting`: each counter stands at one of its items
* `Flow.Fits`: the active loops are those around the current step
* `Flow.Lands`: a journey leaves the run at a step that its active loops fit
* `Outcome.HitsLimit`: the operation gave up after too many arrivals

## Main statements

* `Step.docked_pass`: a pass through a header leads to where the counters dock
* `Track.lands_arrive`, `Track.lands_follow`: journeys land
* `Engine.loops_enclose`: the active loops of a run are those around its step

## Design notes

On its way a run does not stand where its active loops are: between a header and the next arrival
the counters have changed and the step has not.  What holds there is that the counters dock at the
target (`Flow.Docked`).  So the lemmas about journeys take a docked target and give a state that
fits, unless the journey gave up between two arrivals.
-/

namespace Runbook

namespace Dict

variable {α : Type}

/-- Each counter stands at one of its items. -/
def Counting (loops : Dict LoopCounter) : Prop :=
  ∀ loop ∈ loops.entries, loop.2.index < loop.2.count

theorem Counting.insert {loops : Dict LoopCounter} (counting : loops.Counting) (header : String)
    {counter : LoopCounter} (less : counter.index < counter.count) :
    (loops.insert header counter).Counting := by
  intro loop member
  rcases mem_put member with rfl | member
  · exact less
  · exact counting loop member

theorem Counting.erase {loops : Dict LoopCounter} (counting : loops.Counting) (header : String) :
    (loops.erase header).Counting :=
  fun loop member => counting loop (List.mem_filter.1 member).1

end Dict

/-! ## A pass through a header -/

/-- The counters after a pass through a header: the header is the innermost active loop if the run
enters its body, and else those around it are left. -/
theorem Step.loops_pass (header : Step) (state : RunState) (around : List String)
    (apart : header.name ∉ around)
    (active : state.loops.keys = around ∨ state.loops.keys = around ++ [header.name])
    (counting : state.loops.Counting) :
    ((header.pass state).loops header.name state.loops).Counting ∧
      ((header.pass state).loops header.name state.loops).keys =
        if (header.pass state).entersBody then around ++ [header.name] else around := by
  unfold Step.pass
  -- a header has a counter exactly if the run comes from its body
  cases known : state.loops.get? header.name with
  | none =>
    have outside := (Dict.get?_eq_none_iff _ _).1 known
    have keys : state.loops.keys = around := by
      rcases active with keys | keys
      · exact keys
      · exact absurd (keys ▸ List.mem_append_right _ (List.mem_singleton.2 rfl)) outside
    by_cases empty : header.items state = 0
    · simp only [empty, if_true]
      exact ⟨counting, keys⟩
    · simp only [empty, if_false]
      refine ⟨counting.insert _ (Nat.pos_of_ne_zero empty), ?_⟩
      show (state.loops.insert _ _).keys = _
      rw [Dict.keys_insert, if_neg outside, keys]
      rfl
  | some counter =>
    have inside : header.name ∈ state.loops.keys := by
      rw [← Dict.contains_iff, Dict.contains, known]
      rfl
    have keys : state.loops.keys = around ++ [header.name] := by
      rcases active with keys | keys
      · exact absurd (keys ▸ inside) apart
      · exact keys
    dsimp only
    split
    · rename_i more
      refine ⟨counting.insert _ more, ?_⟩
      show (state.loops.insert _ _).keys = _
      rw [Dict.keys_insert, if_pos inside, keys]
      rfl
    · refine ⟨counting.erase _, ?_⟩
      show (state.loops.erase _).keys = _
      rw [Dict.keys_erase, keys, List.filter_append]
      have others : around.filter (fun k => k != header.name) = around := by
        refine List.filter_eq_self.2 fun name member => ?_
        simpa using fun same : name = header.name => apart (same ▸ member)
      rw [others]
      simp [Pass.entersBody]

/-! ## Journeys -/

/-- The operation gave up after too many arrivals. -/
def Outcome.HitsLimit : Outcome → Prop
  | started _ arrival => HitsLimit arrival
  | refused (.tooManySteps _ _) => True
  | _ => False

namespace Flow

variable {flow : Flow} {declared : List (String × List String)} {state next : RunState}

/-- The active loops are those around the current step, and each of them has an item left. -/
def Fits (declared : List (String × List String)) (state : RunState) : Prop :=
  (state.currentStep, state.loops.keys) ∈ declared ∧ state.loops.Counting

/-- The journey leaves the run at a step that its active loops fit, unless it gave up. -/
def Lands (declared : List (String × List String)) (state : RunState) (journey : Journey) : Prop :=
  journey.outcome.HitsLimit ∨ Fits declared (journey.final state)

theorem lands_after {hop : Hop} {journey : Journey} (next : RunState)
    (saved : hop.saved?.getD state = next) (lands : Lands declared next journey) :
    Lands declared state (.after hop journey) := by
  rw [Lands, Journey.final_after, saved]
  exact lands

/-- A step that is no header fits the active loops that dock at it. -/
theorem mem_of_docked {step : Step} (filed : flow.step? step.name = some step)
    (plain : ¬ step.config.isLoopHeader = true) {active : List String}
    (docked : Docked declared flow.IsHeader step.name active) :
    (step.name, active) ∈ declared := by
  obtain ⟨around, member, rfl | ⟨⟨found, filed', header⟩, -⟩⟩ := docked
  · exact member
  · obtain rfl := Option.some.inj (filed'.symm.trans filed)
    exact absurd header plain

end Flow

namespace Track

variable {track : Track} {declared : List (String × List String)} {state : RunState} {step : Step}
  {go : RunState → String → Journey}

/-- A pass through a header lands if the journey after it does. -/
theorem lands_passThrough (sound : track.flow.Sound) (nested : track.flow.Nested declared)
    (filed : track.flow.step? step.name = some step) (header : step.config.isLoopHeader = true)
    (docked : Flow.Docked declared track.flow.IsHeader step.name state.loops.keys)
    (counting : state.loops.Counting)
    (onward : ∀ next target, track.flow.contains target = true →
      Flow.Docked declared track.flow.IsHeader target next.loops.keys → next.loops.Counting →
      Flow.Lands declared next (go next target)) :
    Flow.Lands declared state (passThrough go state step) := by
  obtain ⟨around, member, wired⟩ := nested.wired filed
  rw [Flow.Wired, if_pos header] at wired
  obtain ⟨body, exits, transitions, inward, outward⟩ := wired
  obtain ⟨body', exit, more, transitions'⟩ := sound.loops filed header
  obtain ⟨rfl, rfl⟩ := List.cons.inj (transitions.symm.trans transitions')
  have active : state.loops.keys = around ∨ state.loops.keys = around ++ [step.name] := by
    obtain ⟨around', member', active⟩ := docked
    obtain rfl := nested.around_eq member member'
    exact active.imp_right And.right
  obtain ⟨counts, keys⟩ :=
    step.loops_pass state around (nested.apart _ member) active counting
  have targets := sound.targets filed
  rw [transitions, List.forall_mem_cons, List.forall_mem_cons] at targets
  unfold passThrough
  rw [transitions]
  dsimp only
  refine Flow.lands_after ((step.pass state).apply step.name state) (Hop.saved?_pass _ _ _) ?_
  split
  · rename_i enters
    rw [if_pos enters] at keys
    refine onward _ _ targets.1 ?_ counts
    rw [← keys] at inward
    exact inward
  · rename_i leaves
    rw [if_neg leaves] at keys
    refine onward _ _ targets.2.1 ?_ counts
    have outward := outward exit List.mem_cons_self
    rw [← keys] at outward
    exact outward

/-- A run that leaves a plain step lands if the journey after it does. -/
theorem lands_leave (sound : track.flow.Sound) (nested : track.flow.Nested declared)
    (filed : track.flow.step? step.name = some step) (plain : ¬ step.config.isLoopHeader = true)
    (stands : step.name = state.currentStep) (fits : Flow.Fits declared state)
    (onward : ∀ target, track.flow.contains target = true →
      Flow.Docked declared track.flow.IsHeader target state.loops.keys →
      Flow.Lands declared state (go state target)) :
    Flow.Lands declared state (track.leave go state step) := by
  obtain ⟨around, member, wired⟩ := nested.wired filed
  rw [Flow.Wired, if_neg plain] at wired
  rw [stands] at member
  obtain rfl := nested.around_eq fits.1 member
  unfold leave
  split
  · rename_i target towards
    obtain ⟨t, taken, rfl⟩ := List.mem_map.1 (Step.mem_targets_of_route towards)
    exact onward _ (sound.targets filed t taken) (wired t taken)
  · exact .inr fits
  · exact .inr fits
  · exact .inr fits

/-- **A journey that starts with an arrival lands**, if the active loops dock at its target. -/
theorem lands_arrive (track : Track) (sound : track.flow.Sound)
    (nested : track.flow.Nested declared) (budget : Nat) (state : RunState) (target : String)
    (recorded : Bool) (known : track.flow.contains target = true)
    (docked : Flow.Docked declared track.flow.IsHeader target state.loops.keys)
    (counting : state.loops.Counting) :
    Flow.Lands declared state (track.arrive budget state target recorded) := by
  induction budget generalizing state target recorded with
  | zero => exact .inl trivial
  | succ budget ih =>
    obtain ⟨step, filed⟩ := Flow.contains_iff_step?.1 known
    obtain rfl := sound.filed filed
    unfold arrive
    rw [filed]
    dsimp only
    split
    · rename_i header
      exact lands_passThrough sound nested filed header docked counting
        fun next target known docked counting => ih next target true known docked counting
    · rename_i plain
      have member := Flow.mem_of_docked filed plain docked
      split
      · exact .inr ⟨member, counting⟩
      · -- at a step the active loops are those around it, whatever comes next
        refine Flow.lands_after (atStep step state) rfl ?_
        have fits : Flow.Fits declared (atStep step state) := ⟨member, counting⟩
        split
        · exact lands_leave sound nested filed plain rfl fits fun target known docked =>
            ih _ target true known docked counting
        · exact .inr fits

/-- **A journey that starts with leaving a step lands**, if the active loops fit the step. -/
theorem lands_follow (track : Track) (state : RunState) (sound : track.flow.Sound)
    (nested : track.flow.Nested declared)
    (filed : track.flow.step? state.currentStep = some step) (fits : Flow.Fits declared state) :
    Flow.Lands declared state (track.follow state step) := by
  have stands := sound.filed filed
  rw [← stands] at filed
  unfold follow
  split
  · rename_i header
    refine lands_passThrough sound nested filed header ⟨_, ?_, .inl rfl⟩ fits.2
      fun next target known docked counting =>
        track.lands_arrive sound nested _ next target true known docked counting
    rw [stands]
    exact fits.1
  · rename_i plain
    exact lands_leave sound nested filed plain stands fits fun target known docked =>
      track.lands_arrive sound nested _ state target true known docked fits.2

end Track

/-! ## Runs -/

/-- The operations by which a run of `flow` begins, goes on, is tried again and pauses, where no
output says itself where the run goes. -/
def Command.Follows (flow : Flow) : Command → Prop
  | start definition _ => ∃ warnings, Engine.compile definition = .ok (flow, warnings)
  | submit payload | approve payload => Engine.choice? payload = none
  | reject _ | skip _ | retry | stop | resume | saveCheckpoint _ => True
  | _ => False

namespace Engine

variable {e : Engine} {now : Instant} {flow : Flow} {state next : RunState}
  {declared : List (String × List String)}

/-- What a run keeps. -/
structure Placed (flow : Flow) (declared : List (String × List String)) (e : Engine) : Prop where
  /-- If there is a run, its flow is loaded. -/
  loaded : e.store.live = none ∨ e.flow = some flow
  /-- The live row is that of a state whose active loops fit its step. -/
  fits : ∀ row, e.store.live = some row → ∃ state, row = .ofState state ∧ Flow.Fits declared state

theorem placed_new (hooks : Registry) (limits : Limits) (flow : Flow)
    (declared : List (String × List String)) : (Engine.new hooks limits).Placed flow declared where
  loaded := .inl rfl
  fits row live := by cases live

namespace Placed

/-- If there is a run, its flow is loaded. -/
theorem flow_eq (placed : e.Placed flow declared) (live : e.current = .ok (some state)) :
    e.flow = some flow :=
  flow_of_current placed.loaded live

/-- The active loops of the live state fit its step. -/
theorem fits_current (placed : e.Placed flow declared) (live : e.current = .ok (some state)) :
    Flow.Fits declared state := by
  obtain ⟨row, here, read⟩ := exists_row_of_current live
  obtain ⟨written, rfl, fits⟩ := placed.fits row here
  rw [LiveRow.eq_of_read_ofState read]
  exact fits

/-- A plan that saves `next` last and goes on from there. -/
theorem travel {plan : Plan} (writes : List Write) (journey : Journey)
    (written : plan.writes = writes ++ journey.writes) (binds : plan.binds.or e.flow = some flow)
    (keeps : Write.Keep writes) (last : (writes.filterMap Write.saved?).getLast? = some next)
    (fits : Flow.Fits declared (journey.final next)) :
    (e.commit now plan).Placed flow declared := by
  obtain ⟨-, live⟩ := commit_travel e now written keeps last
  refine ⟨.inr binds, fun row here => ?_⟩
  rw [live] at here
  exact ⟨_, (Option.some.inj here).symm, fits⟩

/-- A plan that leaves the run where it is. -/
theorem quiet (placed : e.Placed flow declared) {writes : List Write} {outcome : Outcome}
    (keeps : Write.Keep writes) (unsaved : writes.filterMap Write.saved? = []) :
    (e.commit now (.act writes outcome)).Placed flow declared := by
  obtain ⟨-, live⟩ := commit_act e now outcome keeps unsaved
  refine ⟨?_, ?_⟩
  · rw [live]
    exact placed.loaded
  · rw [live]
    exact placed.fits

/-- A plan that changes the status of the run. -/
theorem marked (placed : e.Placed flow declared) (live : e.current = .ok (some state))
    (status : Status) (action : Action) (outcome : Outcome) :
    (e.commit now (.act (mark state status action) outcome)).Placed flow declared := by
  have fits := placed.fits_current live
  exact travel (mark state status action) (.stay outcome) rfl (placed.flow_eq live)
    (by simp [mark]) rfl (show Flow.Fits declared { state with status } from fits)

/-- A recorded output that leaves it to the flow where the run goes. -/
theorem records (placed : e.Placed flow declared) (sound : flow.Sound)
    (nested : flow.Nested declared) (live : e.current = .ok (some state)) {payload : Json.Object}
    (unchosen : choice? payload = none) {approving : Bool} {plan : Plan}
    (records : e.Records state payload approving plan) (within : ¬ plan.outcome.HitsLimit) :
    (e.commit now plan).Placed flow declared := by
  have loaded := placed.flow_eq live
  obtain ⟨step, writes, filed, -, rfl, keeps, -, last⟩ := records.travels loaded
  have fits := placed.fits_current live
  rw [unchosen] at within ⊢
  refine travel writes _ rfl loaded keeps last ?_
  exact ((e.track flow).lands_follow (withOutput state step (payload.erase Refusal.choiceKey))
    sound nested filed fits).resolve_left within

end Placed

/-- **What a run keeps, each of its operations keeps**, unless it gives up. -/
theorem placed_execute (sound : flow.Sound) (nested : flow.Nested declared)
    (placed : e.Placed flow declared) (now : Instant) {command : Command}
    (follows : command.Follows flow) (within : ¬ (e.execute now command).2.HitsLimit) :
    (e.execute now command).1.Placed flow declared := by
  rcases execute_cases e now command with ⟨why, same, -⟩ | ⟨plan, does, same⟩
  · rw [same]
    exact placed
  rw [same] at within ⊢
  cases does with
  | @start definition data found warnings free compiled =>
    obtain ⟨warnings', compiled'⟩ := follows
    obtain ⟨rfl, -⟩ := Prod.mk.inj (Except.ok.inj (compiled.symm.trans compiled'))
    refine .travel [.live _, .record _ _ .start none] _ rfl rfl (by simp) rfl ?_
    exact ((e.track found).lands_arrive sound nested _ _ _ _ sound.entry
      ⟨[], nested.entry, .inl rfl⟩ (fun loop member => by cases member)).resolve_left within
  | submit live running records => exact placed.records sound nested live follows records within
  | approve live waiting records => exact placed.records sound nested live follows records within
  | reject live waiting => exact placed.quiet (by simp) rfl
  | @skip reason state found step live active bound filed =>
    have loaded := placed.flow_eq live
    obtain rfl := flowOf_eq_ok loaded bound
    have fits := placed.fits_current live
    refine .travel _ _ rfl loaded (by simp) rfl ?_
    exact ((e.track found).lands_follow { state with status := .running } sound nested filed
      fits).resolve_left within
  | retry live => exact placed.marked live _ _ _
  | stop live active => exact placed.marked live _ _ _
  | resume live paused bound => exact placed.marked live _ _ _
  | saveCheckpoint live => exact placed.quiet (by simp) rfl
  | _ => exact absurd follows id

/-- **The active loops are those around the current step.**  Take a document in which no step says
itself where the run goes, and a run of it in which no output does and no operation gives up.  Then
wherever the run stands, its active loops are the loops with an iterate expression around its step
in the document, the outermost first, and each counter stands at one of its items. -/
theorem loops_enclose {text : String} {warnings : List Diagnostic}
    (loaded : compile text = .ok (flow, warnings)) {outlines : List Outline}
    (declares : Outline.ofText? text = some outlines) (implicit : Outline.ImplicitList outlines)
    (hooks : Registry) (limits : Limits) {ops : List (Instant × Command)}
    (follows : ∀ op ∈ ops, op.2.Follows flow)
    (within : ∀ answer ∈ (Engine.new hooks limits).answers ops, ¬ answer.HitsLimit)
    (live : ((Engine.new hooks limits).after ops).current = .ok (some state)) :
    Outline.enclosing? outlines state.currentStep = some state.loops.keys ∧
      ∀ loop ∈ state.loops.entries, loop.2.index < loop.2.count := by
  have sound := Flow.Accepted.sound ⟨text, warnings, loaded⟩
  have nested := Flow.nested_of_compile loaded declares implicit
  have placed : ((Engine.new hooks limits).after ops).Placed flow
      (Outline.placesOfList [] outlines) :=
    after_induction (Placed flow (Outline.placesOfList [] outlines)) (Command.Follows flow)
      (fun answer => ¬ answer.HitsLimit) (fun e now command placed follows within =>
        placed_execute sound nested placed now follows within) follows _ within
      (placed_new hooks limits flow _)
  obtain ⟨member, counting⟩ := placed.fits_current live
  exact ⟨Dict.find?_of_mem nested.distinct member, counting⟩

/-- A run of `Flow.loopText` that has just come into the loop. -/
def intoLoop : List (Instant × Command) :=
  [(⟨0⟩, .start Flow.loopText [("xs", .arr [.int 5, .int 7])]), (⟨0⟩, .submit [])]

/-- Where the run stands then. -/
def insideLoop : RunState where
  flowName := "unnamed flow"
  currentStep := "b"
  status := .running
  data := [("a", .obj []), ("xs", .arr [.int 5, .int 7])]
  loops := .ofList [("l", ⟨0, 2⟩)]
  startedAt := ⟨0⟩

/-- In the body of the loop the loop is the only active one, at its first item of two. -/
theorem loops_enclose_intoLoop :
    ((Engine.new .empty {}).after intoLoop).current = .ok (some insideLoop) ∧
      Outline.enclosing? Flow.loopOutlines "b" = some ["l"] := by
  obtain ⟨live, answers⟩ :
      ((Engine.new .empty {}).after intoLoop).current = .ok (some insideLoop) ∧
        (Engine.new .empty {}).answers intoLoop =
          [.started "unnamed flow" (.arrived "a"), .arrived "b"] := by
    rw [intoLoop, after_cons, answers_cons,
      execute_start (free_of_empty rfl) _ Flow.compile_loopText]
    cbv
    exact ⟨rfl, trivial⟩
  have follows : ∀ op ∈ intoLoop, op.2.Follows Flow.loopFlow := by
    intro op member
    simp only [intoLoop, List.mem_cons, List.not_mem_nil, or_false] at member
    rcases member with rfl | rfl
    · exact ⟨_, Flow.compile_loopText⟩
    · rfl
  have within : ∀ answer ∈ (Engine.new .empty {}).answers intoLoop, ¬ answer.HitsLimit := by
    rw [answers]
    simp [Outcome.HitsLimit]
  have implicit : Outline.ImplicitList Flow.loopOutlines := by
    simp [Flow.loopOutlines, Outline.ImplicitList, Outline.Implicit, Outline.wayKeys, Fields.get?]
  exact ⟨live, (loops_enclose Flow.compile_loopText Flow.ofText?_loopText implicit .empty {} follows
    within live).1⟩

end Engine

end Runbook
