import Runbook.Proofs.Run.Stages

/-!
# Runs that are given up

An operation gives up once its run has made all the arrivals that it may make by itself.  What was
saved before stays saved, and a pass through a loop header saves the counter of the loop before the
run comes to the step that the header leads to.  So a run that is given up between a header and the
next step stands where it was, but counts as if it had come there.  This module says how far the two
are apart, and what the next operation makes of it.

## Main definitions

* `Trip.BreaksOff`: a trip that ends after some passes with no step behind them

## Main statements

* `Track.Travels.exists_landing`: a journey that gives up makes nothing but passes after its last step
* `Track.Travels.reached_passes`: passes change nothing but counters
* `Step.counter_pass_ne`: each pass changes its counter, unless it passes by
* `Engine.SetsOut.breaksOff`: a trip that is given up breaks off where the run landed last
* `Engine.execute_givenUp`: where a run is left that is given up, and from where it sets out again
* `Engine.loses_item_headerAhead`: a run that is given up in front of a loop loses the first item

## Design notes

A header may be passed twice on the way from one step to the next, if the first pass leads to other
headers only.  Then the second pass may undo what the first one did.  So that a run stands as if it
had made no pass does not mean that it has made none, unless no header comes twice.
-/

namespace Runbook

/-! ## The last steps of a journey -/

@[simp] theorem Hop.reached_append (state : RunState) (hops more : List Hop) :
    reached state (hops ++ more) = reached (reached state hops) more := by
  induction hops generalizing state with
  | nil => rfl
  | cons hop hops ih =>
    rw [List.cons_append, reached_cons, reached_cons, ih]

namespace Track

variable {track : Track} {state : RunState} {journey : Journey} {before passes rest : List Hop}

/-- **A journey that gives up makes nothing but passes after its last step.** -/
theorem Travels.exists_landing (travels : track.Travels state journey)
    (hit : journey.outcome.HitsLimit) :
    ∃ before passes, journey.hops = before ++ passes ∧
      (∀ hop ∈ passes, hop.header?.isSome = true) ∧
      (before = [] ∨ ∃ earlier recorded landing,
        before = earlier ++ [.arrive landing.currentStep recorded landing] ∧
        landing.status ≠ .done) := by
  induction travels with
  | giveUp => exact ⟨[], [], rfl, List.forall_mem_nil _, .inl rfl⟩
  | stuck | undecided | finish | terminate | stand => exact hit.elim
  | @advance state step recorded journey filed plain lasts advances first onward ih =>
    obtain ⟨before, passes, parts, only, landed⟩ := ih hit
    refine ⟨_ :: before, passes, congrArg (_ :: ·) parts, only, .inr ?_⟩
    rcases landed with rfl | ⟨earlier, later, landing, rfl, active⟩
    · refine ⟨[], recorded, atStep step state, rfl, ?_⟩
      show (if step.config.wait then Status.waiting else Status.running) ≠ .done
      split <;> exact nofun
    · exact ⟨_ :: earlier, later, landing, rfl, active⟩
  | pass filed header onward ih =>
    obtain ⟨before, passes, parts, only, landed⟩ := ih hit
    rcases landed with rfl | ⟨earlier, recorded, landing, rfl, active⟩
    · exact ⟨[], _ :: passes, congrArg (_ :: ·) parts, List.forall_mem_cons.2 ⟨rfl, only⟩,
        .inl rfl⟩
    · exact ⟨_ :: _, passes, congrArg (_ :: ·) parts, only,
        .inr ⟨_ :: earlier, recorded, landing, rfl, active⟩⟩

/-- **Passes change nothing but counters**, and not even them if they write nothing. -/
theorem Travels.reached_passes (travels : track.Travels state journey)
    (parts : journey.hops = before ++ passes ++ rest)
    (only : ∀ hop ∈ passes, hop.header?.isSome = true) :
    (∃ loops, Hop.reached state (before ++ passes) = { Hop.reached state before with loops }) ∧
      ((∀ hop ∈ passes, hop.writes = []) →
        Hop.reached state (before ++ passes) = Hop.reached state before) := by
  induction passes using List.reverseRecOn generalizing rest with
  | nil =>
    rw [List.append_nil]
    exact ⟨⟨_, rfl⟩, fun _ => rfl⟩
  | append_singleton passes hop ih =>
    rw [List.forall_mem_append, List.forall_mem_singleton] at only
    obtain ⟨⟨loops, same⟩, quiet⟩ := @ih (hop :: rest) (by rw [parts]; simp) only.1
    obtain ⟨header, pass, after, rfl⟩ : ∃ header pass after, hop = .pass header pass after := by
      cases hop with
      | pass header pass after => exact ⟨_, _, _, rfl⟩
      | _ => cases only.2
    have comes : journey.hops = (before ++ passes) ++ .pass header pass after :: rest := by
      rw [parts]
      simp
    obtain ⟨step, -, -, -, rfl⟩ := travels.pass_eq comes
    have here : Hop.reached state (before ++ (passes ++ [.pass header pass
        (pass.apply header (Hop.reached state (before ++ passes)))])) =
          pass.apply header (Hop.reached state (before ++ passes)) := by
      rw [← List.append_assoc, Hop.reached_append]
      rfl
    rw [here]
    refine ⟨⟨_, by rw [same]; rfl⟩, fun silent => ?_⟩
    rw [List.forall_mem_append, List.forall_mem_singleton] at silent
    rw [quiet silent.1]
    cases pass with
    | skip => rfl
    | _ => cases silent.2

end Track

/-- **Each pass changes its counter**, unless it passes by. -/
theorem Step.counter_pass_ne {header : Step} {found : RunState} :
    header.pass found ≠ .skip →
      (header.pass found).counter ≠ found.loops.get? header.name := by
  unfold pass
  cases found.loops.get? header.name with
  | none =>
    dsimp only
    split
    · exact fun through => absurd rfl through
    · exact fun _ => Option.some_ne_none _
  | some counter =>
    dsimp only
    split
    · intro _ same
      exact absurd (congrArg LoopCounter.index (Option.some.inj same)) (Nat.succ_ne_self _)
    · exact fun _ => nofun

/-- If no header comes twice, passes that leave all counters as they were write nothing. -/
theorem Track.Travels.silent_of_get? {track : Track} {state : RunState} {journey : Journey}
    (travels : track.Travels state journey) {before passes rest : List Hop}
    (parts : journey.hops = before ++ passes ++ rest)
    (only : ∀ hop ∈ passes, hop.header?.isSome = true)
    (distinct : (passes.filterMap Hop.header?).Nodup)
    (same : ∀ header, Hop.tally header ((Hop.reached state before).loops.get? header) passes =
      (Hop.reached state before).loops.get? header) :
    ∀ hop ∈ passes, hop.writes = [] := by
  intro hop member
  obtain ⟨first, last, rfl⟩ := List.append_of_mem member
  cases hop with
  | pass header pass after =>
    -- the other passes are through other headers, so this one decides on its counter
    rw [List.filterMap_append, List.nodup_append] at distinct
    have others (hop : Hop) (among : hop ∈ first ++ last) : hop.header? ≠ some header := by
      intro again
      rcases List.mem_append.1 among with earlier | later
      · exact distinct.2.2 header (List.mem_filterMap.2 ⟨hop, earlier, again⟩) header
          List.mem_cons_self rfl
      · exact (List.nodup_cons.1 distinct.2.1).1 (List.mem_filterMap.2 ⟨hop, later, again⟩)
    rw [List.forall_mem_append] at others
    have comes : journey.hops =
        (before ++ first) ++ .pass header pass after :: (last ++ rest) := by
      rw [parts]
      simp
    obtain ⟨step, -, rfl, made, -⟩ := travels.pass_eq comes
    have found : (Hop.reached state (before ++ first)).loops.get? step.name =
        (Hop.reached state before).loops.get? step.name := by
      rw [travels.get?_reached comes, Hop.tally_append, Hop.tally_of_ne others.1]
      exact (travels.get?_reached (comes.trans (List.append_assoc _ _ _)) step.name).symm
    have left := same step.name
    rw [Hop.tally_append, Hop.tally_of_ne others.1, Hop.tally_cons, Hop.tally_of_ne others.2,
      Hop.count, if_pos rfl, ← found, made] at left
    by_contra through
    refine Step.counter_pass_ne (fun skips => through ?_) left
    rw [made, skips]
    rfl
  | _ => cases only _ member

/-! ## Operations that give up -/

/-- **The trip breaks off**: the last step that it came to is where the run landed, or it came to
none and the run stands where it set out, and from there it made passes only. -/
structure Trip.BreaksOff (trip : Trip) (landing : RunState) (passes : List Hop) : Prop where
  /-- The run came to a step before the passes, or it had just set out. -/
  landed : ∃ before, trip.journey.hops = before ++ passes ∧
    landing = Hop.reached trip.start before ∧
    (before = [] ∨ ∃ earlier recorded,
      before = earlier ++ [.arrive landing.currentStep recorded landing])
  /-- There are no hops but passes behind it. -/
  only : ∀ hop ∈ passes, hop.header?.isSome = true

namespace Engine

variable {e : Engine} {now : Instant} {command : Command} {plan : Plan} {trip : Trip}

/-- Only an operation that lets the run set out can give up. -/
theorem Does.departs_of_hitsLimit (does : e.Does now command plan)
    (hit : plan.outcome.HitsLimit) : command.Departs := by
  cases does with
  | start | submit | approve | skip => trivial
  | _ => exact hit.elim

/-- A run sets out active. -/
theorem SetsOut.active (sets : e.SetsOut now command trip) : trip.start.status ≠ .done := by
  cases sets with
  | _ => exact nofun

/-- Where there is a live row, it is read or a fault. -/
theorem current_ne_none {row : LiveRow} (live : e.store.live = some row) :
    e.current ≠ .ok none := by
  unfold current Store.current
  rw [live]
  dsimp only
  cases row.read <;> exact nofun

/-- Where the run is not done, it goes on with the counters that it has. -/
theorem SetsOut.loops_eq (sets : e.SetsOut now command trip) {here : RunState}
    (live : e.store.live = some (.ofState here)) (active : here.status ≠ .done) :
    trip.start.loops = here.loops := by
  have same {state : RunState} (current : e.current = .ok (some state)) :
      state.loops = here.loops ∧ state.status = here.status := by
    rw [eq_of_current live current]
    exact ⟨rfl, rfl⟩
  cases sets with
  | start free loaded =>
    -- a run that is not done is in the way of another one
    obtain ⟨previous, current, done⟩ := free
    cases previous with
    | none => exact absurd current (current_ne_none live)
    | some state => exact absurd ((same current).2.symm.trans (done state rfl)) active
  | submit current => exact (same current).1
  | approve current => exact (same current).1
  | skip current => exact (same current).1

/-- **A trip that is given up breaks off** where the run landed last.  The state at its end is the
one in which it landed, with the counters that the passes left; and if they left all as it was, they
wrote nothing, unless one of them undid what another one did. -/
theorem SetsOut.breaksOff (sets : e.SetsOut now command trip) (vetted : e.Vetted)
    (gaveUp : trip.journey.outcome.HitsLimit) :
    ∃ landing passes, trip.BreaksOff landing passes ∧ landing.status ≠ .done ∧
      (∃ loops, trip.journey.final trip.start = { landing with loops }) ∧
      (∀ header, (trip.journey.final trip.start).loops.get? header =
        Hop.tally header (landing.loops.get? header) passes) ∧
      ((∀ hop ∈ passes, hop.writes = []) → trip.journey.final trip.start = landing) ∧
      ((passes.filterMap Hop.header?).Nodup → trip.journey.final trip.start = landing →
        ∀ hop ∈ passes, hop.writes = []) := by
  have travels := sets.travels vetted
  obtain ⟨before, passes, parts, only, landed⟩ := travels.exists_landing gaveUp
  have parts' : trip.journey.hops = before ++ passes ++ [] := by
    rw [parts, List.append_nil]
  obtain ⟨stays, silent⟩ := travels.reached_passes parts' only
  have counters (header : String) :
      (Hop.reached trip.start (before ++ passes)).loops.get? header =
        Hop.tally header ((Hop.reached trip.start before).loops.get? header) passes := by
    rw [travels.get?_reached parts' header, Hop.tally_append, ← travels.get?_reached parts header]
  rw [travels.final_eq, parts]
  refine ⟨Hop.reached trip.start before, passes, ⟨⟨before, parts, rfl, ?_⟩, only⟩, ?_, stays,
    counters, silent, ?_⟩
  · rcases landed with none | ⟨earlier, recorded, landing, rfl, -⟩
    · exact .inl none
    · refine .inr ⟨earlier, recorded, ?_⟩
      rw [Hop.reached_append]
      rfl
  · rcases landed with rfl | ⟨earlier, recorded, landing, rfl, active⟩
    · exact sets.active
    · rw [Hop.reached_append]
      exact active
  · intro distinct unmoved
    refine travels.silent_of_get? parts' only distinct fun header => ?_
    rw [← counters, unmoved]

/-- **Where a run is left that is given up.**  Its trip breaks off behind some passes, and the live
row is that of the state in which it landed before them, with the counters that the passes left.  So
it is the row that was saved on landing if the passes wrote nothing, and only then if they are
through different headers.  Whatever operation lets the run set out again, it does so with these
counters, and its first pass through a header finds the one that is left there. -/
theorem execute_givenUp (vetted : e.Vetted) {answer : Outcome}
    (answered : (e.execute now command).2 = answer) (hit : answer.HitsLimit) :
    ∃ trip landing passes here, e.SetsOut now command trip ∧ trip.BreaksOff landing passes ∧
      (e.execute now command).1.store.live = some (.ofState here) ∧
      here = { landing with loops := here.loops } ∧
      (∀ header, here.loops.get? header =
        Hop.tally header (landing.loops.get? header) passes) ∧
      ((∀ hop ∈ passes, hop.writes = []) → here = landing) ∧
      ((passes.filterMap Hop.header?).Nodup → here = landing →
        ∀ hop ∈ passes, hop.writes = []) ∧
      ∀ later next onward, (e.execute now command).1.SetsOut later next onward →
        onward.start.loops = here.loops ∧
        ∀ before header pass after rest,
          onward.journey.hops = before ++ .pass header pass after :: rest →
          (∀ hop ∈ before, hop.header? ≠ some header) →
          ∃ step found, onward.track.flow.step? header = some step ∧ pass = step.pass found ∧
            found.loops.get? header = here.loops.get? header := by
  rcases execute_cases e now command with ⟨why, same, early⟩ | ⟨plan, does, same⟩
  · rw [← answered, same] at hit
    cases why with
    | tooManySteps => cases early
    | _ => exact hit.elim
  rw [← answered, same] at hit
  rw [same]
  obtain ⟨trip, writes, sets, written, last, ended, keeps, -⟩ :=
    does.exists_trip (does.departs_of_hitsLimit hit)
  have gaveUp : trip.journey.outcome.HitsLimit := by
    rcases ended with ended | ⟨name, ended⟩
    · rwa [show (plan.outcome = _) from ended] at hit
    · rwa [show (plan.outcome = _) from ended] at hit
  obtain ⟨-, live⟩ := commit_travel e now written keeps last
  obtain ⟨landing, passes, breaks, active, ⟨loops, stays⟩, counters, silent, distinct⟩ :=
    sets.breaksOff vetted gaveUp
  refine ⟨trip, landing, passes, trip.journey.final trip.start, sets, breaks, live, ?_, counters,
    silent, distinct, ?_⟩
  · rw [stays]
  intro later next onward out
  have again : onward.start.loops = (trip.journey.final trip.start).loops := by
    refine out.loops_eq live ?_
    rw [stays]
    exact active
  refine ⟨again, fun before header pass after rest comes first => ?_⟩
  have travels := out.travels (same ▸ vetted.execute now command)
  obtain ⟨step, filed, rfl, made, -⟩ := travels.pass_eq comes
  refine ⟨step, _, filed, made, ?_⟩
  rw [travels.counter_reached comes first, again]

/-- A definition in which a jump leads from the first step to a loop. -/
def headerAheadText : String :=
  "steps: [a, \x7bname: j, jump: l\x7d, \x7bname: l, iterate: xs, children: [b]\x7d, c]"

/-- The flow of `headerAheadText`. -/
def headerAheadFlow : Flow where
  name := "unnamed flow"
  steps := .ofList [
    ("a", { name := "a", transitions := [.plain "j"] }),
    ("j", { name := "j", transitions := [.plain "l"], config := { kind := .jump, auto := true } }),
    ("l", { name := "l", transitions := [.plain "b", .plain "c"],
            config := { kind := .loop, iterate := some "xs" } }),
    ("b", { name := "b", transitions := [.plain "l"] }),
    ("c", { name := "c" })]
  entry := "a"

theorem parse?_headerAheadText : Yaml.parse? headerAheadText = some (.obj [("steps", .arr [.str "a",
    .obj [("jump", .str "l"), ("name", .str "j")],
    .obj [("children", .arr [.str "b"]), ("iterate", .str "xs"), ("name", .str "l")],
    .str "c"])]) := by
  decide +kernel

theorem compile_headerAheadText :
    compile headerAheadText = .ok (headerAheadFlow, [⟨.deadEnd, some "c"⟩]) :=
  Flow.compile_of_document parse?_headerAheadText (by cbv) (by cbv) rfl

/-- A run of it over two items that has just begun, and may follow one arrival by another. -/
def headerAhead : Engine where
  store := Store.empty.saveLive
    (.initial "unnamed flow" "a" [("xs", .arr [.int 5, .int 7])] ⟨0⟩)
  hooks := .empty
  limits := { autoSteps := 1 }
  flow := some headerAheadFlow

/-- The run after the output of its first step. -/
def pastHeader : Engine := (headerAhead.execute ⟨1⟩ (.submit [])).1

/-- Its state when it came to the jump. -/
def atJump : RunState where
  flowName := "unnamed flow"
  currentStep := "j"
  status := .running
  data := [("a", .obj []), ("xs", .arr [.int 5, .int 7])]
  loops := .empty
  startedAt := ⟨0⟩

/-- The output takes the run to the jump, and there it is given up, with a counter of the loop. -/
theorem submit_headerAhead :
    (headerAhead.execute ⟨1⟩ (.submit [])).2 = .refused (.tooManySteps "j" 1) ∧
      pastHeader.current = .ok (some { atJump with loops := .ofList [("l", ⟨0, 2⟩)] }) := by
  cbv

/-- The run is given up at the jump, with a counter of the loop behind it, and sets out with it. -/
theorem execute_givenUp_headerAhead :
    (headerAhead.execute ⟨1⟩ (.submit [])).2 = .refused (.tooManySteps "j" 1) ∧
      ∃ trip landing passes here, headerAhead.SetsOut ⟨1⟩ (.submit []) trip ∧
        trip.BreaksOff landing passes ∧ pastHeader.store.live = some (.ofState here) ∧
        here.loops = .ofList [("l", ⟨0, 2⟩)] ∧
        ∀ later next onward, pastHeader.SetsOut later next onward →
          onward.start.loops = .ofList [("l", ⟨0, 2⟩)] := by
  obtain ⟨gaveUp, left⟩ := submit_headerAhead
  have vetted : headerAhead.Vetted := by
    intro flow loaded
    exact ⟨_, _, Option.some.inj loaded ▸ compile_headerAheadText⟩
  obtain ⟨trip, landing, passes, here, sets, breaks, live, -, -, -, -, again⟩ :=
    execute_givenUp vetted gaveUp True.intro
  rw [← pastHeader] at live again
  have loops : here.loops = .ofList [("l", ⟨0, 2⟩)] :=
    (congrArg RunState.loops (eq_of_current live left)).symm
  refine ⟨gaveUp, trip, landing, passes, here, sets, breaks, live, loops, ?_⟩
  intro later next onward out
  rw [(again later next onward out).1, loops]

/-- The states that an operation saves, the first one first. -/
def savedBy (e : Engine) (now : Instant) (command : Command) : List RunState :=
  match e.plan now command with
  | .ok plan => plan.writes.filterMap Write.saved?
  | .error _ => []

/-- **Given up in front of a loop, a run loses the first item.**  The output of the first step takes
the run to the jump, where it is saved without a counter, and no further.  But the row that is left
counts the first item of the loop, to whose body the run never came; and as the next output takes it
to the body for the second item at once, it never does. -/
theorem loses_item_headerAhead :
    headerAhead.flow = some headerAheadFlow ∧ headerAheadFlow.Accepted ∧
      (headerAhead.savedBy ⟨1⟩ (.submit [])).map
        (fun state => (state.currentStep, state.loops.entries)) =
          [("a", []), ("j", []), ("j", [("l", ⟨0, 2⟩)])] ∧
      (headerAhead.execute ⟨1⟩ (.submit [])).2 = .refused (.tooManySteps "j" 1) ∧
      pastHeader.current = .ok (some { atJump with loops := .ofList [("l", ⟨0, 2⟩)] }) ∧
      (pastHeader.execute ⟨2⟩ (.submit [])).2 = .arrived "b" ∧
      (pastHeader.execute ⟨2⟩ (.submit [])).1.current = .ok (some
        { atJump with
          currentStep := "b"
          data := [("a", .obj []), ("j", .obj []), ("xs", .arr [.int 5, .int 7])]
          loops := .ofList [("l", ⟨1, 2⟩)] }) := by
  obtain ⟨gaveUp, left⟩ := submit_headerAhead
  refine ⟨rfl, ⟨_, _, compile_headerAheadText⟩, ?_, gaveUp, left, ?_⟩
  · cbv
  · cbv

end Engine

end Runbook
