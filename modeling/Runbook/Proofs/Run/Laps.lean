import Runbook.Proofs.Run.Legs

/-!
# Loops, lap by lap

A loop is run over as many items as its list had when the run came to it first.  Between two passes
through its header anything may happen: other operations, other sessions, loops around it and in it,
jumps out of it and back, and outputs that change the list.  This module says that the loop does not
mind.  Its passes come in their order, whatever is in between, until the last of them leaves it.

## Main definitions

* `Pass.lap`: the passes of a loop by their number
* `Leg.laps`: the passes through one header among some legs
* `Leg.Makes`: a leg makes a pass, which leaves a counter and leads to a step

## Main statements

* `Step.pass_eq_lap`, `Step.pass_eq_next`: from lap to lap
* `Leg.Counted.laps`, `Leg.Counted.laps_of_counter`: the passes that are counted come in their order
* `Engine.laps_in_order`: in the course of a run each loop is run lap by lap

## Design notes

The passes are numbered from the one that finds no counter.  How many there are is decided there:
the laps after it are counted by what it left, and the list is not looked at again.  A list without
items, or something else than a list, is no special case.  There is a single pass then, which is the
last one, too.
-/

namespace Runbook

/-! ## Laps -/

/-- **The passes of a loop over some items, by their number.**  There is one for each item, and one
more that leaves the loop; if there are no items, that is the only one. -/
def Pass.lap (count number : Nat) : Pass :=
  if number < count then
    if number = 0 then .enter count else .next ⟨number, count⟩
  else if number = 0 then .skip else .complete

/-- The counter at an item, and none behind the last one. -/
def LoopCounter.at? (count number : Nat) : Option LoopCounter :=
  if number < count then some ⟨number, count⟩ else none

/-- A lap leaves the counter of its item. -/
theorem Pass.counter_lap (count number : Nat) :
    (lap count number).counter = LoopCounter.at? count number := by
  unfold lap LoopCounter.at?
  split
  · split
    · rename_i first
      rw [first]
      rfl
    · rfl
  · split <;> rfl

/-- A lap enters the body as long as there is an item for it. -/
theorem Pass.entersBody_lap (count number : Nat) :
    (lap count number).entersBody = decide (number < count) := by
  unfold lap
  split
  · rename_i item
    rw [decide_eq_true item]
    split <;> rfl
  · rename_i none
    rw [decide_eq_false none]
    split <;> rfl

namespace Step

variable {header : Step} {found : RunState}

/-- **Without a counter the first lap comes**, over the items that the list has then. -/
theorem pass_eq_lap (fresh : found.loops.get? header.name = none) :
    header.pass found = .lap (header.items found) 0 := by
  unfold pass Pass.lap
  rw [fresh]
  dsimp only
  split
  · rename_i empty
    rw [empty]
    rfl
  · rename_i some
    rw [if_pos (Nat.pos_of_ne_zero some)]
    rfl

/-- **With a counter the lap after it comes**, over as many items. -/
theorem pass_eq_next {count number : Nat}
    (counted : found.loops.get? header.name = some ⟨number, count⟩) :
    header.pass found = .lap count (number + 1) := by
  unfold pass Pass.lap
  rw [counted, if_neg (Nat.succ_ne_zero number), if_neg (Nat.succ_ne_zero number)]

end Step

namespace Leg

/-- The passes through a header among some legs. -/
def laps (header : String) (legs : List Leg) : List Leg :=
  legs.filter fun leg => leg.hop.header? == some header

/-- The leg makes the pass that the header makes of its state. -/
structure Passes (leg : Leg) (header : Step) (pass : Pass) : Prop where
  hop : leg.hop = .pass header.name pass (pass.apply header.name leg.found)
  made : pass = header.pass leg.found

variable {header : Step} {leg : Leg} {legs : List Leg} {counter : Option LoopCounter}

theorem laps_cons_of_ne {name : String} (other : leg.hop.header? ≠ some name) :
    laps name (leg :: legs) = laps name legs :=
  List.filter_cons_of_neg fun same => other (eq_of_beq same)

theorem laps_cons_of_eq {name : String} (same : leg.hop.header? = some name) :
    laps name (leg :: legs) = leg :: laps name legs :=
  List.filter_cons_of_pos (beq_iff_eq.2 same)

theorem length_laps (name : String) (legs : List Leg) :
    (laps name legs).length =
      ((hops legs).filter fun hop => hop.header? == some name).length := by
  rw [hops, List.filter_map, List.length_map]
  rfl

/-- A leg that is counted makes the pass that its header makes of its state. -/
theorem Counted.passes (counted : Leg.Counted header counter (leg :: legs))
    (same : leg.hop.header? = some header.name) :
    leg.Passes header (header.pass leg.found) ∧
      Leg.Counted header (header.pass leg.found).counter legs := by
  obtain ⟨-, -, made, rest⟩ := counted
  cases hop : leg.hop with
  | pass name pass after =>
    rw [hop] at same
    obtain rfl := Option.some.inj same
    obtain ⟨rfl, rfl⟩ := made pass after hop
    refine ⟨⟨hop, rfl⟩, ?_⟩
    rwa [hop, Hop.count, if_pos rfl] at rest
  | _ =>
    rw [hop] at same
    cases same

/-- A leg that makes no pass through the header leaves the count as it is. -/
theorem Counted.of_ne (counted : Leg.Counted header counter (leg :: legs))
    (other : leg.hop.header? ≠ some header.name) : Leg.Counted header counter legs := by
  obtain ⟨-, -, -, rest⟩ := counted
  rwa [Hop.count_of_ne other] at rest

/-- **From an item on, the passes that are counted come in their order**, up to the one that leaves
the loop. -/
theorem Counted.laps_of_counter {count number : Nat}
    (counted : Leg.Counted header (some ⟨number, count⟩) legs) {k : Nat} {lap : Leg}
    (made : (laps header.name legs)[k]? = some lap) (within : number + 1 + k ≤ count) :
    lap.Passes header (.lap count (number + 1 + k)) := by
  induction legs generalizing number k with
  | nil => cases made
  | cons leg legs ih =>
    by_cases same : leg.hop.header? = some header.name
    · rw [laps_cons_of_eq same] at made
      obtain ⟨passes, rest⟩ := counted.passes same
      rw [Step.pass_eq_next counted.1] at passes rest
      cases k with
      | zero =>
        obtain rfl := Option.some.inj made
        exact passes
      | succ k =>
        rw [Pass.counter_lap, LoopCounter.at?, if_pos (by omega)] at rest
        have later := ih rest made (by omega)
        rwa [show number + 1 + 1 + k = number + 1 + (k + 1) by omega] at later
    · rw [laps_cons_of_ne same] at made
      exact ih (counted.of_ne same) made within

/-- **From no counter on, the passes that are counted come in their order**, up to the one that
leaves the loop, over the items that the first of them found. -/
theorem Counted.laps (counted : Leg.Counted header none legs) {first lap : Leg} {k : Nat}
    (begins : (laps header.name legs).head? = some first)
    (made : (laps header.name legs)[k]? = some lap) (within : k ≤ header.items first.found) :
    lap.Passes header (.lap (header.items first.found) k) := by
  induction legs with
  | nil => cases made
  | cons leg legs ih =>
    by_cases same : leg.hop.header? = some header.name
    · rw [laps_cons_of_eq same] at begins made
      obtain rfl := Option.some.inj begins
      obtain ⟨passes, rest⟩ := counted.passes same
      rw [Step.pass_eq_lap counted.1] at passes rest
      cases k with
      | zero =>
        obtain rfl := Option.some.inj made
        exact passes
      | succ k =>
        rw [Pass.counter_lap, LoopCounter.at?, if_pos (by omega)] at rest
        have later := rest.laps_of_counter made (by omega)
        rwa [show 0 + 1 + k = k + 1 by omega] at later
    · rw [laps_cons_of_ne same] at begins made
      exact ih (counted.of_ne same) begins made

/-- The leg makes a pass through the header, which leaves this counter and leads to this step. -/
structure Makes (flow : Flow) (leg : Leg) (header : Step) (pass : Pass)
    (counter : Option LoopCounter) (target : String) : Prop where
  /-- The pass is the one that the header makes of the state of the leg. -/
  passes : leg.Passes header pass
  /-- The counter of the loop is this one then. -/
  counts : leg.hop.state.loops.get? header.name = counter
  /-- The journey goes on with an arrival at the step. -/
  leads : ∃ (track : Track) (budget : Nat), track.flow = flow ∧
    leg.onward = track.arrive budget leg.hop.state target true

/-- **A lap leaves the counter of its item and leads into the body**, and behind the last item it
leaves none and leads out. -/
theorem Passes.makes {flow : Flow} (filed : flow.step? header.name = some header)
    {body exit : Transition} {more : List Transition}
    (transitions : header.transitions = body :: exit :: more) (leads : leg.Leads flow)
    {count number : Nat} (passes : leg.Passes header (.lap count number)) :
    leg.Makes flow header (.lap count number) (LoopCounter.at? count number)
      (if number < count then body.target else exit.target) where
  passes := passes
  counts := by
    have left := header.get?_apply_pass leg.found
    rw [← passes.made, Pass.counter_lap] at left
    rw [passes.hop]
    exact left
  leads := by
    obtain ⟨found, body', exit', more', filed', transitions', track, budget, through, onward⟩ :=
      leads _ _ _ passes.hop
    obtain rfl := Option.some.inj (filed'.symm.trans filed)
    obtain ⟨rfl, rest⟩ := List.cons.inj (transitions'.symm.trans transitions)
    obtain ⟨rfl, -⟩ := List.cons.inj rest
    refine ⟨track, budget, through, ?_⟩
    rw [onward, Pass.entersBody_lap, passes.hop]
    simp only [decide_eq_true_eq]
    rfl

/-- Each leg that is counted finds the counter that the legs before it left, and leaves the one that
is counted behind it. -/
theorem Counted.between {earlier later : List Leg}
    (counted : Leg.Counted header counter (earlier ++ leg :: later)) :
    leg.found.loops.get? header.name = Hop.tally header.name counter (hops earlier) ∧
      leg.hop.state.loops.get? header.name =
        Hop.tally header.name counter (hops (earlier ++ [leg])) := by
  obtain ⟨-, found, left, -⟩ := Leg.counted_append.1 counted
  rw [hops_append, Hop.tally_append]
  exact ⟨found, left⟩

end Leg

/-! ## The course of a run -/

namespace Engine

variable {e : Engine} {flow : Flow}

/-- **In the course of a run each loop is run lap by lap.**  Take any events that leave the run what
it is, all legs that they cover, and a loop of the flow.  Its counter is the one that its last pass
left, between any two legs and after any of the events.  Wherever it has none, the next pass finds a
list, and some items in it or none.  Then this pass and the next ones are the laps of the loop over
so many items: they count the items one by one and lead into the body, and the one behind the last
item leaves no counter and leads out. -/
theorem laps_in_order (accepted : flow.Accepted) {header : Step}
    (filed : flow.step? header.name = some header) (loops : header.config.isLoopHeader = true)
    (binds : e.Binds flow) {state : RunState} (live : e.current = .ok (some state))
    {events : List Event} (proceeds : ∀ event ∈ events, event.Proceeds flow) :
    let counter := fun legs =>
      Hop.tally header.name (state.loops.get? header.name) (Leg.hops legs)
    ∃ legs body exit more, header.transitions = body :: exit :: more ∧
      e.Covers events legs ∧ (∀ others, e.Covers events others → others = legs) ∧
      (∀ earlier leg later, legs = earlier ++ leg :: later →
        leg.found.loops.get? header.name = counter earlier ∧
          leg.hop.state.loops.get? header.name = counter (earlier ++ [leg])) ∧
      (∀ past future made, events = past ++ future → e.Covers past made →
        (∃ later, legs = made ++ later) ∧ (e.through past).Has header.name (counter made)) ∧
      ∀ earlier later first, legs = earlier ++ later → counter earlier = none →
        (Leg.laps header.name later).head? = some first →
        ∀ number lap, (Leg.laps header.name later)[number]? = some lap →
          number ≤ header.items first.found →
          lap.Makes flow header (.lap (header.items first.found) number)
            (LoopCounter.at? (header.items first.found) number)
            (if number < header.items first.found then body.target else exit.target) := by
  intro counter
  have has : e.Has header.name (state.loops.get? header.name) := by
    intro found current
    rw [Option.some.inj (Except.ok.inj (current.symm.trans live))]
  obtain ⟨body, exit, more, transitions⟩ := accepted.sound.loops filed loops
  obtain ⟨legs, covers⟩ := e.exists_covers events
  obtain ⟨counted, leads, -⟩ := covers.counted accepted filed binds proceeds has
  refine ⟨legs, body, exit, more, transitions, covers, fun others => covers.unique, ?_, ?_, ?_⟩
  · rintro earlier leg later rfl
    exact counted.between
  · rintro past future made rfl covers'
    rw [List.forall_mem_append] at proceeds
    obtain ⟨later, rest⟩ := (e.through past).exists_covers future
    obtain rfl := covers.unique (covers'.append rest)
    exact ⟨⟨later, rfl⟩, (covers'.counted accepted filed binds proceeds.1 has).2.2⟩
  · rintro earlier later first rfl fresh begins number lap made within
    have rest := (Leg.counted_append.1 counted).2
    rw [show Hop.tally _ _ (Leg.hops earlier) = none from fresh] at rest
    have among : lap ∈ earlier ++ later :=
      List.mem_append_right _ (List.mem_filter.1 (List.mem_of_getElem? made)).1
    exact (rest.laps begins made within).makes filed transitions (leads lap among)

/-- A definition with a loop whose body leads back by itself. -/
def roundsText : String :=
  "steps: [a, \x7bname: l, iterate: xs, children: [\x7bname: b, jump: l\x7d]\x7d, c]"

/-- The header of the loop. -/
def roundsHeader : Step where
  name := "l"
  transitions := [.plain "b", .plain "c"]
  config := { kind := .loop, iterate := some "xs" }

/-- The step in front of it. -/
def roundsEntry : Step := { name := "a", transitions := [.plain "l"] }

/-- The flow of `roundsText`. -/
def roundsFlow : Flow where
  name := "unnamed flow"
  steps := .ofList [
    ("a", roundsEntry),
    ("l", roundsHeader),
    ("b", { name := "b", transitions := [.plain "l"], config := { kind := .jump, auto := true } }),
    ("c", { name := "c" })]
  entry := "a"

theorem parse?_roundsText : Yaml.parse? roundsText = some (.obj [("steps", .arr [.str "a",
    .obj [("children", .arr [.obj [("jump", .str "l"), ("name", .str "b")]]),
      ("iterate", .str "xs"), ("name", .str "l")],
    .str "c"])]) := by
  decide +kernel

theorem compile_roundsText : compile roundsText = .ok (roundsFlow, [⟨.deadEnd, some "c"⟩]) :=
  Flow.compile_of_document parse?_roundsText (by cbv) (by cbv) rfl

/-- A run of it over two items that has just begun. -/
def rounds : Engine where
  store := Store.empty.saveLive
    (.initial "unnamed flow" "a" [("xs", .arr [.int 5, .int 7])] ⟨0⟩)
  hooks := .empty
  limits := {}
  flow := some roundsFlow

/-- The trip on which the output of its first step lets it set out. -/
def roundTrip : Trip :=
  .ofOutput rounds roundsFlow
    (.initial "unnamed flow" "a" [("xs", .arr [.int 5, .int 7])] ⟨0⟩) roundsEntry []

/-- One output takes the run through all laps of the loop. -/
theorem laps_in_order_rounds : ∃ legs,
    rounds.Covers [.operate ⟨1⟩ (.submit [])] legs ∧ (Leg.laps "l" legs).length = 3 ∧
      ∀ (number : Nat) (lap : Leg), (Leg.laps "l" legs)[number]? = some lap →
        lap.Makes roundsFlow roundsHeader (.lap 2 number) (LoopCounter.at? 2 number)
          (if number < 2 then "b" else "c") := by
  have accepted : roundsFlow.Accepted := ⟨_, _, compile_roundsText⟩
  have live : rounds.current =
      .ok (some (.initial "unnamed flow" "a" [("xs", .arr [.int 5, .int 7])] ⟨0⟩)) := by
    cbv
  have sets : rounds.SetsOut ⟨1⟩ (.submit []) roundTrip :=
    .submit live rfl (.intro rfl rfl (fun target chosen => by cases chosen) rfl rfl) rfl rfl
  obtain ⟨begins, passes⟩ : roundTrip.journey.hops.head?.bind Hop.header? = some "l" ∧
      (roundTrip.journey.hops.filter fun hop => hop.header? == some "l").length = 3 := by
    cbv
  have items : roundsHeader.items roundTrip.start = 2 := by cbv
  have filed : roundsFlow.step? roundsHeader.name = some roundsHeader := rfl
  have binds : rounds.Binds roundsFlow := fun found loaded => (Option.some.inj loaded).symm
  have proceeds : ∀ event ∈ [Event.operate ⟨1⟩ (.submit [])], event.Proceeds roundsFlow :=
    List.forall_mem_singleton.2 trivial
  obtain ⟨legs, body, exit, more, transitions, covers, only, -, -, inOrder⟩ :=
    laps_in_order accepted filed rfl binds live proceeds
  obtain rfl := only _ (.trip sets .nil)
  obtain ⟨rfl, rest⟩ := List.cons.inj transitions
  obtain ⟨rfl, -⟩ := List.cons.inj rest
  have length : (Leg.laps "l" (roundTrip.legs ++ [])).length = 3 := by
    rw [Leg.length_laps, List.append_nil, Trip.legs, Journey.hops_legs, passes]
  obtain ⟨first, head, found⟩ : ∃ first, (Leg.laps "l" (roundTrip.legs ++ [])).head? = some first ∧
      first.found = roundTrip.start := by
    cases hops : roundTrip.journey.hops with
    | nil =>
      rw [hops] at begins
      cases begins
    | cons hop others =>
      rw [hops] at begins
      rw [Trip.legs, Journey.legs, hops, Leg.ofHops, List.cons_append]
      refine ⟨_, congrArg List.head? (Leg.laps_cons_of_eq ?_), rfl⟩
      exact begins
  refine ⟨_, covers, length, fun number lap made => ?_⟩
  have within : number < 3 := length ▸ (List.getElem?_eq_some_iff.1 made).1
  have makes := inOrder [] _ first rfl rfl head number lap made
  rw [found, items] at makes
  exact makes (by omega)

end Engine

end Runbook
