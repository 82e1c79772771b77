import Runbook.Engine.Basic
import Runbook.Proofs.Json.ReadBack

/-!
# Reading the live row

A row that can be read agrees with the state that is read from it in everything that is kept as it
is: the name of the flow, the current step, and the name of the status.

## Main statements

* `LiveRow.eq_of_read`: what a row and its state have in common
* `LiveRow.read_ofState_of_data`: the row of a state can be read if its parts can
* `Engine.exists_row_of_current`: the live state is read from the live row
-/

namespace Runbook

theorem Status.name_eq_of_parse {text : String} {status : Status}
    (parsed : Status.parse text = .ok status) : status.name = text := by
  unfold Status.parse at parsed
  split at parsed
  · rename_i found
    obtain rfl := Except.ok.inj parsed
    simpa using List.find?_some found
  · cases parsed

/-- Different statuses have different names. -/
@[simp] theorem Status.name_inj {a b : Status} : a.name = b.name ↔ a = b := by
  constructor
  · intro same
    have parsed := Status.parse_name a
    rw [same, Status.parse_name] at parsed
    exact (Except.ok.inj parsed).symm
  · rintro rfl
    rfl

namespace LiveRow

theorem name_eq_of_readStatus {text : String} {status : Status}
    (read : readStatus text = .ok status) : status.name = text := by
  unfold readStatus at read
  split at read
  · rename_i parsed
    obtain rfl := Except.ok.inj read
    exact Status.name_eq_of_parse parsed
  · cases read

/-- The parts of a row that can be read. -/
theorem parts_of_read {row : LiveRow} {state : RunState} (read : row.read = .ok state) :
    readStatus row.status = .ok state.status ∧
      readData (Json.parseObject? row.data) = .ok state.data ∧
      readData ((Json.scan? row.loops).bind RunState.loopsOfJson?) = .ok state.loops ∧
      readTime "started_at" row.startedAt = .ok state.startedAt ∧
      row.flowName = state.flowName ∧ row.currentStep = state.currentStep := by
  unfold LiveRow.read at read
  cases status : readStatus row.status with
  | error fault =>
    rw [status] at read
    cases read
  | ok status' =>
    cases data : readData (Json.parseObject? row.data) with
    | error fault =>
      simp only [status, data, bind, Except.bind] at read
      cases read
    | ok data' =>
      cases loops : readData ((Json.scan? row.loops).bind RunState.loopsOfJson?) with
      | error fault =>
        simp only [status, data, loops, bind, Except.bind] at read
        cases read
      | ok loops' =>
        cases started : readTime "started_at" row.startedAt with
        | error fault =>
          simp only [status, data, loops, started, bind, Except.bind] at read
          cases read
        | ok started' =>
          simp only [status, data, loops, started, bind, Except.bind] at read
          obtain rfl := Except.ok.inj read
          exact ⟨rfl, rfl, rfl, rfl, rfl, rfl⟩

/-- A row and the state that is read from it have the flow, the step and the status in common. -/
theorem eq_of_read {row : LiveRow} {state : RunState} (read : row.read = .ok state) :
    row.flowName = state.flowName ∧ row.currentStep = state.currentStep ∧
      row.status = state.status.name := by
  obtain ⟨status, -, -, -, flow, step⟩ := parts_of_read read
  exact ⟨flow, step, (name_eq_of_readStatus status).symm⟩

end LiveRow

/-! ## The active loops -/

namespace LoopCounter

theorem natural?_reread {n m : Nat} {value : Json}
    (back : Json.numeral? (Json.writeInt n) = some value) (natural : value.natural? = some m) :
    m = n := by
  rcases Json.numeral?_writeInt_cases n with same | ⟨x?, same⟩
  · obtain rfl := Option.some.inj (same.symm.trans back)
    simpa [Json.natural?] using natural.symm
  · rw [same, Option.map_eq_some_iff] at back
    obtain ⟨x, -, rfl⟩ := back
    cases natural

theorem ofJson?_obj (index count : Json) :
    ofJson? (.obj [("index", index), ("count", count)]) =
      index.natural?.bind fun index => count.natural?.bind fun count => some ⟨index, count⟩ := rfl

/-- A counter that comes back is the one that was written. -/
theorem eq_of_reread {counter back : LoopCounter} {depth : Nat} {value : Json}
    (reread : Json.reread? depth counter.toJson = some value)
    (read : LoopCounter.ofJson? value = some back) : back = counter := by
  rw [toJson, Json.reread?] at reread
  split at reread
  · cases reread
  -- both numbers may come back as doubles, but then they are no counters
  simp only [Json.rereadFields?, Json.reread?] at reread
  cases index : Json.numeral? (Json.writeInt counter.index) with
  | none =>
    rw [index] at reread
    cases reread
  | some i =>
    cases count : Json.numeral? (Json.writeInt counter.count) with
    | none =>
      rw [index, count] at reread
      cases reread
    | some n =>
      rw [index, count] at reread
      obtain rfl := Option.some.inj reread
      rw [ofJson?_obj] at read
      cases naturalIndex : i.natural? with
      | none =>
        rw [naturalIndex] at read
        cases read
      | some index' =>
        cases naturalCount : n.natural? with
        | none =>
          rw [naturalIndex, naturalCount] at read
          cases read
        | some count' =>
          rw [naturalIndex, naturalCount] at read
          obtain rfl := Option.some.inj read
          rw [natural?_reread index naturalIndex, natural?_reread count naturalCount]

/-- A counter of numbers of 64 bits comes back. -/
theorem reread_bind {counter : LoopCounter} (index : counter.index ≤ Json.maxUnsigned)
    (count : counter.count ≤ Json.maxUnsigned) (depth : Nat) :
    (Json.reread? (depth + 1) counter.toJson).bind ofJson? = some counter := by
  have fits {n : Nat} (small : n ≤ Json.maxUnsigned) : Json.Fits n := by
    unfold Json.Fits
    omega
  rw [toJson, Json.reread?, if_neg (Nat.succ_ne_zero depth)]
  simp only [Json.rereadFields?, Json.reread?, Json.numeral?_writeInt (fits index),
    Json.numeral?_writeInt (fits count)]
  show ofJson? (.obj [("index", .int counter.index), ("count", .int counter.count)]) = some counter
  rw [ofJson?_obj]
  simp [Json.natural?]

end LoopCounter

namespace RunState

theorem entries_of_reread {entries back : List (String × LoopCounter)} {depth : Nat}
    {fields : List (String × Json)}
    (reread : Json.rereadFields? depth (entries.map fun loop => (loop.1, loop.2.toJson)) =
      some fields)
    (read : (fields.mapM fun field =>
      (LoopCounter.ofJson? field.2).map fun c => (field.1, c)) = some back) : back = entries := by
  induction entries generalizing fields back with
  | nil =>
    obtain rfl := Option.some.inj reread
    obtain rfl := Option.some.inj read
    rfl
  | cons loop entries ih =>
    obtain ⟨name, counter⟩ := loop
    rw [List.map_cons, Json.rereadFields?, Option.bind_eq_some_iff] at reread
    obtain ⟨value, first, reread⟩ := reread
    obtain ⟨others, rest, rfl⟩ := Option.map_eq_some_iff.1 reread
    rw [List.mapM_cons] at read
    cases counted : LoopCounter.ofJson? value with
    | none =>
      rw [counted] at read
      cases read
    | some counter' =>
      cases mapped : others.mapM fun field =>
          (LoopCounter.ofJson? field.2).map fun c => (field.1, c) with
      | none =>
        rw [counted, mapped] at read
        cases read
      | some pairs =>
        rw [counted, mapped] at read
        obtain rfl := Option.some.inj read
        rw [ih rest mapped, LoopCounter.eq_of_reread first counted]

/-- **The active loops come back as they were**, if they come back at all. -/
theorem loops_of_reread? {loops back : Dict LoopCounter} {depth : Nat}
    (read : (Json.reread? depth (loopsToJson loops)).bind loopsOfJson? = some back) :
    back = loops := by
  obtain ⟨value, whole, loopsRead⟩ := Option.bind_eq_some_iff.1 read
  rw [loopsToJson, Json.reread?] at whole
  split at whole
  · cases whole
  obtain ⟨fields, reread, rfl⟩ := Option.map_eq_some_iff.1 whole
  obtain ⟨pairs, counters, rfl⟩ := Option.map_eq_some_iff.1 loopsRead
  obtain rfl := entries_of_reread reread counters
  exact Dict.ext_entries (Dict.entries_ofList loops.nodup)

/-- So they do from a text of their own. -/
theorem loops_of_scan? {loops back : Dict LoopCounter}
    (read : (Json.scan? (loopsToJson loops).compress).bind loopsOfJson? = some back) :
    back = loops := by
  rw [Json.scan?_compress] at read
  exact loops_of_reread? read

theorem entries_reread {entries : List (String × LoopCounter)} (depth : Nat)
    (small : ∀ loop ∈ entries,
      loop.2.index ≤ Json.maxUnsigned ∧ loop.2.count ≤ Json.maxUnsigned) :
    (Json.rereadFields? (depth + 1) (entries.map fun loop => (loop.1, loop.2.toJson))).bind
      (fun fields => fields.mapM fun field =>
        (LoopCounter.ofJson? field.2).map fun c => (field.1, c)) = some entries := by
  induction entries with
  | nil => rfl
  | cons loop entries ih =>
    obtain ⟨name, counter⟩ := loop
    rw [List.forall_mem_cons] at small
    obtain ⟨value, first, counted⟩ :=
      Option.bind_eq_some_iff.1 (LoopCounter.reread_bind small.1.1 small.1.2 depth)
    obtain ⟨others, rest, mapped⟩ := Option.bind_eq_some_iff.1 (ih small.2)
    rw [List.map_cons, Json.rereadFields?, first, Option.bind_some, rest, Option.map_some,
      Option.bind_some, List.mapM_cons, counted, mapped]
    rfl

/-- Active loops with counters of 64 bits come back, with two containers around the numbers. -/
theorem reread?_loopsToJson {loops : Dict LoopCounter} (depth : Nat)
    (small : ∀ loop ∈ loops.entries,
      loop.2.index ≤ Json.maxUnsigned ∧ loop.2.count ≤ Json.maxUnsigned) :
    (Json.reread? (depth + 2) (loopsToJson loops)).bind loopsOfJson? = some loops := by
  obtain ⟨fields, reread, counters⟩ := Option.bind_eq_some_iff.1 (entries_reread depth small)
  rw [loopsToJson, Json.reread?, if_neg (Nat.succ_ne_zero _)]
  show ((Json.rereadFields? (depth + 1) _).map Json.obj).bind loopsOfJson? = some loops
  rw [reread]
  show Option.map Dict.ofList (List.mapM _ fields) = some loops
  rw [counters, Option.map_some, Dict.ext_entries (Dict.entries_ofList loops.nodup)]

/-- So they do from a text of their own. -/
theorem scan?_loopsToJson {loops : Dict LoopCounter}
    (small : ∀ loop ∈ loops.entries,
      loop.2.index ≤ Json.maxUnsigned ∧ loop.2.count ≤ Json.maxUnsigned) :
    (Json.scan? (loopsToJson loops).compress).bind loopsOfJson? = some loops := by
  rw [Json.scan?_compress]
  exact reread?_loopsToJson 125 small

end RunState

/-- The row of a state can be read if its parts can, and only its data may have changed. -/
theorem LiveRow.read_ofState_of_data {state : RunState} {data : Json.Object}
    (parsed : Json.parseObject? (Json.Object.compress state.data) = some data)
    (small : ∀ loop ∈ state.loops.entries,
      loop.2.index ≤ Json.maxUnsigned ∧ loop.2.count ≤ Json.maxUnsigned)
    (started : Instant.parse? state.startedAt.render = some state.startedAt) :
    (LiveRow.ofState state).read = .ok { state with data } := by
  have status : readStatus state.status.name = .ok state.status := by
    rw [readStatus, Status.parse_name]
  have loops := RunState.scan?_loopsToJson small
  simp only [LiveRow.read, LiveRow.ofState, status, parsed, loops, readData, readTime, started]
  rfl

/-- **A state that is read back** is the one that was written, but for its data and its time. -/
theorem LiveRow.eq_of_read_ofState {state back : RunState}
    (read : (LiveRow.ofState state).read = .ok back) :
    back = { state with data := back.data, startedAt := back.startedAt } := by
  obtain ⟨status, -, loops, -, flow, step⟩ := parts_of_read read
  have status : back.status = state.status := Status.name_inj.1 (name_eq_of_readStatus status)
  have loops : back.loops = state.loops := by
    unfold readData at loops
    split at loops
    · rename_i value scanned
      obtain rfl := Except.ok.inj loops
      exact RunState.loops_of_scan? scanned
    · cases loops
  cases back
  cases state
  cases flow
  cases step
  cases status
  cases loops
  rfl

namespace Engine

/-- The live state can be read if the live row can. -/
theorem current_eq_ok {e : Engine} {row : LiveRow} {state : RunState}
    (live : e.store.live = some row) (read : row.read = .ok state) :
    e.current = .ok (some state) := by
  simp only [current, Store.current, live, read]
  rfl

/-- It cannot if the live row cannot. -/
theorem current_eq_error {e : Engine} {row : LiveRow} {fault : StoreFault}
    (live : e.store.live = some row) (read : row.read = .error fault) :
    e.current = .error (.store fault) := by
  simp only [current, Store.current, live, read]
  rfl

/-- The live state is read from the live row. -/
theorem exists_row_of_current {e : Engine} {state : RunState}
    (live : e.current = .ok (some state)) :
    ∃ row, e.store.live = some row ∧ row.read = .ok state := by
  unfold current at live
  split at live
  · rename_i found read
    obtain rfl := Except.ok.inj live
    unfold Store.current at read
    split at read
    · cases Except.ok.inj read
    · rename_i row here
      refine ⟨row, here, ?_⟩
      cases read' : row.read with
      | error fault =>
        rw [read'] at read
        cases read
      | ok state' =>
        rw [read'] at read
        exact congrArg Except.ok (Option.some.inj (Except.ok.inj read))
  · cases live

/-- The live state is the one that was saved, but for its data and its time. -/
theorem eq_of_current {e : Engine} {state back : RunState}
    (live : e.store.live = some (.ofState state)) (current : e.current = .ok (some back)) :
    back = { state with data := back.data, startedAt := back.startedAt } := by
  obtain ⟨row, here, read⟩ := exists_row_of_current current
  obtain rfl := Option.some.inj (here.symm.trans live)
  exact LiveRow.eq_of_read_ofState read

/-- If the flow of a run is loaded whenever there is one, it is loaded when the live state can be
read. -/
theorem flow_of_current {e : Engine} {flow : Flow}
    (loaded : e.store.live = none ∨ e.flow = some flow) {state : RunState}
    (live : e.current = .ok (some state)) : e.flow = some flow := by
  obtain ⟨row, here, -⟩ := exists_row_of_current live
  refine loaded.resolve_left ?_
  rw [here]
  exact Option.some_ne_none row

end Engine

end Runbook
