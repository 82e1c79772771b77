import Runbook.Proofs.Json.Copied
import Runbook.Proofs.Run.Back
import Runbook.Proofs.Run.Place
import Runbook.Proofs.Store.Reread

/-!
# Back and forth

Going back twice leads to where the run was.  The first time a row is recorded about the step that
the run goes back to, so the second time there is one row more to look at.  It is about the step
where the run is then and leads nowhere; the row below it was the newest before, and it is about the
step where the run was.  Both are within the limit, for the first time one row at least had to be
passed by.

## Main definitions

* `Store.Saved`: the live row is that of a state
* `Engine.backTo`: the engine after its run was put back to a step

## Main statements

* `Store.rows_of_history_cons`: what is looked at when there is one row more
* `LiveRow.read_again`: a row that was read and saved again is read once more
* `Engine.execute_back_of_rows`: going back, by the rows that are looked at
* `Engine.exists_rows_backTo`: the rows that are looked at after that
* `Engine.back_twice`: going back twice
* `Engine.back_drifts`: what it may change all the same

## Design notes

That the newest row is about the step of the run is an invariant of all operations, and so is that
the live row was made from a state.  The second is what the time of the start needs: it is read and
written again, and a time that was written in another zone might not come back.

The row about going back has the time of the clock in it, which is only read in a year of four
digits.  Each time the data are written and read, and their doubles with them, so the data after
going back twice are a copy of a copy of the data before.
-/

namespace Runbook

/-! ## One row more -/

namespace Store

variable {store after : Store}

/-- If any rows are looked at, the newest one is. -/
theorem exists_rows_eq_cons {newest : HistoryRow} {older : List HistoryRow}
    (history : store.history = newest :: older) {limit : Nat} (some : store.rows limit ≠ []) :
    ∃ more, store.rows limit = newest :: more := by
  obtain ⟨rest, split⟩ := store.rows_prefix limit
  obtain ⟨first, more, same⟩ := List.exists_cons_of_ne_nil some
  rw [same, history, List.cons_append] at split
  obtain rfl := (List.cons.inj split).1
  exact ⟨more, same⟩

/-- With one row more in front, a limit leads to that row and to all but at most one of the rows to
which it led before. -/
theorem rows_of_history_cons {row : HistoryRow} (longer : after.history = row :: store.history)
    {limit : Nat} (positive : 0 < limit) :
    ∃ shorter, after.rows limit = row :: store.rows shorter ∧
      store.rows shorter <+: store.rows limit ∧
      (store.rows limit).length ≤ (store.rows shorter).length + 1 := by
  by_cases all : unlimited ≤ limit
  · refine ⟨limit, ?_, List.prefix_refl _, Nat.le_succ _⟩
    rw [rows, if_pos all, rows, if_pos all, longer]
  · obtain ⟨shorter, rfl⟩ := Nat.exists_eq_add_one_of_ne_zero (Nat.ne_of_gt positive)
    have some : ¬ unlimited ≤ shorter := fun many => all (Nat.le_succ_of_le many)
    refine ⟨shorter, ?_, ?_, ?_⟩
    · rw [rows, rows, if_neg all, if_neg some, longer, List.take_succ_cons]
    · rw [rows, rows, if_neg all, if_neg some]
      exact List.take_prefix_take_left (Nat.le_succ _)
    · rw [rows, rows, if_neg all, if_neg some, List.length_take, List.length_take]
      omega

/-- The rows of a history are all read, or none is. -/
theorem exists_mapM_read_iff {rows : List HistoryRow} :
    (∃ entries, rows.mapM HistoryRow.read = .ok entries) ↔
      ∀ row ∈ rows, ∃ entry, row.read = .ok entry := by
  induction rows with
  | nil => exact ⟨fun _ => List.forall_mem_nil _, fun _ => ⟨[], rfl⟩⟩
  | cons row rows ih =>
    rw [List.forall_mem_cons, ← ih, List.mapM_cons]
    cases row.read with
    | error fault => exact ⟨nofun, fun ⟨⟨_, same⟩, _⟩ => nomatch same⟩
    | ok entry =>
      cases rows.mapM HistoryRow.read with
      | error fault => exact ⟨nofun, fun ⟨_, _, same⟩ => nomatch same⟩
      | ok entries => exact ⟨fun _ => ⟨⟨entry, rfl⟩, entries, rfl⟩, fun _ => ⟨_, rfl⟩⟩

/-! ## The live row -/

/-- The live row, if there is one, is that of a state. -/
def Saved (store : Store) : Prop := ∀ row, store.live = some row → ∃ state, row = .ofState state

theorem Saved.apply (saved : store.Saved) (now : Instant) (w : Write) :
    (store.apply now w).Saved := by
  cases w with
  | live state => exact fun row here => ⟨state, (Option.some.inj here).symm⟩
  | record flow step action data => exact saved
  | checkpoint name state => exact saved
  | archive table schema payload =>
    obtain ⟨archives, same⟩ := apply_archive now store table schema payload
    rw [same]
    exact saved
  | clear => exact nofun

theorem Saved.applyAll (saved : store.Saved) (now : Instant) (writes : List Write) :
    (store.applyAll now writes).Saved := by
  induction writes generalizing store with
  | nil => exact saved
  | cons w writes ih => exact ih (saved.apply now w)

end Store

/-- A state whose row was read and is saved again, maybe at another step and with another status, is
read once more. -/
theorem LiveRow.read_again {row : LiveRow} {state : RunState} (read : row.read = .ok state)
    (started : 0 ≤ state.startedAt.date.year ∧ state.startedAt.date.year ≤ 9999) (step : String)
    (status : Status) :
    (LiveRow.ofState { state with currentStep := step, status }).read =
      .ok { state with currentStep := step, status, data := state.data.copy } := by
  have readable := readable_of_read read started
  obtain ⟨-, data, -⟩ := parts_of_read read
  exact read_ofState_of_data
    (Json.parseObject?_compress_of_read (eq_ok_of_readData data)) readable.loops
    (Instant.parse?_render started.1 started.2)

namespace Engine

variable {e : Engine} {now : Instant} {state : RunState}

/-- The engine after its run was put back to a step. -/
def backTo (e : Engine) (now : Instant) (state : RunState) (step : String) : Engine :=
  e.commit now (.act (mark { state with currentStep := step } .running .back) (.movedBack step))

/-- The run is where it was put, and its data were written and read once more. -/
theorem current_backTo (live : e.current = .ok (some state))
    (started : 0 ≤ state.startedAt.date.year ∧ state.startedAt.date.year ≤ 9999) (step : String) :
    (e.backTo now state step).current = .ok (some
      { state with currentStep := step, status := .running, data := state.data.copy }) := by
  obtain ⟨row, -, read⟩ := exists_row_of_current live
  exact current_eq_ok rfl (LiveRow.read_again read started step .running)

/-- The history has a row about that in front, which can be read if the clock is in a year of four
digits. -/
theorem exists_history_backTo (e : Engine) (now : Instant) (state : RunState) (step : String) :
    ∃ row, (e.backTo now state step).store.history = row :: e.store.history ∧ row.step = step ∧
      ((∃ entry, row.read = .ok entry) ↔ 0 ≤ now.date.year ∧ now.date.year ≤ 9999) := by
  refine ⟨_, rfl, rfl, fun ⟨entry, read⟩ => ?_, fun present => ?_⟩
  · exact Instant.year_of_parse?_render
      (LiveRow.parse?_of_readTime (Store.parts_of_read read).2.2)
  · exact ⟨_, HistoryRow.read_of_time .back rfl (Instant.parse?_render present.1 present.2)⟩

/-- Whatever an operation does, the live row is that of a state. -/
theorem saved_execute (saved : e.store.Saved) (now : Instant) (command : Command) :
    (e.execute now command).1.store.Saved := by
  rcases execute_cases e now command with ⟨why, same, -⟩ | ⟨plan, -, same⟩
  · rw [same]
    exact saved
  · rw [same]
    exact saved.applyAll now plan.writes

/-- A run that is read from the row of a state was started in a year of four digits. -/
theorem started_of_current (saved : e.store.Saved) (live : e.current = .ok (some state)) :
    0 ≤ state.startedAt.date.year ∧ state.startedAt.date.year ≤ 9999 := by
  obtain ⟨row, here, read⟩ := exists_row_of_current live
  obtain ⟨before, rfl⟩ := saved row here
  obtain ⟨-, -, -, started, -⟩ := LiveRow.parts_of_read read
  have parsed : Instant.parse? before.startedAt.render = some state.startedAt :=
    LiveRow.parse?_of_readTime started
  have years := Instant.year_of_parse?_render parsed
  have same := Option.some.inj ((Instant.parse?_render years.1 years.2).symm.trans parsed)
  exact same ▸ years

/-- The newest row of the history is about the step of the run. -/
theorem exists_newest (abreast : e.store.Abreast) (live : e.current = .ok (some state)) :
    ∃ newest older, e.store.history = newest :: older ∧ newest.step = state.currentStep := by
  obtain ⟨row, here, read⟩ := exists_row_of_current live
  rw [Store.Abreast, here, Store.notes, List.head?_map, Option.map_map, Option.map_some] at abreast
  obtain ⟨newest, first, same⟩ := Option.map_eq_some_iff.1 abreast.symm
  obtain ⟨older, split⟩ := List.head?_eq_some_iff.1 first
  refine ⟨newest, older, split, ?_⟩
  rw [← (LiveRow.eq_of_read read).2.1]
  exact (Prod.mk.inj same).2

/-- A run that goes back finds a row that allows it, and can read all rows up to the limit. -/
theorem exists_row_of_succeeded (live : e.current = .ok (some state))
    (succeeds : (e.execute now .back).2.succeeded = true) :
    (∀ row ∈ e.store.rows e.limits.backScan, ∃ entry, row.read = .ok entry) ∧
      ∃ row ∈ e.store.rows e.limits.backScan, e.allows state.currentStep row.note = true ∧
        e.execute now .back = (e.backTo now state row.step, .movedBack row.step) := by
  rcases execute_cases e now .back with ⟨why, same, -⟩ | ⟨plan, does, same⟩
  · rw [same] at succeeds
    cases succeeds
  cases does with
  | @back state' entries entry live' read found =>
    obtain rfl := Option.some.inj (Except.ok.inj (live.symm.trans live'))
    have about := find?_leadsBack read state
    rw [found, Option.map_some] at about
    obtain ⟨row, first, here⟩ := Option.map_eq_some_iff.1 about.symm
    have leads := List.find?_some first
    refine ⟨Store.exists_mapM_read_iff.1 ⟨entries, rows_of_history read⟩, row,
      List.mem_of_find?_eq_some first, leads, ?_⟩
    rw [here]
    exact same

/-- **A run goes back to the newest row that allows it**, if all rows up to the limit can be
read. -/
theorem execute_back_of_rows {row : HistoryRow} (live : e.current = .ok (some state))
    (readable : ∀ other ∈ e.store.rows e.limits.backScan, ∃ entry, other.read = .ok entry)
    (first : ((e.store.rows e.limits.backScan).find? fun other =>
      e.allows state.currentStep other.note) = some row) :
    e.execute now .back = (e.backTo now state row.step, .movedBack row.step) := by
  obtain ⟨entries, made⟩ := Store.exists_mapM_read_iff.2 readable
  have read : e.history (some e.limits.backScan) = .ok entries := by
    unfold history Store.entries
    rw [Option.getD_some, made]
  have about := find?_leadsBack read state
  rw [first, Option.map_some] at about
  obtain ⟨entry, found, here⟩ := Option.map_eq_some_iff.1 about
  rw [execute_of_plan (Does.back live read found).planned, here]
  rfl

/-- **After going back there is a way forth.**  Among the rows that are looked at then, the first is
about the step where the run is, and the second about the step where it was. -/
theorem exists_rows_backTo {newest row : HistoryRow} {older : List HistoryRow}
    (history : e.store.history = newest :: older)
    (readable : ∀ row ∈ e.store.rows e.limits.backScan, ∃ entry, row.read = .ok entry)
    (among : row ∈ e.store.rows e.limits.backScan) (apart : row.step ≠ newest.step)
    (now : Instant) (state : RunState) :
    ∃ passed rest, (e.backTo now state row.step).store.rows e.limits.backScan =
        passed :: newest :: rest ∧ passed.step = row.step ∧
      ((∃ entry, passed.read = .ok entry) ↔ 0 ≤ now.date.year ∧ now.date.year ≤ 9999) ∧
      ∀ other ∈ newest :: rest, ∃ entry, other.read = .ok entry := by
  obtain ⟨more, window⟩ := Store.exists_rows_eq_cons history (List.ne_nil_of_mem among)
  have positive : 0 < e.limits.backScan := by
    refine Nat.pos_of_ne_zero fun zero => ?_
    rw [zero, Store.rows, if_neg (by decide)] at among
    cases among
  -- the newest row was passed by to find another one, so the limit lets two of them through
  have two : 2 ≤ (e.store.rows e.limits.backScan).length := by
    rw [window] at among ⊢
    rcases List.mem_cons.1 among with rfl | below
    · exact absurd rfl apart
    · exact Nat.succ_le_succ (List.length_pos_of_mem below)
  obtain ⟨passed, longer, here, read_iff⟩ := e.exists_history_backTo now state row.step
  obtain ⟨shorter, again, fewer, enough⟩ := Store.rows_of_history_cons longer positive
  have some : e.store.rows shorter ≠ [] := by
    intro none
    rw [none] at enough
    exact absurd (two.trans enough) (by decide)
  obtain ⟨rest, below⟩ := Store.exists_rows_eq_cons history some
  refine ⟨passed, rest, by rw [again, below], here, read_iff, fun other member => ?_⟩
  exact readable other (fewer.subset (below ▸ member))

/-- In a session that began with an empty store the newest row is about the step of the run, and
the live row is that of a state. -/
theorem abreast_and_saved_through (hooks : Registry) (limits : Limits) (events : List Event) :
    ((new hooks limits).through events).store.Abreast ∧
      ((new hooks limits).through events).store.Saved :=
  through_induction (fun store => store.Abreast ∧ store.Saved) (fun _ => True) (fun _ => True)
    (fun _ now command vetted holds _ _ =>
      ⟨abreast_execute vetted holds.1 now command, saved_execute holds.2 now command⟩)
    (fun _ _ _ => trivial) _ (fun _ _ => trivial) (vetted_opening .empty hooks limits)
    ⟨rfl, nofun⟩

/-- Whoever went back goes forth again, to the step where the run was, unless the row about going
back cannot be read. -/
theorem back_and_forth (abreast : e.store.Abreast) (live : e.current = .ok (some state))
    (started : 0 ≤ state.startedAt.date.year ∧ state.startedAt.date.year ≤ 9999)
    (declared : ∀ flow, e.flow = some flow → flow.contains state.currentStep = true)
    (succeeds : (e.execute now .back).2.succeeded = true) (later : Instant) :
    ∃ step once, e.execute now .back = (once, .movedBack step) ∧ step ≠ state.currentStep ∧
      once.current = .ok (some
        { state with currentStep := step, status := .running, data := state.data.copy }) ∧
      ((once.execute later .back).2.succeeded = true ↔
        0 ≤ now.date.year ∧ now.date.year ≤ 9999) ∧
      ((once.execute later .back).2.succeeded = true →
        ∃ twice, once.execute later .back = (twice, .movedBack state.currentStep) ∧
          twice.current = .ok (some
            { state with status := .running, data := state.data.copy.copy })) := by
  obtain ⟨newest, older, history, atNewest⟩ := exists_newest abreast live
  obtain ⟨readable, row, among, leads, first⟩ := exists_row_of_succeeded live succeeds
  have apart : row.step ≠ state.currentStep := (allows_iff.1 leads).1
  obtain ⟨passed, rest, window, here, read_iff, readable⟩ :=
    exists_rows_backTo history readable among (atNewest ▸ apart) now state
  have once : (e.backTo now state row.step).current = _ := current_backTo live started row.step
  have passes : (e.backTo now state row.step).allows row.step passed.note = false := by
    simp [allows, HistoryRow.note, here]
  have returns : (e.backTo now state row.step).allows row.step newest.note = true := by
    refine allows_iff.2 ⟨fun same => apart (same.symm.trans atNewest), fun flow loaded => ?_⟩
    rw [show newest.note.step = state.currentStep from atNewest]
    exact declared flow loaded
  have found : (((e.backTo now state row.step).store.rows e.limits.backScan).find? fun other =>
      (e.backTo now state row.step).allows row.step other.note) = some newest := by
    rw [window, List.find?_cons, passes, List.find?_cons, returns]
  have second (present : 0 ≤ now.date.year ∧ now.date.year ≤ 9999) :
      (e.backTo now state row.step).execute later .back = _ :=
    execute_back_of_rows once
      (window ▸ List.forall_mem_cons.2 ⟨read_iff.2 present, readable⟩) found
  have twice : ((e.backTo now state row.step).backTo later _ newest.step).current = _ :=
    current_backTo once started newest.step
  rw [atNewest] at second twice
  have again : ((e.backTo now state row.step).execute later .back).2.succeeded = true ↔
      0 ≤ now.date.year ∧ now.date.year ≤ 9999 := by
    constructor
    · intro succeeds
      have legible := (exists_row_of_succeeded once succeeds).1
      exact read_iff.1 (legible passed (window ▸ .head _))
    · intro present
      rw [second present]
      rfl
  exact ⟨row.step, _, first, apart, once, again, fun succeeds =>
    ⟨_, second (again.1 succeeds), twice⟩⟩

/-- **Going back twice leads to where the run was.**  Take any session that began with an empty
store, and a run at a step that the loaded flow has, if one is loaded.  If the run can go back, it
can go back once more, provided the row about the first time can be read, which is so if the clock
was in a year of four digits then.  It is where it was after that, whatever the limit is, with the
counters of its loops as they were.  Its data are a copy of a copy of what they were, and the same
if there are no doubles among them. -/
theorem back_twice {hooks : Registry} {limits : Limits} {events : List Event}
    (reached : (new hooks limits).through events = e) (live : e.current = .ok (some state))
    (declared : ∀ flow, e.flow = some flow → flow.contains state.currentStep = true)
    (succeeds : (e.execute now .back).2.succeeded = true) (later : Instant) :
    ∃ step once, e.execute now .back = (once, .movedBack step) ∧ step ≠ state.currentStep ∧
      ((once.execute later .back).2.succeeded = true ↔
        0 ≤ now.date.year ∧ now.date.year ≤ 9999) ∧
      ((once.execute later .back).2.succeeded = true →
        ∃ twice, once.execute later .back = (twice, .movedBack state.currentStep) ∧
          twice.current = .ok (some
            { state with status := .running, data := state.data.copy.copy }) ∧
          (Json.Whole (.obj state.data) →
            twice.current = .ok (some { state with status := .running }))) := by
  obtain ⟨abreast, saved⟩ := reached ▸ abreast_and_saved_through hooks limits events
  have started := started_of_current saved live
  obtain ⟨step, once, first, apart, -, again, second⟩ :=
    back_and_forth abreast live started declared succeeds later
  refine ⟨step, once, first, apart, again, fun succeeds => ?_⟩
  obtain ⟨twice, moved, after⟩ := second succeeds
  refine ⟨twice, moved, after, fun whole => ?_⟩
  obtain ⟨row, -, read⟩ := exists_row_of_current live
  obtain ⟨-, data, -⟩ := LiveRow.parts_of_read read
  have same := Json.Object.copy_of_read (LiveRow.eq_ok_of_readData data) whole
  rw [after, same, same]

end Engine

/-! ## A double that drifts -/

namespace Engine

/-- The run at a step of the flow, with a number in its data. -/
def atPair (step : String) (x : Double) : RunState :=
  .initial "unnamed flow" step [("x", .double x)] ⟨0⟩

/-- What is read of the row of the run. -/
theorem read_atPair (step : String) {x : Double} (proper : x.Proper) :
    (LiveRow.ofState (atPair step x)).read = .ok (atPair step x.copy) := by
  have readable : Json.Readable 127 (.obj [("x", .double x)]) :=
    .obj (List.forall_mem_singleton.2 (.double proper))
  have data : Json.parseObject? (Json.Object.compress [("x", .double x)]) =
      some [("x", .double x.copy)] := by
    have scanned : Json.scan? (Json.Object.compress [("x", .double x)]) = _ :=
      (Json.scan?_compress _).trans readable.reread?_eq_copy
    rw [Json.parseObject?, Json.parse?, scanned]
    simp [Json.copy, Json.copyFields, Json.canonical, Json.canonicalFields, Json.obj?,
      Fields.ofList, Fields.insert]
  exact LiveRow.read_ofState_of_data data (List.forall_mem_nil _)
    (show Instant.parse? (⟨0⟩ : Instant).render = some ⟨0⟩ by decide)

/-- The double of the data, by the last bits. -/
def drifting (bits : Nat) : Double := ⟨false, 5916456789157580 + bits, 103⟩

theorem proper_drifting {bits : Nat} (small : bits < 10) : (drifting bits).Proper := by
  refine ⟨?_, ?_, ?_⟩
  · show 5916456789157580 + bits < _
    omega
  · show Double.minExponent ≤ 103
    decide
  · show 103 ≤ Double.maxExponent
    decide

theorem copy_drifting : (drifting 8).copy = drifting 7 ∧ (drifting 7).copy = drifting 6 ∧
    (drifting 6).copy = drifting 5 ∧ (drifting 5).copy = drifting 4 := by
  decide +kernel

/-- A run of two steps that begins with some data, and is put at the second one. -/
def pairEvents (data : Json.Object) : List Event :=
  [.operate ⟨0⟩ (.start Flow.pairText data), .operate ⟨1⟩ (.goto "b")]

/-- The row about the start of the run. -/
def startRow : HistoryRow := ⟨1, "unnamed flow", "a", "start", none, (⟨0⟩ : Instant).render⟩

/-- The row about the jump. -/
def jumpRow : HistoryRow := ⟨2, "unnamed flow", "b", "goto", none, (⟨1⟩ : Instant).render⟩

/-- The engine with some of those rows and a run at a step. -/
def pairEngine (rows : List HistoryRow) (step : String) (data : Json.Object) : Engine where
  store := { live := some (.ofState (.initial "unnamed flow" step data ⟨0⟩))
             history := rows
             lastId := rows.length
             checkpoints := []
             archives := [] }
  hooks := .empty
  limits := {}
  flow := some Flow.pairFlow

theorem execute_pair_start (data : Json.Object) :
    ((new .empty {}).execute ⟨0⟩ (.start Flow.pairText data)).1 =
      pairEngine [startRow] "a" data := by
  rw [execute_start (free_of_empty rfl) _ Flow.compile_pairText]
  cbv

/-- What was read of the row of the run before the jump is in the row after it. -/
theorem through_pairEvents {data copied : Json.Object}
    (read : (LiveRow.ofState (.initial "unnamed flow" "a" data ⟨0⟩)).read =
      .ok (.initial "unnamed flow" "a" copied ⟨0⟩)) :
    (new .empty {}).through (pairEvents data) = pairEngine [jumpRow, startRow] "b" copied := by
  have live : (pairEngine [startRow] "a" data).current = _ := current_eq_ok rfl read
  have bound : (pairEngine [startRow] "a" data).flowOf (.initial "unnamed flow" "a" copied ⟨0⟩) =
      .ok Flow.pairFlow := by cbv
  have known : Flow.pairFlow.contains "b" = true := by cbv
  simp only [pairEvents, through_cons, through_nil, Event.apply]
  rw [execute_pair_start, execute_of_plan (Does.goto live bound known).planned]
  rfl

theorem contains_of_pairFlow (flow : Flow) (loaded : some Flow.pairFlow = some flow) :
    flow.contains "b" = true := by
  obtain rfl := Option.some.inj loaded
  cbv

theorem execute_back_pair {data copied : Json.Object}
    (read : (LiveRow.ofState (.initial "unnamed flow" "b" data ⟨0⟩)).read =
      .ok (.initial "unnamed flow" "b" copied ⟨0⟩)) (now : Instant) :
    (pairEngine [jumpRow, startRow] "b" data).execute now .back =
      ((pairEngine [jumpRow, startRow] "b" data).backTo now
        (.initial "unnamed flow" "b" copied ⟨0⟩) "a", .movedBack "a") := by
  have live : (pairEngine [jumpRow, startRow] "b" data).current = _ := current_eq_ok rfl read
  have readable : ∀ row ∈ [jumpRow, startRow], ∃ entry, row.read = .ok entry :=
    List.forall_mem_cons.2 ⟨⟨⟨2, "unnamed flow", "b", .goto, none, ⟨1⟩⟩, by cbv⟩,
      List.forall_mem_singleton.2 ⟨⟨1, "unnamed flow", "a", .start, none, ⟨0⟩⟩, by cbv⟩⟩
  have first : ([jumpRow, startRow].find? fun other =>
      (pairEngine [jumpRow, startRow] "b" data).allows "b" other.note) = some startRow := by cbv
  exact execute_back_of_rows live readable first

/-- The start of the first year of five digits. -/
def lateClock : Instant := ⟨253402300800 * Instant.perSecond⟩

/-- **Going back twice may change a double**, and it is not possible twice if the clock is past the
last year of four digits the first time. -/
theorem back_drifts :
    ∃ e, (new .empty {}).through (pairEvents [("x", .double (drifting 8))]) = e ∧
      e.current = .ok (some (atPair "b" (drifting 6))) ∧
      (∀ flow, e.flow = some flow → flow.contains "b" = true) ∧
      (∃ once twice, e.execute ⟨2⟩ .back = (once, .movedBack "a") ∧
        once.execute ⟨3⟩ .back = (twice, .movedBack "b") ∧
        twice.current = .ok (some (atPair "b" (drifting 4))) ∧ drifting 4 ≠ drifting 6) ∧
      ∃ once, e.execute lateClock .back = (once, .movedBack "a") ∧
        (once.execute lateClock .back).2.succeeded = false := by
  obtain ⟨first, second, third, fourth⟩ := copy_drifting
  have begun := read_atPair "a" (proper_drifting (show 8 < 10 by decide))
  have jumped := read_atPair "b" (proper_drifting (show 7 < 10 by decide))
  rw [first] at begun
  rw [second] at jumped
  have reached := through_pairEvents begun
  have live : (pairEngine [jumpRow, startRow] "b" [("x", .double (drifting 7))]).current = _ :=
    current_eq_ok rfl jumped
  obtain ⟨abreast, saved⟩ := reached ▸ abreast_and_saved_through .empty {} _
  have succeeds (now : Instant) :
      ((pairEngine [jumpRow, startRow] "b" [("x", .double (drifting 7))]).execute now
        .back).2.succeeded = true := by
    rw [execute_back_pair jumped]
    rfl
  have forth (now : Instant) :=
    back_and_forth abreast live (started_of_current saved live) contains_of_pairFlow (succeeds now)
  refine ⟨_, reached, live, contains_of_pairFlow, ?_, ?_⟩
  · obtain ⟨step, once, moved, -, -, again, second⟩ := forth ⟨2⟩ ⟨3⟩
    obtain ⟨twice, movedAgain, after⟩ := second (again.2 (by decide +kernel))
    have same := (execute_back_pair jumped ⟨2⟩).symm.trans moved
    obtain rfl := Outcome.movedBack.inj (Prod.mk.inj same).2
    refine ⟨once, twice, moved, movedAgain, ?_, by decide +kernel⟩
    have copied : (atPair "b" (drifting 6)).data.copy.copy = (atPair "b" (drifting 4)).data := by
      rw [← fourth, ← third]
      rfl
    rw [after, copied]
    rfl
  · obtain ⟨step, once, moved, -, -, again, -⟩ := forth lateClock lateClock
    have same := (execute_back_pair jumped lateClock).symm.trans moved
    obtain rfl := Outcome.movedBack.inj (Prod.mk.inj same).2
    refine ⟨once, moved, eq_false_of_ne_true fun succeeds => ?_⟩
    exact absurd (again.1 succeeds).2 (by decide +kernel)

/-- **Without doubles the data are what they were.** -/
theorem back_twice_pair :
    ∃ e once twice, (new .empty {}).through (pairEvents [("n", .int 1)]) = e ∧
      e.current = .ok (some (.initial "unnamed flow" "b" [("n", .int 1)] ⟨0⟩)) ∧
      (∀ flow, e.flow = some flow → flow.contains "b" = true) ∧
      e.execute ⟨2⟩ .back = (once, .movedBack "a") ∧
      once.execute ⟨3⟩ .back = (twice, .movedBack "b") ∧ twice.current = e.current := by
  have begun : (LiveRow.ofState (.initial "unnamed flow" "a" [("n", .int 1)] ⟨0⟩)).read =
      .ok (.initial "unnamed flow" "a" [("n", .int 1)] ⟨0⟩) := by cbv
  have jumped : (LiveRow.ofState (.initial "unnamed flow" "b" [("n", .int 1)] ⟨0⟩)).read =
      .ok (.initial "unnamed flow" "b" [("n", .int 1)] ⟨0⟩) := by cbv
  have goesBack := execute_back_pair jumped ⟨2⟩
  have live : (pairEngine [jumpRow, startRow] "b" [("n", .int 1)]).current = _ :=
    current_eq_ok rfl jumped
  obtain ⟨step, once, moved, -, again, second⟩ :=
    back_twice (through_pairEvents begun) live contains_of_pairFlow (by rw [goesBack]; rfl) ⟨3⟩
  obtain ⟨twice, movedAgain, -, unchanged⟩ := second (again.2 (by decide +kernel))
  obtain rfl := Outcome.movedBack.inj (Prod.mk.inj (goesBack.symm.trans moved)).2
  have whole : Json.Whole (.obj [("n", .int 1)]) := by
    simp [Json.Whole, Json.WholeFields, Json.Fits, Json.maxUnsigned, Fields.Ordered, Fields.keys]
  exact ⟨_, once, twice, through_pairEvents begun, live, contains_of_pairFlow, moved, movedAgain,
    (unchanged whole).trans live.symm⟩

end Engine

end Runbook
