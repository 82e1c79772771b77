import Runbook.Proofs.Run.Forth

/-!
# Windows on the history

Whoever reads the history gives a limit, and sees it through a window: the newest rows, as many as
the limit says.  A wider window shows the same rows in front and older ones behind them.  So what is
found first in a narrow window is found first in a wider one, and a run goes back to the same step.

The store is asked with a signed number of 64 bits.  A limit from `Store.unlimited` on is negative
there, and a negative limit is none, so the whole history is seen.  That the window is then no wider
than the limit has another reason than in the lower half: no two rows have the same number, the
numbers are signed numbers of 64 bits as well, and so there are no more rows than that.

## Main definitions

* `Store.window`: the rows that the store gives for a signed limit
* `Engine.scanning`: the engine with another limit on going back

## Main statements

* `Store.rows_eq_window`: limits of 64 bits as signed numbers
* `Store.rows_prefix_rows`: a wider window shows the same rows and older ones
* `Store.rows_eq_take`: a window has the width of its limit
* `Engine.execute_back_scanning`: going back with a wider window
* `Engine.history_widened`: the history and going back through all windows

## Design notes

A row that cannot be read spoils every window that shows it: neither the history nor going back look
past it.  So all rows are taken to be readable.  Going back with a wider window needs it of the rows
in the wider window only.
-/

namespace Runbook

namespace Store

variable {store : Store}

/-! ## Rows in a window -/

/-- The newest rows up to a signed limit; a negative limit is none. -/
def window (store : Store) (limit : Int) : List HistoryRow :=
  if limit < 0 then store.history else store.history.take limit.toNat

/-- **A limit of 64 bits is handed on as a signed number**, and the upper half of them is none. -/
theorem rows_eq_window (store : Store) (limit : UInt64) :
    store.rows limit.toNat = store.window limit.toInt64.toInt := by
  have signed : limit.toInt64.toInt =
      if 2 * limit.toNat < 2 ^ 64 then (limit.toNat : Int) else limit.toNat - 2 ^ 64 :=
    BitVec.toInt_eq_toNat_cond limit.toBitVec
  have fits : limit.toNat < 2 ^ 64 := limit.toNat_lt
  rw [signed, rows, window, unlimited]
  by_cases lower : 2 * limit.toNat < 2 ^ 64
  · rw [if_pos lower, if_neg (by omega), if_neg (by omega), Int.toNat_natCast]
  · rw [if_neg lower, if_pos (by omega), if_pos (by omega)]

/-- **A wider window shows the same rows and older ones.** -/
theorem rows_prefix_rows (store : Store) {n m : Nat} (le : n ≤ m) :
    store.rows n <+: store.rows m := by
  by_cases all : unlimited ≤ m
  · rw [show store.rows m = store.history from if_pos all]
    exact store.rows_prefix n
  · have some : ¬ unlimited ≤ n := fun many => all (many.trans le)
    rw [rows, rows, if_neg all, if_neg some]
    exact List.take_prefix_take_left le

/-- Rows with different numbers below a bound are no more than the bound. -/
theorem length_le_of_later {rows : List HistoryRow}
    (later : rows.Pairwise fun newer older => older.id < newer.id) {bound : Nat}
    (small : ∀ row ∈ rows, row.id < bound) : rows.length ≤ bound := by
  induction rows generalizing bound with
  | nil => exact Nat.zero_le bound
  | cons newest rows ih =>
    rw [List.pairwise_cons] at later
    have fewer : rows.length ≤ newest.id := ih later.2 later.1
    exact Nat.succ_le_of_lt (fewer.trans_lt (small newest List.mem_cons_self))

/-- **A window has the width of its limit**, if the numbers of rows have 64 bits with a sign. -/
theorem rows_eq_take (numbered : store.Numbered) (signed : store.lastId < unlimited) (limit : Nat) :
    store.rows limit = store.history.take limit := by
  unfold rows
  split
  · rename_i many
    have few : store.history.length ≤ unlimited := length_le_of_later numbered.later
      fun row member => (numbered.given row member).trans_lt signed
    rw [List.take_of_length_le (few.trans many)]
  · rfl

/-- What is read of the first rows is the first of what is read of all. -/
theorem mapM_read_take {rows : List HistoryRow} {entries : List HistoryEntry}
    (read : rows.mapM HistoryRow.read = .ok entries) (count : Nat) :
    (rows.take count).mapM HistoryRow.read = .ok (entries.take count) :=
  mapM_read_iff.2 (List.forall₂_take count (mapM_read_iff.1 read))

/-- A wider window is read in the same way, as far as the narrow one goes. -/
theorem prefix_of_mapM {rows more : List HistoryRow} {entries wider : List HistoryEntry}
    (within : rows <+: more) (read : rows.mapM HistoryRow.read = .ok entries)
    (made : more.mapM HistoryRow.read = .ok wider) : entries <+: wider := by
  rw [List.prefix_iff_eq_take.1 within, mapM_read_take made] at read
  rw [← Except.ok.inj read]
  exact List.take_prefix _ _

/-- Changes from outside leave the rows their numbers. -/
theorem Numbered.overwrite (numbered : store.Numbered) (table column text : String) :
    (store.overwrite table column text).Numbered := by
  have kept (row : HistoryRow) : (row.overwrite column text).id = row.id := by
    unfold HistoryRow.overwrite
    split <;> rfl
  unfold Store.overwrite
  split
  · exact ⟨numbered.later, numbered.given⟩
  · refine ⟨List.pairwise_map.2 ?_, List.forall_mem_map.2 fun row member => ?_⟩
    · simpa only [kept] using numbered.later
    · exact (kept row).le.trans (numbered.given row member)
  · exact ⟨numbered.later, numbered.given⟩
  · exact ⟨numbered.later, numbered.given⟩

end Store

namespace Engine

variable {e : Engine} {now : Instant} {n m : Nat}

/-! ## Going back through a window -/

/-- The engine with another limit on the rows that are searched for the step before. -/
def scanning (e : Engine) (limit : Nat) : Engine :=
  { e with limits := { e.limits with backScan := limit } }

/-- Rows that can be read are what the history shows. -/
theorem history_of_mapM {limit : Nat} {entries : List HistoryEntry}
    (read : (e.store.rows limit).mapM HistoryRow.read = .ok entries) :
    e.history (some limit) = .ok entries := by
  unfold history Store.entries
  rw [Option.getD_some, read]

/-- **Going back with a wider window** leads to the same step, and leaves the same store behind. -/
theorem execute_back_scanning (le : n ≤ m)
    (readable : ∀ row ∈ e.store.rows m, ∃ entry, row.read = .ok entry)
    (succeeds : ((e.scanning n).execute now .back).2.succeeded = true) :
    ∃ step, ((e.scanning n).execute now .back).2 = .movedBack step ∧
      ((e.scanning n).execute now .back).1.store.live.map LiveRow.currentStep = some step ∧
      (e.scanning m).execute now .back =
        (((e.scanning n).execute now .back).1.scanning m, .movedBack step) := by
  rcases execute_cases (e.scanning n) now .back with ⟨why, same, -⟩ | ⟨plan, does, same⟩
  · rw [same] at succeeds
    cases succeeds
  rw [same]
  cases does with
  | @back state entries entry live read found =>
    obtain ⟨wider, made⟩ := Store.exists_mapM_read_iff.2 readable
    have narrow : entries <+: wider :=
      Store.prefix_of_mapM (e.store.rows_prefix_rows le) (rows_of_history read) made
    have first : wider.find? ((e.scanning m).leadsBack state) = some entry :=
      narrow.find?_eq_some found
    have does : (e.scanning m).Does now .back _ := .back live (history_of_mapM made) first
    exact ⟨entry.step, rfl, rfl, execute_of_plan does.planned⟩

/-- **What the history shows through all windows, and where a run goes back to.**  Take a store with
numbered rows, all of which can be read.  Through a window of any width, the upper half of the
limits of 64 bits included, the history shows the newest rows, as many as the limit says or as there
are, and the one with the greatest number first.  What a narrow window shows is in front in a wider
one.  So if a run can go back with a narrow window, it goes back to the same step with a wider one,
and the same is kept of it. -/
theorem history_widened (numbered : e.store.Numbered) (signed : e.store.lastId < Store.unlimited)
    (readable : ∀ row ∈ e.store.history, ∃ entry, row.read = .ok entry) :
    ∃ shown : Nat → List HistoryEntry,
      (∀ limit, e.history (some limit) = .ok (shown limit) ∧
        List.Forall₂ (fun row entry => row.read = .ok entry) (e.store.history.take limit)
          (shown limit) ∧
        (shown limit).Pairwise (fun newer older => older.id < newer.id) ∧
        (shown limit).length = min limit e.store.history.length) ∧
      (∀ limit : UInt64,
        (e.store.window limit.toInt64.toInt).mapM HistoryRow.read = .ok (shown limit.toNat)) ∧
      ∀ n m, n ≤ m → shown n <+: shown m ∧
        ∀ now, ((e.scanning n).execute now .back).2.succeeded = true →
          ∃ step, ((e.scanning n).execute now .back).2 = .movedBack step ∧
            ((e.scanning m).execute now .back).2 = .movedBack step ∧
            ((e.scanning m).execute now .back).1.store =
              ((e.scanning n).execute now .back).1.store ∧
            ((e.scanning m).execute now .back).1.store.live.map LiveRow.currentStep =
              some step := by
  obtain ⟨entries, made⟩ := Store.exists_mapM_read_iff.2 readable
  have shows (limit : Nat) :
      (e.store.rows limit).mapM HistoryRow.read = .ok (entries.take limit) := by
    rw [Store.rows_eq_take numbered signed]
    exact Store.mapM_read_take made limit
  have each (limit : Nat) := List.forall₂_take limit (Store.mapM_read_iff.1 made)
  have newestFirst : entries.Pairwise fun newer older => older.id < newer.id := by
    have ids := Store.map_eq_of_mapM (fun _ _ read => (Store.parts_of_read read).1) made
    have later : (entries.map HistoryEntry.id).Pairwise fun newer older => older < newer :=
      ids ▸ List.pairwise_map.2 numbered.later
    exact List.pairwise_map.1 later
  refine ⟨entries.take, fun limit => ⟨history_of_mapM (shows limit), each limit,
    newestFirst.take, ?_⟩, fun limit => ?_, fun n m le => ⟨List.take_prefix_take_left le,
      fun now succeeds => ?_⟩⟩
  · rw [← (each limit).length_eq, List.length_take]
  · rw [← Store.rows_eq_window]
    exact shows limit.toNat
  · obtain ⟨step, moved, stands, same⟩ :=
      execute_back_scanning le (Store.exists_mapM_read_iff.1 ⟨_, shows m⟩) succeeds
    rw [same]
    exact ⟨step, moved, rfl, rfl, stands⟩

/-- The row about another try. -/
def retryRow : HistoryRow := ⟨3, "unnamed flow", "b", "retry", none, (⟨2⟩ : Instant).render⟩

/-- A window of three rows and the widest one there is, which is asked for with a negative number:
the run passes two rows by and goes back to the first step. -/
theorem history_widened_wrapped :
    let e := pairEngine [retryRow, jumpRow, startRow] "b" []
    let widest : UInt64 := 18446744073709551615
    widest.toInt64.toInt = -1 ∧
      (∃ narrow wide, e.history (some 2) = .ok narrow ∧
        e.history (some widest.toNat) = .ok wide ∧ narrow <+: wide ∧ narrow.length = 2 ∧
        wide.length = 3) ∧
      ((e.scanning 2).execute ⟨3⟩ .back).2 = .refused .noPrevious ∧
      ((e.scanning widest.toNat).execute ⟨3⟩ .back).2 = .movedBack "a" := by
  intro e widest
  have numbered : e.store.Numbered := ⟨by decide, by decide⟩
  have signed : e.store.lastId < Store.unlimited := by decide
  have readable : ∀ row ∈ e.store.history, ∃ entry, row.read = .ok entry :=
    List.forall_mem_cons.2 ⟨⟨⟨3, "unnamed flow", "b", .retry, none, ⟨2⟩⟩, by cbv⟩,
      List.forall_mem_cons.2 ⟨⟨⟨2, "unnamed flow", "b", .goto, none, ⟨1⟩⟩, by cbv⟩,
        List.forall_mem_singleton.2 ⟨⟨1, "unnamed flow", "a", .start, none, ⟨0⟩⟩, by cbv⟩⟩⟩
  have narrow : ((e.scanning 3).execute ⟨3⟩ .back).2 = .movedBack "a" := by cbv
  obtain ⟨shown, each, -, wider⟩ := history_widened numbered signed readable
  obtain ⟨step, moved, movedToo, -⟩ :=
    (wider 3 widest.toNat (by decide)).2 ⟨3⟩ (by rw [narrow]; rfl)
  obtain rfl := Outcome.movedBack.inj (narrow.symm.trans moved)
  exact ⟨by decide, ⟨shown 2, shown widest.toNat, (each 2).1, (each _).1,
    (wider 2 _ (by decide)).1, (each 2).2.2.2, (each _).2.2.2⟩, by cbv, movedToo⟩

end Engine

end Runbook
