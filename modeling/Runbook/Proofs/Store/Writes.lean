import Runbook.Run.Journey

/-!
# What a list of writes does to a store

Operations change a store through lists of writes only.  This module says what such a list does to
the two things that a run is made of, its live row and its history, without looking at the store
step by step.

## Main definitions

* `Note`: what a row of the history says, its number and its time aside
* `Store.notes`: the notes of a store, the newest first
* `Write.note?`, `Write.saved?`: the note and the live state that a write adds, if it adds one
* `Note.IsMove`: does the note say that the run came to a step?

## Main statements

* `Store.history_applyAll`: the rows of the writes come in front of the rows that are there
* `Store.notes_applyAll`: so do their notes
* `Store.live_applyAll`: the live row is the one that was saved last
* `Store.ensureArchive_eq_of_refused`: an output that is refused has made no table

## Design notes

Both statements are about lists that do not clear the store.  Only `reset` has a list that does, and
that list has no other write in it, so nothing is gained by a statement about all lists.

An archived output may or may not find its place, and either way it touches the archives only
(`Store.apply_archive`).  That is all that is ever used of archives in what is said about runs.  The
store from before is kept where an output is refused, though its table is made first; for a table
that was just made takes its output.
-/

namespace Runbook

/-- What a row of the history says, its number and its time aside. -/
structure Note where
  flowName : String
  step : String
  action : String
  data : Option String
deriving DecidableEq, Repr

/-- The note of a row. -/
def HistoryRow.note (row : HistoryRow) : Note := ⟨row.flowName, row.step, row.action, row.data⟩

/-- Different actions have different names. -/
@[simp] theorem Action.name_inj {a b : Action} : a.name = b.name ↔ a = b := by
  constructor
  · intro same
    have parsed := Action.parse_name a
    rw [same, Action.parse_name] at parsed
    exact (Except.ok.inj parsed).symm
  · rintro rfl
    rfl

/-- The note says that the run came to a step, or ended at one on its way. -/
def Note.IsMove (note : Note) : Prop :=
  note.action = Action.transition.name ∨ note.action = Action.terminate.name

instance : DecidablePred Note.IsMove := fun note =>
  inferInstanceAs (Decidable (note.action = _ ∨ note.action = _))

/-- The steps that a run came to according to some notes, the newest note first.  The first step of
the answer is the one that the run came to first. -/
def Note.moves (notes : List Note) : List String :=
  (notes.reverse.filter fun note => decide note.IsMove).map Note.step

@[simp] theorem Note.moves_nil : Note.moves [] = [] := rfl

namespace Write

/-- The note that a write adds. -/
def note? : Write → Option Note
  | record flow step action data => some ⟨flow, step, action.name, data⟩
  | _ => none

/-- The state that a write makes the live one. -/
def saved? : Write → Option RunState
  | live state => some state
  | _ => none

/-- The notes of some writes, the newest first. -/
def notes (writes : List Write) : List Note := (writes.filterMap note?).reverse

@[simp] theorem notes_nil : notes [] = [] := rfl

theorem notes_append (writes more : List Write) :
    notes (writes ++ more) = notes more ++ notes writes := by
  simp [notes]

theorem notes_cons (w : Write) (writes : List Write) :
    notes (w :: writes) = notes writes ++ w.note?.toList := by
  cases h : w.note? <;> simp [notes, h]

/-- Some writes that do not forget the run. -/
def Keep (writes : List Write) : Prop := ∀ w ∈ writes, w ≠ clear

@[simp] theorem keep_nil : Keep [] := fun _ h => absurd h List.not_mem_nil

@[simp] theorem keep_cons {w : Write} {writes : List Write} :
    Keep (w :: writes) ↔ w ≠ clear ∧ Keep writes := List.forall_mem_cons

@[simp] theorem keep_append {writes more : List Write} :
    Keep (writes ++ more) ↔ Keep writes ∧ Keep more := List.forall_mem_append

end Write

/-! ## Outputs that are refused -/

/-- The cells of an output are for columns of its schema. -/
theorem Table.mem_columnsOf {schema : Option Schema} {payload : Json.Object} {cell : String × Cell}
    (member : cell ∈ Table.cellsOf schema payload) :
    cell.1 ∈ (Table.columnsOf schema).map Prod.fst := by
  unfold Table.cellsOf at member
  unfold Table.columnsOf
  split at member
  · obtain ⟨found, among, same⟩ := List.mem_filterMap.1 member
    obtain ⟨value, -, rfl⟩ := Option.map_eq_some_iff.1 same
    rw [List.map_map]
    exact List.mem_map_of_mem among
  · rw [List.mem_singleton.1 member]
    exact List.mem_singleton.2 rfl

/-- A table that is made for an output takes it. -/
theorem Archives.eq_of_refused {archives made : Archives} {name : String} {schema : Option Schema}
    {payload : Json.Object} {fault : TableFault} (ensured : archives.ensure name schema = .ok made)
    (refused : made.insert name schema payload = .error fault) : made = archives := by
  unfold ensure at ensured
  split at ensured
  · cases ensured
  split at ensured
  · exact (Except.ok.inj ensured).symm
  · rename_i missing
    simp only at ensured
    split at ensured
    · cases ensured
    -- the table is new, and the output is refused for the sake of a column that it has
    obtain rfl := Except.ok.inj ensured
    have here : table? (archives ++ [⟨name, Table.columnsOf schema, []⟩]) name =
        some ⟨name, Table.columnsOf schema, []⟩ := by
      rw [table?, List.find?_append, ← table?, missing]
      simp [Table.sameName]
    unfold insert at refused
    simp only [here] at refused
    split at refused
    · rename_i column cell found
      have listed := Table.mem_columnsOf (List.mem_of_find?_eq_some found)
      have has : Table.hasColumn ⟨name, Table.columnsOf schema, []⟩ column = true :=
        List.any_eq_true.2 ⟨column, by simp [listed], by simp [Table.sameName]⟩
      have lacks := List.find?_some found
      simp only [has] at lacks
      cases lacks
    · cases refused

/-! ## What a store keeps of it -/

namespace Store

/-- The notes of a store, the newest first. -/
def notes (store : Store) : List Note := store.history.map HistoryRow.note

/-- Making an archive table touches the archives only. -/
theorem ensureArchive_eq {store after : Store} {table : String} {schema : Option Schema}
    (made : store.ensureArchive table schema = .ok after) :
    ∃ archives, after = { store with archives } := by
  unfold ensureArchive at made
  split at made
  · obtain rfl := Except.ok.inj made
    exact ⟨store.archives, rfl⟩
  · cases archives : store.archives.ensure table schema with
    | error fault =>
      rw [archives] at made
      cases made
    | ok archives' =>
      rw [archives] at made
      exact ⟨archives', (Except.ok.inj made).symm⟩

/-- **An output that is refused has made no table**, so nothing is lost when the store from before
is kept. -/
theorem ensureArchive_eq_of_refused {store between : Store} {table : String}
    {schema : Option Schema} {payload : Json.Object} {fault : TableFault}
    (made : store.ensureArchive table schema = .ok between)
    (refused : between.archive table schema payload = .error fault) : between = store := by
  unfold ensureArchive at made
  unfold archive at refused
  cases own : OwnTable.ofName? table with
  | some t =>
    simp only [own] at made
    exact (Except.ok.inj made).symm
  | none =>
    simp only [own] at made refused
    cases ensured : store.archives.ensure table schema with
    | error fault =>
      rw [ensured] at made
      cases made
    | ok archives =>
      rw [ensured] at made
      obtain rfl := Except.ok.inj made
      cases inserted : archives.insert table schema payload with
      | error fault =>
        rw [Archives.eq_of_refused ensured inserted]
      | ok result =>
        simp only [inserted] at refused
        cases refused

/-- Adding the row of an output touches the archives only. -/
theorem archive_eq {store : Store} {after : Store × Int} {table : String} {schema : Option Schema}
    {payload : Json.Object} (added : store.archive table schema payload = .ok after) :
    ∃ archives, after.1 = { store with archives } := by
  unfold archive at added
  split at added
  · cases added
  · cases archives : store.archives.insert table schema payload with
    | error fault =>
      rw [archives] at added
      cases added
    | ok result =>
      rw [archives] at added
      obtain rfl := Except.ok.inj added
      exact ⟨result.1, rfl⟩

/-- Archiving an output touches the archives only. -/
theorem archiveOutput_eq {store after : Store} {table : String} {schema : Option Schema}
    {payload : Json.Object} (archived : store.archiveOutput table schema payload = .ok after) :
    ∃ archives, after = { store with archives } := by
  unfold archiveOutput at archived
  cases made : store.ensureArchive table schema with
  | error fault =>
    rw [made] at archived
    cases archived
  | ok between =>
    rw [made] at archived
    cases added : between.archive table schema payload with
    | error fault =>
      simp only [bind, Except.bind, added] at archived
      cases archived
    | ok result =>
      simp only [bind, Except.bind, added] at archived
      obtain rfl := Except.ok.inj archived
      obtain ⟨archives, rfl⟩ := ensureArchive_eq made
      obtain ⟨archives', same⟩ := archive_eq added
      exact ⟨archives', same⟩

/-- An output that is to be archived touches the archives at the most. -/
theorem apply_archive (now : Instant) (store : Store) (table : String) (schema : Option Schema)
    (payload : Json.Object) :
    ∃ archives, store.apply now (.archive table schema payload) = { store with archives } := by
  unfold apply
  cases archived : store.archiveOutput table schema payload with
  | ok after =>
    obtain ⟨archives, rfl⟩ := archiveOutput_eq archived
    exact ⟨archives, by simp only [archived]⟩
  | error fault => exact ⟨store.archives, by simp only [archived]⟩

/-- Writes put their rows in front of the history, with the time at which they are made, and under
numbers that were not given before. -/
theorem history_applyAll (now : Instant) (store : Store) {writes : List Write}
    (keeps : Write.Keep writes) :
    ∃ rows, (store.applyAll now writes).history = rows ++ store.history ∧
      rows.map HistoryRow.note = Write.notes writes ∧
      ∀ row ∈ rows, store.lastId < row.id ∧ row.time = now.render := by
  induction writes generalizing store with
  | nil => exact ⟨[], rfl, rfl, List.forall_mem_nil _⟩
  | cons w writes ih =>
    rw [Write.keep_cons] at keeps
    obtain ⟨rows, history, notes, later⟩ := ih (store.apply now w) keeps.2
    rw [applyAll_cons, Write.notes_cons, ← notes]
    cases w with
    | record flow step action data =>
      refine ⟨rows ++ [⟨store.lastId + 1, flow, step, action.name, data, now.render⟩],
        ?_, by simp [Write.note?, HistoryRow.note], ?_⟩
      · rw [history, List.append_assoc]
        rfl
      · rw [List.forall_mem_append]
        exact ⟨fun row member => (later row member).imp_left Nat.lt_of_succ_lt,
          List.forall_mem_singleton.2 ⟨Nat.lt_succ_self _, rfl⟩⟩
    | archive table schema payload =>
      obtain ⟨archives, same⟩ := apply_archive now store table schema payload
      rw [same] at history later ⊢
      exact ⟨rows, history, by simp [Write.note?], later⟩
    | clear => exact absurd rfl keeps.1
    | live | checkpoint => exact ⟨rows, history, by simp [Write.note?], later⟩

/-- **Writes add their notes in front.** -/
theorem notes_applyAll (now : Instant) (store : Store) {writes : List Write}
    (keeps : Write.Keep writes) :
    (store.applyAll now writes).notes = Write.notes writes ++ store.notes := by
  obtain ⟨rows, history, same, -⟩ := history_applyAll now store keeps
  rw [notes, history, List.map_append, same]
  rfl

theorem live_apply (now : Instant) (store : Store) {w : Write} (keeps : w ≠ .clear) :
    (store.apply now w).live = (w.saved?.map LiveRow.ofState).or store.live := by
  cases w with
  | live state => rfl
  | record flow step action data => rfl
  | checkpoint name state => rfl
  | archive table schema payload =>
    obtain ⟨archives, same⟩ := apply_archive now store table schema payload
    rw [same]
    rfl
  | clear => exact absurd rfl keeps

/-- **The live row is the one that was saved last.** -/
theorem live_applyAll (now : Instant) (store : Store) {writes : List Write}
    (keeps : Write.Keep writes) :
    (store.applyAll now writes).live =
      ((writes.filterMap Write.saved?).getLast?.map LiveRow.ofState).or store.live := by
  induction writes generalizing store with
  | nil => rfl
  | cons w writes ih =>
    rw [Write.keep_cons] at keeps
    rw [applyAll_cons, ih _ keeps.2, live_apply now store keeps.1]
    cases saved : w.saved? with
    | none => simp [saved]
    | some state =>
      rw [List.filterMap_cons_some saved, List.getLast?_cons]
      cases (writes.filterMap Write.saved?).getLast? <;> rfl

end Store

/-! ## What a journey writes -/

namespace Hop

/-- The state that a hop makes the live one.  A loop that is passed by makes none. -/
def saved? : Hop → Option RunState
  | pass _ .skip _ => none
  | hop => some hop.state

/-- After a pass the run is in the state after it, saved or not: a loop that is passed by changes
nothing. -/
theorem saved?_pass (header : String) (pass : Pass) (state : RunState) :
    (Hop.pass header pass (pass.apply header state)).saved?.getD state =
      pass.apply header state := by
  cases pass <;> rfl

/-- The step that a hop notes that the run came to. -/
def move? : Hop → Option String
  | arrive step true _ => some step
  | terminate step _ _ => some step
  | _ => none

theorem saved?_writes (hop : Hop) : hop.writes.filterMap Write.saved? = hop.saved?.toList := by
  cases hop with
  | pass header pass state => cases pass <;> rfl
  | arrive step recorded state => cases recorded <;> rfl
  | terminate step reason state => rfl
  | finish state => rfl

theorem keep_writes (hop : Hop) : Write.Keep hop.writes := by
  cases hop with
  | pass header pass state => cases pass <;> simp [writes]
  | arrive step recorded state => cases recorded <;> simp [writes]
  | terminate step reason state => simp [writes]
  | finish state => simp [writes]

/-- What a hop notes is that the run came to a step. -/
theorem isMove_of_mem_notes (hop : Hop) : ∀ note ∈ Write.notes hop.writes, note.IsMove := by
  cases hop with
  | pass header pass state => cases pass <;> exact nofun
  | arrive step recorded state =>
    cases recorded with
    | true => exact List.forall_mem_singleton.2 (.inl rfl)
    | false => exact nofun
  | terminate step reason state => exact List.forall_mem_singleton.2 (.inr rfl)
  | finish state => exact nofun

end Hop

namespace Journey

/-- The steps that a journey notes that the run came to, in order. -/
def moves (journey : Journey) : List String := journey.hops.filterMap Hop.move?

/-- The live state after a journey that started in `state`. -/
def final (journey : Journey) (state : RunState) : RunState :=
  (journey.hops.filterMap Hop.saved?).getLast?.getD state

@[simp] theorem moves_stay (outcome : Outcome) : (stay outcome).moves = [] := rfl

@[simp] theorem final_stay (outcome : Outcome) (state : RunState) :
    (stay outcome).final state = state := rfl

theorem final_after (hop : Hop) (rest : Journey) (state : RunState) :
    (after hop rest).final state = rest.final (hop.saved?.getD state) := by
  cases h : hop.saved? with
  | none => simp [final, h]
  | some next =>
    simp only [final, hops_after, List.filterMap_cons_some h, List.getLast?_cons]
    rfl

theorem keep_writes (journey : Journey) : Write.Keep journey.writes := by
  intro w member
  obtain ⟨hop, -, member⟩ := List.mem_flatMap.1 member
  exact hop.keep_writes w member

/-- What a journey notes is where the run came to. -/
theorem isMove_of_mem_notes (journey : Journey) :
    ∀ note ∈ Write.notes journey.writes, note.IsMove := by
  obtain ⟨hops, outcome⟩ := journey
  induction hops with
  | nil => exact nofun
  | cons hop hops ih =>
    show ∀ note ∈ Write.notes (hop.writes ++ (Journey.mk hops outcome).writes), note.IsMove
    rw [Write.notes_append, List.forall_mem_append]
    exact ⟨ih, hop.isMove_of_mem_notes⟩

/-- What a journey saves last is its final state, if it saves anything. -/
theorem saved?_writes (journey : Journey) (state : RunState) :
    (journey.writes.filterMap Write.saved?).getLast?.getD state = journey.final state := by
  obtain ⟨hops, outcome⟩ := journey
  induction hops generalizing state with
  | nil => rfl
  | cons hop hops ih =>
    show ((hop.writes ++ (Journey.mk hops outcome).writes).filterMap _).getLast?.getD state =
      (after hop ⟨hops, outcome⟩).final state
    rw [List.filterMap_append, hop.saved?_writes, final_after, ← ih]
    cases hop.saved? with
    | none => simp
    | some next => simp [List.getLast?_cons]

end Journey

end Runbook
