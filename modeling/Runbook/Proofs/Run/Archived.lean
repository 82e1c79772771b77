import Runbook.Proofs.Run.Answers
import Runbook.Proofs.Run.Place

/-!
# Archived outputs

The row of an archive is written next to the row of the history that says that an output came in,
and neither is written without the other.  So a table has as many rows as outputs were ever noted at
the steps that archive into it, whoever forgot the history in between.

## Main definitions

* `Event.noted`, `Engine.noted`: the notes that are made in an event, and in a session
* `Note.archivedIn`: the note is about an output that is archived in a table
* `Event.Keeps`: the hooks stay the same

## Main statements

* `Archives.size_ensure`, `Archives.size_insert`: what making a table and adding a row do to all
  tables
* `Engine.execute_archives`: an operation notes no output, or one, which it archives
* `Engine.size_event`: an event adds to a table what it notes
* `Engine.archived_session`: so does a session, and what notes no output archives nothing
* `Engine.archived_stranded`: an output stays archived when the run then finds no way on

## Design notes

Several steps may archive into one table, which may be spelled in several ways and made by any of
them.  The statements are about all tables at once: each of them gets one row, or none, and which
one it is depends on its name alone.

Resetting forgets the notes but not the archives.  That is why notes are collected event by event,
by their numbers, and not read off the history at the end.
-/

namespace Runbook

/-! ## The rows of tables -/

theorem Table.sameName_iff {a b : String} : sameName a b = true ↔ fold a = fold b := beq_iff_eq

namespace Archives

/-- The number of rows of a table; a table that is not there has none. -/
def size (archives : Archives) (name : String) : Nat := (archives.count? name).getD 0

/-- Making a table adds no row to any. -/
theorem size_ensure {archives made : Archives} {name : String} {schema : Option Schema}
    (ensured : archives.ensure name schema = .ok made) (other : String) :
    made.size other = archives.size other := by
  unfold ensure at ensured
  split at ensured
  · cases ensured
  split at ensured
  · rw [Except.ok.inj ensured]
  · simp only at ensured
    split at ensured
    · cases ensured
    · obtain rfl := Except.ok.inj ensured
      rw [size, count?, table?, List.find?_append, ← table?, List.find?_singleton, size, count?]
      cases archives.table? other with
      | some t => rfl
      | none =>
        rw [Option.none_or]
        split <;> rfl

/-- The row goes to the table of the name, under whatever spelling. -/
theorem table?_push (archives : Archives) (name : String) (row : Int × List Cell) (other : String) :
    (archives.push name row).table? other =
      (archives.table? other).map fun t =>
        if Table.sameName t.name name then { t with rows := t.rows ++ [row] } else t := by
  have same : (fun t => Table.sameName t.name other) ∘
      (fun t => if Table.sameName t.name name then { t with rows := t.rows ++ [row] } else t) =
        fun t : Table => Table.sameName t.name other := by
    funext t
    simp only [Function.comp_apply]
    split <;> rfl
  rw [table?, push, List.find?_map, same, table?]

/-- Adding a row makes the table of the name larger by one, and no other. -/
theorem size_insert {archives after : Archives} {name : String} {schema : Option Schema}
    {payload : Json.Object} {number : Int}
    (inserted : archives.insert name schema payload = .ok (after, number)) (other : String) :
    after.size other = archives.size other + if Table.sameName name other then 1 else 0 := by
  unfold insert at inserted
  split at inserted
  · cases inserted
  rename_i t found
  simp only at inserted
  split at inserted
  · cases inserted
  obtain ⟨rfl, -⟩ := Prod.mk.inj (Except.ok.inj inserted)
  have here : Table.fold t.name = Table.fold name :=
    Table.sameName_iff.1 (by simpa using List.find?_some found)
  rw [size, count?, table?_push, size, count?]
  cases found' : archives.table? other with
  | none =>
    have apart : ¬ Table.sameName name other = true := fun same =>
      List.find?_eq_none.1 found' t (List.mem_of_find?_eq_some found)
        (Table.sameName_iff.2 (here.trans (Table.sameName_iff.1 same)))
    rw [if_neg apart]
    rfl
  | some u =>
    have there : Table.fold u.name = Table.fold other :=
      Table.sameName_iff.1 (by simpa using List.find?_some found')
    have spelled : Table.sameName u.name name = Table.sameName name other := by
      simp only [Table.sameName, there]
      exact Bool.beq_comm
    simp only [Option.map_some, Option.getD_some, spelled]
    split
    · exact List.length_append
    · rfl

end Archives

namespace Store

/-- What can be counted of an archive is its size. -/
theorem toOption_count? {store : Store} {table : String} (foreign : OwnTable.ofName? table = none) :
    (store.count? table).toOption.getD 0 = store.archives.size table := by
  unfold count?
  rw [foreign, Archives.size]
  cases store.archives.count? table <;> rfl

/-- A table that has rows can be counted. -/
theorem count?_of_size {store : Store} {table : String} {n : Nat}
    (foreign : OwnTable.ofName? table = none) (size : store.archives.size table = n + 1) :
    store.count? table = .ok (n + 1) := by
  unfold count?
  rw [Archives.size] at size
  rw [foreign]
  cases counted : store.archives.count? table with
  | none =>
    rw [counted] at size
    cases size
  | some m =>
    rw [counted] at size
    exact congrArg Except.ok size

/-- Archiving an output adds a row to its table. -/
theorem size_archiveOutput {store after : Store} {table : String} {schema : Option Schema}
    {payload : Json.Object} (foreign : OwnTable.ofName? table = none)
    (archived : store.archiveOutput table schema payload = .ok after) (other : String) :
    after.archives.size other =
      store.archives.size other + if Table.sameName table other then 1 else 0 := by
  unfold archiveOutput ensureArchive at archived
  rw [foreign] at archived
  cases ensured : store.archives.ensure table schema with
  | error fault =>
    rw [ensured] at archived
    cases archived
  | ok made =>
    rw [ensured] at archived
    cases inserted : made.insert table schema payload with
    | error fault =>
      simp only [bind, Except.bind, Functor.map, Except.map, archive, foreign, inserted] at archived
      cases archived
    | ok result =>
      simp only [bind, Except.bind, Functor.map, Except.map, archive, foreign, inserted] at archived
      obtain rfl := Except.ok.inj archived
      rw [← Archives.size_ensure ensured other]
      exact Archives.size_insert inserted other

end Store

/-! ## Writes that archive nothing -/

namespace Write

/-- The write leaves the archives alone. -/
def Stays : Write → Prop
  | archive _ _ _ => False
  | _ => True

/-- The write neither archives an output nor notes one. -/
def Bare : Write → Prop
  | archive _ _ _ => False
  | record _ _ action _ => action ≠ .submit
  | _ => True

theorem bare_record {flow step : String} {action : Action} {data : Option String}
    (other : action ≠ .submit) : (record flow step action data).Bare := other

theorem Bare.stays {w : Write} (bare : w.Bare) : w.Stays := by
  cases w <;> trivial

theorem ne_submit_of_bare {writes : List Write} (bare : ∀ w ∈ writes, w.Bare) :
    ∀ note ∈ notes writes, note.action ≠ Action.submit.name := by
  intro note member
  obtain ⟨w, among, notes⟩ := List.mem_filterMap.1 (List.mem_reverse.1 member)
  cases w with
  | record flow step action data =>
    obtain rfl := Option.some.inj notes
    exact fun same => bare _ among (Action.name_inj.1 same)
  | _ => cases notes

end Write

/-- A journey says where the run came to, and of no output. -/
theorem Journey.bare (journey : Journey) : ∀ w ∈ journey.writes, w.Bare := by
  intro w member
  obtain ⟨hop, -, member⟩ := List.mem_flatMap.1 member
  cases hop with
  | pass header pass state =>
    cases pass <;> simp only [Hop.writes, List.mem_singleton, List.not_mem_nil] at member
    all_goals
      subst member
      trivial
  | arrive step recorded state =>
    rcases List.mem_cons.1 member with rfl | member
    · trivial
    · split at member
      · obtain rfl := List.mem_singleton.1 member
        exact Write.bare_record (by decide)
      · cases member
  | terminate step reason state =>
    simp only [Hop.writes, List.mem_cons, List.not_mem_nil, or_false] at member
    rcases member with rfl | rfl
    · trivial
    · exact Write.bare_record (by decide)
  | finish state =>
    obtain rfl := List.mem_singleton.1 member
    trivial

namespace Store

theorem archives_applyAll (now : Instant) (store : Store) {writes : List Write}
    (stays : ∀ w ∈ writes, w.Stays) :
    (store.applyAll now writes).archives = store.archives := by
  induction writes generalizing store with
  | nil => rfl
  | cons w writes ih =>
    rw [List.forall_mem_cons] at stays
    rw [applyAll_cons, ih _ stays.2]
    cases w with
    | archive table schema payload => exact stays.1.elim
    | _ => rfl

/-- What writes note that note no output, even if the history is forgotten among them. -/
theorem ne_submit_of_applyAll (now : Instant) {number : Nat} {store : Store} {writes : List Write}
    (bare : ∀ w ∈ writes, w.Bare)
    (old : ∀ row ∈ store.history, number < row.id → row.action ≠ Action.submit.name) :
    ∀ row ∈ (store.applyAll now writes).history, number < row.id →
      row.action ≠ Action.submit.name := by
  induction writes generalizing store with
  | nil => exact old
  | cons w writes ih =>
    rw [List.forall_mem_cons] at bare
    refine ih bare.2 ?_
    cases w with
    | record flow step action data =>
      exact List.forall_mem_cons.2 ⟨fun _ same => bare.1 (Action.name_inj.1 same), old⟩
    | archive table schema payload => exact bare.1.elim
    | clear => exact List.forall_mem_nil _
    | live | checkpoint => exact old

end Store

/-- The note is about an output that is archived in the table, with these hooks. -/
def Note.archivedIn (hooks : Registry) (table : String) (note : Note) : Bool :=
  note.action == Action.submit.name &&
    (Engine.archive? hooks note.step).any fun archive => Table.sameName archive.1 table

/-- The notes that are made in an event, the first one first. -/
def Event.noted (e : Engine) (event : Event) : List Note :=
  (((event.apply e).store.history.filter fun row => e.store.lastId < row.id).map
    HistoryRow.note).reverse

/-- After the event the hooks are these. -/
def Event.Keeps (hooks : Registry) : Event → Prop
  | equip others => others = hooks
  | reopen others _ => others = hooks
  | _ => True

/-- No hook archives into a table of the store that is no archive. -/
def Registry.Foreign (hooks : Registry) : Prop :=
  ∀ step table schema, Engine.archive? hooks step = some (table, schema) →
    Store.OwnTable.ofName? table = none

namespace Engine

variable {e : Engine} {now : Instant}

/-! ## What an operation notes -/

/-- A plan that takes no output archives none and notes none. -/
theorem Does.bare {command : Command} {plan : Plan} (does : e.Does now command plan)
    (other : ∀ payload, command ≠ .submit payload ∧ command ≠ .approve payload) :
    ∀ w ∈ plan.writes, w.Bare := by
  have two {first second : Write} (bare : first.Bare) (bare' : second.Bare) :
      ∀ w ∈ [first, second], w.Bare :=
    List.forall_mem_cons.2 ⟨bare, List.forall_mem_singleton.2 bare'⟩
  cases does with
  | start free loaded =>
    exact List.forall_mem_cons.2 ⟨trivial, List.forall_mem_cons.2
      ⟨Write.bare_record (by decide), Journey.bare _⟩⟩
  | @submit payload => exact absurd rfl (other payload).1
  | @approve payload => exact absurd rfl (other payload).2
  | skip live active bound filed =>
    exact List.forall_mem_append.2 ⟨two (Write.bare_record (by decide)) trivial, Journey.bare _⟩
  | reject => exact List.forall_mem_singleton.2 (Write.bare_record (by decide))
  | saveCheckpoint | reset => exact List.forall_mem_singleton.2 trivial
  | retry | goto | back | stop | resume | restoreCheckpoint =>
    exact two trivial (Write.bare_record (by decide))

/-- Nothing is noted when the store stays. -/
theorem noted_eq_nil (numbered : e.store.Numbered) {event : Event}
    (same : (event.apply e).store = e.store) : event.noted e = [] := by
  have none : e.store.history.filter (fun row => e.store.lastId < row.id) = [] :=
    List.filter_eq_nil_iff.2 fun row member => by
      simpa using numbered.given row member
  rw [Event.noted, same, none]
  rfl

/-- What a plan notes that is carried out. -/
theorem noted_commit (numbered : e.store.Numbered) {command : Command} {plan : Plan}
    (same : e.execute now command = (e.commit now plan, plan.outcome))
    (keeps : Write.Keep plan.writes) :
    ((Event.operate now command).noted e).reverse = Write.notes plan.writes := by
  obtain ⟨rows, history, notes, later⟩ := e.store.history_applyAll now keeps
  have after : ((Event.operate now command).apply e).store = e.store.applyAll now plan.writes :=
    congrArg (fun result => result.1.store) same
  have old : e.store.history.filter (fun row => e.store.lastId < row.id) = [] :=
    List.filter_eq_nil_iff.2 fun row member => by
      simpa using numbered.given row member
  have new : rows.filter (fun row => e.store.lastId < row.id) = rows :=
    List.filter_eq_self.2 fun row member => by simpa using (later row member).1
  rw [Event.noted, List.reverse_reverse, after, history, List.filter_append, old, new,
    List.append_nil, notes]

/-- A plan that takes no output notes none, also if it forgets the history. -/
theorem noted_of_bare (numbered : e.store.Numbered) {command : Command} {plan : Plan}
    (same : e.execute now command = (e.commit now plan, plan.outcome))
    (bare : ∀ w ∈ plan.writes, w.Bare) :
    ∀ note ∈ (Event.operate now command).noted e, note.action ≠ Action.submit.name := by
  intro note member
  obtain ⟨row, among, rfl⟩ := List.mem_map.1 (List.mem_reverse.1 member)
  obtain ⟨kept, new⟩ := List.mem_filter.1 among
  have after : ((Event.operate now command).apply e).store = e.store.applyAll now plan.writes :=
    congrArg (fun result => result.1.store) same
  refine Store.ne_submit_of_applyAll now bare (fun old given new => ?_) row (after ▸ kept)
    (of_decide_eq_true new)
  exact absurd (numbered.given old given) (Nat.not_le_of_lt new)

/-- Archiving the output of a step adds a row to the table of the step. -/
theorem size_archiveWrites {step : String} {payload : Json.Object} {archive : List Write}
    (foreign : e.hooks.Foreign) (archived : e.archiveWrites step payload = .ok archive)
    (table : String) :
    (e.store.applyAll now archive).archives.size table = e.store.archives.size table +
      if (archive? e.hooks step).any fun found => Table.sameName found.1 table then 1 else 0 := by
  unfold archiveWrites at archived
  split at archived
  · rename_i none
    obtain rfl := Except.ok.inj archived
    rw [none]
    rfl
  · rename_i own schema declared
    cases kept : e.store.archiveOutput own schema payload with
    | error fault =>
      rw [kept] at archived
      cases archived
    | ok after =>
      rw [kept] at archived
      obtain rfl := Except.ok.inj archived
      have applied : e.store.applyAll now [.archive own schema payload] = after := by
        rw [Store.applyAll_cons, Store.applyAll_nil, Store.apply, kept]
      rw [declared, applied]
      exact Store.size_archiveOutput (foreign _ _ _ declared) kept table

/-- **Recording an output notes one output**, and adds a row to the table of its step. -/
theorem Records.archives {state : RunState} {payload : Json.Object} {approving : Bool} {plan : Plan}
    (records : e.Records state payload approving plan) (foreign : e.hooks.Foreign) :
    Write.Keep plan.writes ∧ ∃ note moves before, note.action = Action.submit.name ∧
      Write.notes plan.writes = moves ++ note :: before ∧
      (∀ other ∈ moves ++ before, other.action ≠ Action.submit.name) ∧
      ∀ table, (e.store.applyAll now plan.writes).archives.size table =
        e.store.archives.size table + if note.archivedIn e.hooks table then 1 else 0 := by
  obtain @⟨flow, step, archive, -, -, -, -, archived⟩ := records
  obtain ⟨keeps, quiet, -⟩ := quiet_of_archiveWrites archived
  let next := withOutput state step (payload.erase Refusal.choiceKey)
  let journey := onward (e.track flow) next step (choice? payload)
  have opens : ∀ w ∈ approval state step approving, w.Bare ∧ w ≠ .clear := by
    cases approving
    · exact List.forall_mem_nil _
    · exact List.forall_mem_singleton.2 ⟨Write.bare_record (by decide), by simp⟩
  refine ⟨?_, ⟨next.flowName, step.name, Action.submit.name,
    some (Json.Object.compress (payload.erase Refusal.choiceKey))⟩, Write.notes journey.writes,
    Write.notes (approval state step approving), rfl, ?_, ?_, fun table => ?_⟩
  · exact Write.keep_append.2 ⟨Write.keep_append.2 ⟨Write.keep_append.2
      ⟨keeps, fun w member => (opens w member).2⟩, by simp [output]⟩, journey.keep_writes⟩
  · simp only [Plan.travel, Write.notes_append, quiet, List.append_nil]
    rfl
  · rw [List.forall_mem_append]
    exact ⟨Write.ne_submit_of_bare journey.bare,
      Write.ne_submit_of_bare fun w member => (opens w member).1⟩
  · have stays : ∀ w ∈ approval state step approving ++
        output next step (payload.erase Refusal.choiceKey) ++ journey.writes, w.Stays := by
      simp only [List.forall_mem_append]
      exact ⟨⟨fun w member => (opens w member).1.stays,
        List.forall_mem_cons.2 ⟨trivial, List.forall_mem_singleton.2 trivial⟩⟩,
        fun w member => (journey.bare w member).stays⟩
    have written : (Plan.travel (archive ++ approval state step approving ++
        output next step (payload.erase Refusal.choiceKey)) journey).writes =
          archive ++ (approval state step approving ++
            output next step (payload.erase Refusal.choiceKey) ++ journey.writes) := by
      simp only [Plan.travel, List.append_assoc]
    rw [written, Store.applyAll_append, Store.archives_applyAll now _ stays,
      size_archiveWrites foreign archived table]
    rfl

/-- **An operation archives the outputs that it notes.**  Either it notes none and leaves the
archives alone, or it takes an output, notes just this one, and adds its row. -/
theorem execute_archives (numbered : e.store.Numbered) (foreign : e.hooks.Foreign) (now : Instant)
    (command : Command) :
    ((∀ note ∈ (Event.operate now command).noted e, note.action ≠ Action.submit.name) ∧
        (e.execute now command).1.store.archives = e.store.archives) ∨
      ∃ note moves before, note.action = Action.submit.name ∧
        (∃ payload, command = .submit payload ∨ command = .approve payload) ∧
        (Event.operate now command).noted e = before ++ note :: moves ∧
        (∀ other ∈ before ++ moves, other.action ≠ Action.submit.name) ∧
        ∀ table, (e.execute now command).1.store.archives.size table =
          e.store.archives.size table + if note.archivedIn e.hooks table then 1 else 0 := by
  rcases execute_cases e now command with ⟨why, same, -⟩ | ⟨plan, does, same⟩
  · refine .inl ⟨?_, by rw [same]⟩
    rw [noted_eq_nil numbered (congrArg (fun result => result.1.store) same)]
    exact List.forall_mem_nil _
  by_cases takes : ∃ payload, command = .submit payload ∨ command = .approve payload
  · obtain ⟨state, payload, approving, records⟩ :
        ∃ state payload approving, e.Records state payload approving plan := by
      obtain ⟨payload, rfl | rfl⟩ := takes
      · cases does with
        | submit live running records => exact ⟨_, _, _, records⟩
      · cases does with
        | approve live waiting records => exact ⟨_, _, _, records⟩
    obtain ⟨keeps, note, moves, before, submits, notes, others, sizes⟩ :=
      records.archives foreign
    refine .inr ⟨note, moves.reverse, before.reverse, submits, takes, ?_, ?_, fun table => ?_⟩
    · rw [← List.reverse_reverse ((Event.operate now command).noted e),
        noted_commit numbered same keeps, notes]
      simp
    · intro other member
      refine others other ?_
      simp only [List.mem_append, List.mem_reverse] at member ⊢
      exact member.symm
    · rw [same]
      exact sizes table
  · have bare := does.bare fun payload =>
      ⟨fun same => takes ⟨payload, .inl same⟩, fun same => takes ⟨payload, .inr same⟩⟩
    refine .inl ⟨noted_of_bare numbered same bare, ?_⟩
    rw [same]
    exact Store.archives_applyAll now _ fun w member => (bare w member).stays

/-- An operation that takes no output leaves the archives alone, and so does one that fails before
it took its output. -/
theorem archives_execute (vetted : e.Vetted) (numbered : e.store.Numbered)
    (foreign : e.hooks.Foreign) {command : Command}
    (quiet : (∀ payload, command ≠ .submit payload ∧ command ≠ .approve payload) ∨
      (e.execute now command).2.succeeded = false ∧ ¬ (e.execute now command).2.Stranded) :
    (e.execute now command).1.store.archives = e.store.archives := by
  rcases quiet with other | ⟨failed, early⟩
  · rcases execute_archives numbered foreign now command with
      ⟨-, kept⟩ | ⟨_, _, _, -, ⟨payload, takes⟩, -⟩
    · exact kept
    · rcases takes with rfl | rfl
      · exact absurd rfl (other payload).1
      · exact absurd rfl (other payload).2
  · rcases execute_cases_of_failed vetted now command failed with ⟨-, kept⟩ | ⟨stranded, -⟩
    · exact congrArg (fun engine => engine.store.archives) kept
    · exact absurd stranded early

/-- **An output that is noted is archived once.** -/
theorem count?_of_noted (numbered : e.store.Numbered) (foreign : e.hooks.Foreign)
    {command : Command} {note : Note} (member : note ∈ (Event.operate now command).noted e)
    (submits : note.action = Action.submit.name) {table : String} {schema : Option Schema}
    (declared : archive? e.hooks note.step = some (table, schema)) :
    (e.execute now command).1.store.count? table =
      .ok ((e.store.count? table).toOption.getD 0 + 1) := by
  rcases execute_archives numbered foreign now command with
    ⟨none, -⟩ | ⟨taken, moves, before, -, -, noted, others, sizes⟩
  · exact absurd submits (none note member)
  · obtain rfl : note = taken := by
      rw [noted, List.mem_append, List.mem_cons] at member
      rcases member with early | here | late
      · exact absurd submits (others note (List.mem_append_left _ early))
      · exact here
      · exact absurd submits (others note (List.mem_append_right _ late))
    have archives : note.archivedIn e.hooks table = true := by
      simp [Note.archivedIn, submits, declared, Table.sameName]
    have size := sizes table
    rw [if_pos archives] at size
    rw [Store.toOption_count? (foreign _ _ _ declared)]
    exact Store.count?_of_size (foreign _ _ _ declared) size

/-! ## What a session archives -/

/-- The notes that are made in a session, the first one first. -/
def noted (e : Engine) : List Event → List Note
  | [] => []
  | event :: events => event.noted e ++ noted (event.apply e) events

theorem noted_cons (e : Engine) (event : Event) (events : List Event) :
    e.noted (event :: events) = event.noted e ++ (event.apply e).noted events := rfl

theorem countP_archivedIn {notes : List Note}
    (none : ∀ note ∈ notes, note.action ≠ Action.submit.name) (hooks : Registry) (table : String) :
    notes.countP (Note.archivedIn hooks table) = 0 :=
  List.countP_eq_zero.2 fun note member archived =>
    none note member (eq_of_beq (Bool.and_eq_true_iff.1 archived).1)

/-- **An event adds to a table what it notes.** -/
theorem size_event (numbered : e.store.Numbered) (foreign : e.hooks.Foreign) (event : Event)
    (table : String) : (event.apply e).store.archives.size table =
      e.store.archives.size table + (event.noted e).countP (Note.archivedIn e.hooks table) := by
  cases event with
  | operate now command =>
    rcases execute_archives numbered foreign now command with
      ⟨none, same⟩ | ⟨note, moves, before, -, -, noted, others, sizes⟩
    · rw [countP_archivedIn none, Nat.add_zero]
      exact congrArg (Archives.size · table) same
    · rw [List.forall_mem_append] at others
      rw [noted, List.countP_append, List.countP_cons, countP_archivedIn others.1,
        countP_archivedIn others.2, Nat.zero_add, Nat.zero_add]
      exact sizes table
  | _ =>
    rw [noted_eq_nil numbered (store_apply e rfl), store_apply e rfl]
    rfl

/-- Events that keep the hooks leave the engine with them. -/
theorem hooks_apply {event : Event} (keeps : event.Keeps e.hooks) :
    (event.apply e).hooks = e.hooks := by
  cases event with
  | operate now command =>
    rcases execute_cases e now command with ⟨why, same, -⟩ | ⟨plan, -, same⟩
    · exact congrArg (fun result => result.1.hooks) same
    · exact congrArg (fun result => result.1.hooks) same
  | load definition =>
    rcases apply_load e definition with same | ⟨flow, -, same⟩
    · rw [same]
    · rw [same]
  | equip others => exact keeps
  | reopen others limits => exact keeps

/-- A session adds to a table what it notes, as long as the hooks stay the same. -/
theorem size_through {events : List Event} {hooks : Registry} (foreign : hooks.Foreign)
    (keeps : ∀ event ∈ events, event.Keeps hooks) (here : e.hooks = hooks)
    (numbered : e.store.Numbered) (table : String) :
    (e.through events).hooks = hooks ∧ (e.through events).store.Numbered ∧
      (e.through events).store.archives.size table =
        e.store.archives.size table + (e.noted events).countP (Note.archivedIn hooks table) := by
  induction events generalizing e with
  | nil => exact ⟨here, numbered, rfl⟩
  | cons event events ih =>
    rw [List.forall_mem_cons] at keeps
    subst here
    obtain ⟨hooks, numbers, sizes⟩ :=
      ih keeps.2 (hooks_apply keeps.1) (numbered_apply numbered event)
    refine ⟨hooks, numbers, sizes.trans ?_⟩
    rw [size_event numbered foreign, noted_cons, List.countP_append, Nat.add_assoc]

/-- **A table has as many rows as outputs were noted at the steps that archive into it**, in all of
the session; a table that is not there has none.  What takes no output archives nothing, and neither
does what fails, unless the run is stranded after its output was noted.  An output that is noted is
archived exactly once. -/
theorem archived_session (limits : Limits) {hooks : Registry} {events : List Event}
    (keeps : ∀ event ∈ events, event.Keeps hooks) (foreign : hooks.Foreign) :
    let e := (new hooks limits).through events
    (∀ table, Store.OwnTable.ofName? table = none → (e.store.count? table).toOption.getD 0 =
      ((new hooks limits).noted events).countP (Note.archivedIn hooks table)) ∧
    ∀ now command,
      let after := (e.execute now command).1
      let outcome := (e.execute now command).2
      (((∀ payload, command ≠ .submit payload ∧ command ≠ .approve payload) ∨
        outcome.succeeded = false ∧ ¬ outcome.Stranded) →
          after.store.archives = e.store.archives) ∧
      ∀ note ∈ (Event.operate now command).noted e, note.action = Action.submit.name →
        ∀ table schema, archive? hooks note.step = some (table, schema) →
          after.store.count? table = .ok ((e.store.count? table).toOption.getD 0 + 1) := by
  intro e
  have start : (new hooks limits).store.Numbered := ⟨.nil, List.forall_mem_nil _⟩
  have session (table : String) := size_through foreign keeps rfl start table
  obtain ⟨same, numbered, -⟩ : e.hooks = hooks ∧ e.store.Numbered ∧ _ := session ""
  have vetted : e.Vetted := (vetted_opening .empty hooks limits).through events
  have foreign' : e.hooks.Foreign := same ▸ foreign
  refine ⟨fun table free => ?_, fun now command => ⟨archives_execute vetted numbered foreign', ?_⟩⟩
  · rw [Store.toOption_count? free, (session table).2.2]
    exact Nat.zero_add _
  · intro note member submits table schema declared
    exact count?_of_noted numbered foreign' member submits (same ▸ declared)

end Engine

/-- A step, and another one that is left if there is something to leave it for. -/
def Flow.askingText : String := "steps: [a, \x7bb: \x7bnext: [\x7bif: x, go: c\x7d]\x7d\x7d, c]"

/-- The flow of `Flow.askingText`. -/
def Flow.askingFlow : Flow where
  name := "unnamed flow"
  steps := .ofList [("a", { name := "a", transitions := [.plain "b"] }),
    ("b", { name := "b", transitions := [⟨"c", some "x"⟩] }), ("c", { name := "c" })]
  entry := "a"

theorem Flow.parse?_askingText : Yaml.parse? askingText = some (.obj [("steps", .arr [.str "a",
    .obj [("b", .obj [("next", .arr [.obj [("go", .str "c"), ("if", .str "x")]])])],
    .str "c"])]) := by
  decide +kernel

theorem Flow.compile_askingText :
    Engine.compile askingText = .ok (askingFlow, [⟨.deadEnd, some "c"⟩]) :=
  compile_of_document parse?_askingText (by cbv) (by cbv) rfl

namespace Engine

/-- Two steps archive into one table, in two spellings. -/
def sharedHooks : Registry :=
  .ofHooks [{ name := "a", kinds := [.archive], archiveTable := some "outs" },
    { name := "b", kinds := [.archive], archiveTable := some "OUTS" }]

theorem foreign_sharedHooks : sharedHooks.Foreign := by
  intro step table schema declared
  have entries : sharedHooks.entries =
      [("a", { name := "a", kinds := [.archive], archiveTable := some "outs" }),
        ("b", { name := "b", kinds := [.archive], archiveTable := some "OUTS" })] := rfl
  unfold archive? Registry.hook? Dict.get? at declared
  rw [entries] at declared
  by_cases first : "a" = step
  · simp [Dict.find?, first, Hook.hasKind] at declared
    rw [← declared.1]
    decide
  · by_cases second : "b" = step
    · simp [Dict.find?, first, second, Hook.hasKind] at declared
      rw [← declared.1]
      decide
    · simp [Dict.find?, first, second] at declared

/-- A run of `Flow.askingFlow` that has begun. -/
def asking : Engine :=
  (new sharedHooks {}).commit ⟨0⟩ ((new sharedHooks {}).departure ⟨0⟩ Flow.askingFlow [])

theorem apply_askingText :
    (Event.operate ⟨0⟩ (.start Flow.askingText [])).apply (new sharedHooks {}) = asking :=
  congrArg Prod.fst (execute_start ⟨none, rfl, by simp⟩ ⟨0⟩ Flow.compile_askingText [])

/-- An output of each of the two steps, the second of which is not left; then the run is
forgotten. -/
def twoOutputs : List Event :=
  [.operate ⟨1⟩ (.submit []), .operate ⟨2⟩ (.submit [("n", .int 2)]), .operate ⟨3⟩ .reset]

/-- A session with these outputs. -/
def askingEvents : List Event := .operate ⟨0⟩ (.start Flow.askingText []) :: twoOutputs

/-- Both outputs have their row, though the run is forgotten. -/
theorem archived_session_askingEvents :
    (((new sharedHooks {}).through askingEvents).store.count? "outs").toOption.getD 0 = 2 ∧
      ((new sharedHooks {}).noted askingEvents).countP
        (Note.archivedIn sharedHooks "outs") = 2 := by
  have keeps : ∀ event ∈ askingEvents, event.Keeps sharedHooks := by
    simp [askingEvents, twoOutputs, Event.Keeps]
  have first : (Event.operate ⟨0⟩ (.start Flow.askingText [])).noted (new sharedHooks {}) =
      asking.store.history.reverse.map HistoryRow.note := by
    rw [Event.noted, apply_askingText]
    decide +kernel
  have noted : ((new sharedHooks {}).noted askingEvents).countP
      (Note.archivedIn sharedHooks "outs") = 2 := by
    rw [askingEvents, noted_cons, apply_askingText, first]
    decide +kernel
  obtain ⟨rows, -⟩ := archived_session {} keeps foreign_sharedHooks
  exact ⟨(rows "outs" (by decide)).trans noted, noted⟩

/-- **An output stays archived when the run then finds no way on**, though the operation that took
it fails. -/
theorem archived_stranded :
    let e := (new sharedHooks {}).through
      [.operate ⟨0⟩ (.start Flow.askingText []), .operate ⟨1⟩ (.submit [])]
    (e.execute ⟨2⟩ (.submit [("n", .int 2)])).2.succeeded = false ∧
      e.store.count? "outs" = .ok 1 ∧
      (e.execute ⟨2⟩ (.submit [("n", .int 2)])).1.store.count? "outs" = .ok 2 := by
  intro e
  have reached : e = asking.through [.operate ⟨1⟩ (.submit [])] :=
    (through_cons _ _ _).trans (by rw [apply_askingText])
  rw [reached]
  decide +kernel

end Engine

end Runbook
