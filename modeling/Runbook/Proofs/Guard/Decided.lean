import Runbook.Proofs.Guard.Path
import Runbook.Run.Route

/-!
# Paths as guards

A guard is sorted by its form before anyone evaluates it.  The form of a plain path is a run of word
characters and points, and then a place, if there is one, with nothing behind it.  A path may have a
place behind any of its keys, and its value is found wherever they stand; so there are paths that
the evaluator could decide and that are never handed to it.

Which these are is told by the keys.  The run of word characters and points ends at the first place
of the path, so the path is plain exactly if that place is the end of it, or if there is none.

## Main definitions

* `Guard.Path.PlacedLast`: paths with a place behind their last key at most

## Main statements

* `Guard.Path.isPlainPath_text`: the plain paths
* `Guard.Kind.ofChars_path`: a path is left to the evaluator or to someone outside
* `Guard.decides_path`: which paths are decided by their value, and what becomes of the others
* `Guard.deferred_innerPlace`: a path with a place in it that holds and is nevertheless left open
-/

namespace Runbook

namespace Guard

namespace Path

/-- Only the last key may have a place behind it. -/
def PlacedLast (path : Path) : Prop := ∀ key ∈ path.keys.dropLast, key.digits = none

instance (path : Path) : Decidable path.PlacedLast :=
  inferInstanceAs (Decidable (∀ key ∈ path.keys.dropLast, key.digits = none))

/-! ## Plain paths -/

/-- The characters of keys and the points between them. -/
def inName (c : Char) : Bool := Text.isWordChar c || c == '.'

/-- The first place ends the run of names. -/
theorem dropWhile_text (key : Key) (behind : List Char) :
    (key.text ++ behind).dropWhile inName =
      match key.digits with
      | none => behind.dropWhile inName
      | some run => '[' :: (run ++ ']' :: behind) := by
  have named : ∀ c ∈ key.name, inName c = true := fun c member => by
    rw [inName, key.word.2 c member, Bool.true_or]
  cases digits : key.digits with
  | none =>
    rw [Key.text, digits]
    exact List.dropWhile_append_of_pos named
  | some run =>
    rw [Key.text, digits]
    dsimp only
    rw [List.append_assoc, List.dropWhile_append_of_pos named, List.cons_append,
      List.dropWhile_cons_of_neg (by decide), List.append_assoc, List.singleton_append]

/-- What is behind the names of joined keys is nothing or a place at the end, exactly if only the
last key has one. -/
theorem rest_joined (key : Key) (keys : List Key) :
    let rest := (List.intercalate ['.'] ((key :: keys).map Key.text)).dropWhile inName
    rest = [] ∨ (Segment.place? rest).isSome = true ↔
      ∀ other ∈ (key :: keys).dropLast, other.digits = none := by
  induction keys generalizing key with
  | nil =>
    have alone := dropWhile_text key []
    rw [List.append_nil] at alone
    simp only [List.map_cons, List.map_nil, List.intercalate_singleton, alone,
      List.dropLast_singleton, List.not_mem_nil, false_implies, implies_true, iff_true]
    cases digits : key.digits with
    | none => exact .inl rfl
    | some run =>
      dsimp only
      rw [Segment.place?_run (key.number run digits), if_pos rfl]
      exact .inr rfl
  | cons next keys ih =>
    have step := dropWhile_text key ('.' :: List.intercalate ['.'] ((next :: keys).map Key.text))
    rw [List.map_cons, List.map_cons, List.intercalate_cons_cons, List.append_assoc,
      List.singleton_append, ← List.map_cons, step, List.dropLast_cons_cons, List.forall_mem_cons]
    cases digits : key.digits with
    | none =>
      dsimp only
      rw [List.dropWhile_cons_of_pos (by decide)]
      simpa using ih next
    | some run =>
      dsimp only
      rw [Segment.place?_run (key.number run digits), if_neg (List.cons_ne_nil _ _)]
      simp

/-- **The plain paths** are those with a place behind their last key at most. -/
theorem isPlainPath_text (path : Path) : Kind.isPlainPath path.text = true ↔ path.PlacedLast := by
  obtain ⟨first, behind, same, word⟩ := path.exists_text_eq
  have named : (path.text.takeWhile inName).isEmpty = false := by
    rw [same, List.takeWhile_cons_of_pos (by rw [inName, word, Bool.true_or])]
    rfl
  have split : Kind.isPlainPath path.text =
      (!(path.text.takeWhile inName).isEmpty && ((path.text.dropWhile inName).isEmpty ||
        (Segment.place? (path.text.dropWhile inName)).isSome)) := rfl
  rw [split, named, Bool.not_false, Bool.true_and, Bool.or_eq_true, List.isEmpty_iff]
  exact rest_joined path.first path.rest

end Path

/-! ## Who decides -/

/-- **A path is left to the evaluator** if only its last key has a place, and else to someone
outside. -/
theorem Kind.ofChars_path (path : Path) {guard : List Char}
    (written : Text.trim guard = path.text) :
    ofChars guard = if path.PlacedLast then .expression else .deferred := by
  obtain ⟨first, behind, same, word⟩ := path.exists_text_eq
  have unmarked : path.text.head? ≠ some '@' := by
    rw [same, List.head?_cons, ne_eq, Option.some_inj]
    rintro rfl
    exact absurd word (by decide)
  have unsigned : Comparison.all.any (fun op => Text.occurs op.sign path.text) = false :=
    any_occurs_eq_false_iff.2 path.plain_text.unsigned
  rw [ofChars, written, if_neg unmarked, unsigned, Bool.false_or]
  exact if_congr path.isPlainPath_text rfl rfl

end Guard

/-- **The decisions that are offered** are the transitions whose guard is left to someone
outside. -/
theorem Decision.mem_pending_iff {transitions : List Transition} {decision : Decision} :
    decision ∈ pending transitions ↔
      Guard.Kind.ofChars decision.condition.toList = .deferred ∧
        ∃ t ∈ transitions, t.condition = some decision.condition ∧ t.target = decision.target := by
  rw [pending, List.mem_filterMap]
  refine ⟨fun ⟨t, among, same⟩ => ?_, fun ⟨deferred, t, among, guarded, target⟩ => ?_⟩
  · obtain ⟨condition, guarded, same⟩ := Option.bind_eq_some_iff.1 same
    obtain ⟨deferred, same⟩ := Option.ite_none_right_eq_some.1 same
    obtain rfl := Option.some.inj same
    exact ⟨deferred, t, among, guarded, rfl⟩
  · refine ⟨t, among, ?_⟩
    rw [Transition.decision?, guarded, Option.bind_some, if_pos deferred, target]

namespace Guard

/-- The evaluator decides the guard in every state, and nobody is asked about it. -/
structure Evaluated (guard : String) : Prop where
  /-- The guard holds if its value counts as true. -/
  value : ∀ (hooks : Registry) (state : RunState),
    hooks.decides state guard = holds guard.toList state.context
  /-- The guard is never among the decisions that a step offers. -/
  unasked : ∀ (transitions : List Transition), ∀ decision ∈ Decision.pending transitions,
    decision.condition ≠ guard

/-- The guard holds in no state, and wherever it stands someone is asked about it. -/
structure LeftOpen (guard : String) : Prop where
  /-- The guard does not hold, whatever its value is. -/
  fails : ∀ (hooks : Registry) (state : RunState), hooks.decides state guard = false
  /-- A step with the guard offers it as a decision, and no run goes on from there by itself. -/
  asked : ∀ (step : Step), ∀ t ∈ step.transitions, t.condition = some guard →
    ⟨t.target, guard⟩ ∈ Decision.pending step.transitions ∧ step.advances = false

theorem evaluated_of_kind {guard : String} (kind : Kind.ofChars guard.toList = .expression) :
    Evaluated guard where
  value hooks state := by rw [Registry.decides, kind]
  unasked transitions decision offered same := by
    have deferred := (Decision.mem_pending_iff.1 offered).1
    rw [same, kind] at deferred
    cases deferred

theorem leftOpen_of_kind {guard : String} (kind : Kind.ofChars guard.toList = .deferred) :
    LeftOpen guard where
  fails hooks state := by rw [Registry.decides, kind]
  asked step t among guarded := by
    have offered : ⟨t.target, guard⟩ ∈ Decision.pending step.transitions :=
      Decision.mem_pending_iff.2 ⟨kind, t, among, guarded, rfl⟩
    have waits : (Decision.pending step.transitions).isEmpty = false :=
      List.isEmpty_eq_false_iff.2 (List.ne_nil_of_mem offered)
    refine ⟨offered, ?_⟩
    rw [Step.advances, waits, Bool.and_false]

/-- **Which paths are decided by their value**: those with a place behind their last key at most.
Every other path is taken for free text: it never holds, a step that has it asks someone outside,
and a run does not go on from there by itself. -/
theorem decides_path (path : Path) {guard : String}
    (written : Text.trim guard.toList = path.text) :
    (path.PlacedLast → Kind.ofChars guard.toList = .expression ∧ Evaluated guard) ∧
      (¬ path.PlacedLast → Kind.ofChars guard.toList = .deferred ∧ LeftOpen guard) := by
  have kind := Kind.ofChars_path path written
  refine ⟨fun last => ?_, fun inner => ?_⟩
  · rw [if_pos last] at kind
    exact ⟨kind, evaluated_of_kind kind⟩
  · rw [if_neg inner] at kind
    exact ⟨kind, leftOpen_of_kind kind⟩

/-- The first item of a list, without or with a key behind it. -/
def firstItem (rest : List Path.Key) : Path where
  first :=
    { name := "items".toList
      digits := some ['0']
      word := by decide
      number := by decide }
  rest := rest

/-- The key `ok`. -/
def okKey : Path.Key := .plain "ok".toList (by decide)

/-- The item itself is decided by its value, and what is in its field is not. -/
theorem decides_path_firstItem :
    (Text.trim " items[0]\n".toList = (firstItem []).text ∧ Evaluated " items[0]\n") ∧
      Text.trim "items[0].ok".toList = (firstItem [okKey]).text ∧ LeftOpen "items[0].ok" := by
  have written : Text.trim " items[0]\n".toList = (firstItem []).text := by decide
  have written' : Text.trim "items[0].ok".toList = (firstItem [okKey]).text := by decide
  exact ⟨⟨written, ((decides_path (firstItem []) written).1 (by decide)).2⟩,
    written', ((decides_path (firstItem [okKey]) written').2 (by decide)).2⟩

/-- A path whose value is true, in a field of an item: it is not for the evaluator, and it is
offered as a decision. -/
theorem deferred_innerPlace :
    let context : Json.Object := [("items", .arr [.obj [("ok", .bool true)]])]
    "items[0].ok".toList = (firstItem [okKey]).text ∧
      holds "items[0].ok".toList context = true ∧
      Kind.ofChars "items[0].ok".toList ≠ .expression ∧
      Decision.pending [.guarded "next" "items[0].ok"] = [⟨"next", "items[0].ok"⟩] := by
  decide +kernel

end Guard

end Runbook
