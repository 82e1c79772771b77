import Runbook.Proofs.Data.Fields
import Runbook.Proofs.Guard.Reworded
import Runbook.Run.Route

/-!
# What a guard can see

The context of a guard has all outputs of the run and the counters of its loops, and the guard sees
of it what its text mentions.  However malformed a text is, it is cut into operands, and each of
them is a piece of it.  An operand that is no literal asks the context once, for its first key, and
everything else that it looks for is inside the value that it finds there.  The first key begins the
piece: it is the first part as it stands, or the name in front of a place in brackets.  So it occurs
in the text.

That keys occur in a text is all that is said.  A text mentions more keys than it asks for, those of
deeper places and of quoted texts among them, and every text mentions the empty key.

## Main definitions

* `Guard.Mentions`: a key occurs in a text
* `Guard.AgreeOn`: contexts with the same values under the keys that a text mentions
* `RunState.AgreeOn`: states with the same data and counters under these keys

## Main statements

* `Guard.Segment.key_ofChars_prefix`: the key of a written segment begins it
* `Guard.Expr.value_congr`: an expression sees the values of its operands
* `RunState.get?_context`: what the context of a state has under a key
* `Guard.decides_agreeOn`: whether a guard holds, in states that agree
* `Guard.evaluate_unmentioned`: what a text does not mention does not change its value
* `Guard.decides_unmentioned_hook`: a hook may look at what the guard does not mention

## Design notes

A guard that is left to a hook names the hook, and it is the hook that looks at the run: it is
handed all data, and no counters.  So the hook has to accept the data of both states or of neither.
-/

namespace Runbook

namespace Guard

/-! ## Keys in a text -/

/-- The key occurs in the text. -/
def Mentions (text : List Char) (key : String) : Prop := key.toList <:+: text

instance (text : List Char) (key : String) : Decidable (Mentions text key) :=
  inferInstanceAs (Decidable (key.toList <:+: text))

/-- The contexts have the same values under the keys that the text mentions. -/
def AgreeOn (text : List Char) (context context' : Json.Object) : Prop :=
  ∀ key, Mentions text key → context.get? key = context'.get? key

theorem Mentions.of_infix {text piece : List Char} {key : String} (mentions : Mentions piece key)
    (within : piece <:+: text) : Mentions text key := List.IsInfix.trans mentions within

variable {text piece : List Char} {context context' : Json.Object}

theorem AgreeOn.of_infix (agree : AgreeOn text context context') (within : piece <:+: text) :
    AgreeOn piece context context' := fun key mentions => agree key (mentions.of_infix within)

/-- Another value under a key that is not mentioned changes nothing under those that are. -/
theorem agreeOn_insert {key : String} (silent : ¬ Mentions text key) (context : Json.Object)
    (value : Json) : AgreeOn text (context.insert key value) context := by
  intro other mentions
  rw [Fields.get?_insert, if_neg]
  rintro rfl
  exact silent mentions

/-! ## Which keys are asked for -/

/-- The key that a segment asks for. -/
def Segment.key : Segment → String
  | field key => key
  | item key _ => key

/-- **The key of a written segment begins it.** -/
theorem Segment.key_ofChars_prefix (cs : List Char) : (ofChars cs).key.toList <+: cs := by
  have whole : (field (.ofList cs)).key.toList <+: cs :=
    ⟨[], (List.append_nil _).trans String.toList_ofList⟩
  unfold ofChars
  dsimp only
  split
  · split
    · exact whole
    · rw [key, String.toList_ofList]
      exact List.takeWhile_prefix _
  · exact whole

/-- A segment sees what is under its key. -/
theorem Segment.find?_congr {segment : Segment} {fields others : Json.Object}
    (same : fields.get? segment.key = others.get? segment.key) :
    segment.find? fields = segment.find? others := by
  cases segment with
  | field key => exact same
  | item key place =>
    rw [Segment.find?, Segment.find?]
    rw [show fields.get? key = others.get? key from same]

/-- A written address asks the context for its first key, and the text mentions that. -/
theorem Address.find?_agreeOn (agree : AgreeOn piece context context') :
    (ofChars piece).find? context = (ofChars piece).find? context' := by
  obtain ⟨parts, split⟩ := Text.exists_splitOn_eq '.' piece
  have first : Mentions piece (Segment.ofChars (piece.takeWhile (· ≠ '.'))).key :=
    ((Segment.key_ofChars_prefix _).trans (List.takeWhile_prefix _)).isInfix
  rw [ofChars, split, List.map_cons, find?, find?, walk?_cons, walk?_cons]
  show (Segment.find? _ context).bind _ = (Segment.find? _ context').bind _
  rw [Segment.find?_congr (agree _ first)]

theorem Operand.value_agreeOn (agree : AgreeOn piece context context') :
    (ofChars piece).value context = (ofChars piece).value context' := by
  unfold ofChars
  cases literal? piece with
  | some value => rfl
  | none =>
    show ((Address.ofChars piece).find? context).getD .null = _
    rw [Address.find?_agreeOn agree]
    rfl

/-- **An expression sees the values of its operands.** -/
theorem Expr.value_congr {e : Expr}
    (each : ∀ o ∈ e.operands, o.value context = o.value context') :
    e.value context = e.value context' := by
  induction e with
  | operand o => exact each o (List.mem_singleton_self o)
  | compare op left right ihl ihr =>
    have first := ihl fun o member => each o (List.mem_append_left _ member)
    have second := ihr fun o member => each o (List.mem_append_right _ member)
    rw [value_compare, value_compare, first, second]

/-- **A text has the same value in contexts that agree on what it mentions.** -/
theorem evaluate_agreeOn (agree : AgreeOn text context context') :
    evaluate text context = evaluate text context' := by
  refine Expr.value_congr fun o member => ?_
  obtain ⟨piece, within, -, rfl⟩ := Expr.exists_piece member
  exact Operand.value_agreeOn (agree.of_infix within)

end Guard

/-! ## Runs -/

namespace RunState

/-- **What guards see under a key**: the index of the loop of that name, if it is active, and else
the data. -/
theorem get?_context (state : RunState) (key : String) :
    state.context.get? key =
      ((state.loops.get? key).map fun counter => Json.int counter.index).or
        (state.data.get? key) := by
  let indices := state.loops.entries.map fun loop => (loop.1, Json.int loop.2.index)
  have folded : state.context =
      indices.foldl (fun fields p => fields.insert p.1 p.2) state.data := by
    rw [List.foldl_map]
    rfl
  have distinct : (Fields.keys indices.reverse).Nodup := by
    rw [Fields.keys, List.map_reverse, List.map_map]
    exact (List.reverse_perm _).nodup_iff.2 state.loops.nodup
  have counted : Fields.get? indices.reverse key =
      (state.loops.get? key).map fun counter => Json.int counter.index := by
    refine Option.ext fun value => ?_
    rw [Fields.get?_eq_some_iff distinct, List.mem_reverse, List.mem_map, Option.map_eq_some_iff]
    constructor
    · rintro ⟨loop, among, same⟩
      obtain ⟨rfl, rfl⟩ := Prod.mk.inj same
      exact ⟨loop.2, (Dict.get?_eq_some_iff _ _ _).2 among, rfl⟩
    · rintro ⟨counter, found, rfl⟩
      exact ⟨(key, counter), (Dict.get?_eq_some_iff _ _ _).1 found, rfl⟩
  rw [folded, Fields.get?_foldl_insert, counted]

/-- The states have the same data, and loops with the same indices, under the keys that the text
mentions. -/
structure AgreeOn (text : List Char) (state state' : RunState) : Prop where
  data : Guard.AgreeOn text state.data state'.data
  loops : ∀ key, Guard.Mentions text key →
    (state.loops.get? key).map LoopCounter.index = (state'.loops.get? key).map LoopCounter.index

variable {text : List Char} {state state' : RunState}

theorem AgreeOn.trans {state'' : RunState} (agree : state.AgreeOn text state')
    (agree' : state'.AgreeOn text state'') : state.AgreeOn text state'' where
  data key mentions := (agree.data key mentions).trans (agree'.data key mentions)
  loops key mentions := (agree.loops key mentions).trans (agree'.loops key mentions)

/-- Guards see the same in both states, as far as the text mentions it. -/
theorem AgreeOn.context (agree : state.AgreeOn text state') :
    Guard.AgreeOn text state.context state'.context := by
  intro key mentions
  have counted (loop : Option LoopCounter) : (loop.map fun counter => Json.int counter.index) =
      (loop.map LoopCounter.index).map fun index : Nat => Json.int index := by
    rw [Option.map_map]
    rfl
  rw [get?_context, get?_context, counted, counted, agree.data key mentions,
    agree.loops key mentions]

/-- A new output of a step that is not mentioned. -/
theorem agreeOn_output {step : String} (silent : ¬ Guard.Mentions text step) (state : RunState)
    (payload : Json.Object) :
    AgreeOn text { state with data := state.data.insert step (.obj payload) } state where
  data := Guard.agreeOn_insert silent state.data (.obj payload)
  loops _ _ := rfl

/-- A pass through a loop header that is not mentioned. -/
theorem agreeOn_pass {header : String} (silent : ¬ Guard.Mentions text header) (state : RunState)
    (pass : Pass) : AgreeOn text (pass.apply header state) state where
  data _ _ := rfl
  loops key mentions := by
    have other : header ≠ key := fun same => silent (same ▸ mentions)
    cases pass with
    | enter count => rw [Pass.apply, Pass.loops, Dict.get?_insert, if_neg other]
    | next counter => rw [Pass.apply, Pass.loops, Dict.get?_insert, if_neg other]
    | complete => rw [Pass.apply, Pass.loops, Dict.get?_erase, if_neg other]
    | skip => rfl

end RunState

namespace Guard

/-- **Whether a guard holds** is the same in states that agree on what it mentions.  If it is left
to a hook, that hook has to accept the data of both or of neither. -/
theorem decides_agreeOn {guard : String} {hooks : Registry} {state state' : RunState}
    (agree : state.AgreeOn guard.toList state')
    (asked : Kind.ofChars guard.toList = .capability → ∀ hook, hooks.guard? guard = some hook →
      (hook.complaint? (.obj state.data)).isNone = (hook.complaint? (.obj state'.data)).isNone) :
    hooks.decides state guard = hooks.decides state' guard := by
  unfold Registry.decides
  cases kind : Kind.ofChars guard.toList with
  | expression =>
    dsimp only
    rw [holds, holds, evaluate_agreeOn agree.context]
  | capability =>
    dsimp only
    unfold Registry.permits
    cases named : hooks.guard? guard with
    | none => rfl
    | some hook =>
      dsimp only
      rw [asked kind hook named]
  | deferred => rfl

/-- **What a text does not mention does not change its value.**  A text has the same value in any
two contexts that agree on the keys that occur in it.  So a guard holds in both or in neither of two
states that have the same data under these keys, and loops of these names at the same items: no
output of another step can change that, and no counter of another loop.  A guard that is left to a
hook is another matter: the hook looks at all data, so it must accept those of both or of neither. -/
theorem evaluate_unmentioned (guard : String) :
    (∀ context context' : Json.Object, AgreeOn guard.toList context context' →
      evaluate guard.toList context = evaluate guard.toList context') ∧
    ∀ (hooks : Registry) (state state' : RunState), state.AgreeOn guard.toList state' →
      (Kind.ofChars guard.toList = .capability → ∀ hook, hooks.guard? guard = some hook →
        (hook.complaint? (.obj state.data)).isNone =
          (hook.complaint? (.obj state'.data)).isNone) →
      hooks.decides state guard = hooks.decides state' guard :=
  ⟨fun _ _ agree => evaluate_agreeOn agree, fun _ _ _ agree asked => decides_agreeOn agree asked⟩

/-- A malformed guard that holds: the output of another step and the next item of another loop leave
it alone, though they change the context. -/
theorem evaluate_unmentioned_malformed :
    let guard := "items[1] != x[ >"
    let before : RunState :=
      { RunState.initial "f" "draft" [("items", .arr [.int 1, .int 2])] ⟨0⟩ with
        loops := .ofList [("each", ⟨0, 2⟩)] }
    let after := Pass.apply (.next ⟨1, 2⟩) "each"
      { before with data := before.data.insert "draft" (.obj [("x", .int 7)]) }
    after.AgreeOn guard.toList before ∧ after.context ≠ before.context ∧
      evaluate guard.toList after.context = .bool true ∧
      Registry.decides .empty after guard = true := by
  intro guard before after
  have agree : after.AgreeOn guard.toList before :=
    (RunState.agreeOn_pass (by decide +kernel) _ _).trans
      (RunState.agreeOn_output (by decide +kernel) _ _)
  have evaluated : Kind.ofChars guard.toList ≠ .capability := by decide +kernel
  obtain ⟨values, outcomes⟩ := evaluate_unmentioned guard
  refine ⟨agree, by decide +kernel, (values _ _ agree.context).trans ?_,
    (outcomes _ _ _ agree fun left => absurd left evaluated).trans ?_⟩
  · decide +kernel
  · decide +kernel

/-- A hook for a guard that asks for the output of a step. -/
def draftHook : Hook :=
  { name := "ok", kinds := [.eval], check := some (.require "draft" "rejected") }

/-- **A hook may look at what the guard does not mention.**  The output of a step changes whether the
guard holds, though the guard has nothing of its name. -/
theorem decides_unmentioned_hook :
    let hooks := Registry.ofHooks [draftHook]
    let before := RunState.initial "unnamed flow" "a" [("a", .obj [])] ⟨0⟩
    let after := { before with data := before.data.insert "draft" (.obj []) }
    after.AgreeOn "@ok".toList before ∧
      hooks.decides before "@ok" = false ∧ hooks.decides after "@ok" = true := by
  intro hooks before after
  exact ⟨RunState.agreeOn_output (by decide +kernel) before [], by decide +kernel,
    by decide +kernel⟩

end Guard

end Runbook
