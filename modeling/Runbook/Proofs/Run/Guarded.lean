import Runbook.Proofs.Flow.Declared
import Runbook.Proofs.Flow.Nesting
import Runbook.Proofs.Run.Walk

/-!
# Written guards

A guard is written in one of three places: on a branch with children, on an entry of an explicit
`next`, and on a step that is asserted.  In each of them the compiler looks for a text under some
keys, and an edge for which it finds none is a default edge.  A guard that is written as a false
value has no text, so its edge is the opposite of what is written: the run always goes along it.

## Main definitions

* `GuardSite`: a place where a guard may be written on an edge
* `GuardSite.edge`: the edge that is made there
* `Outline.HasSite`: the places in a declared step

## Main statements

* `GuardSite.isDefault_edge_iff`: an edge is unguarded exactly if nothing usable is written
* `Step.route_of_default`: a run takes the first unguarded edge if no guard is in the way
* `Outline.exists_site`: guarded edges are made in these places only
* `Flow.unguarded_iff`: so which edges of a document are unguarded, and what runs do there
* `Engine.taken_falseGuard`: a run that enters a branch under a false guard

## Design notes

Of two keys of one guard the first usable one counts, so a false value under one of them does no
harm if there is something usable under the other.
-/

namespace Runbook

namespace Json

/-- A value that is no list and no mapping. -/
def isScalar : Json → Bool
  | arr _ | obj _ => false
  | _ => true

/-- A false boolean, or a number that is zero. -/
def IsFalse (value : Json) : Prop :=
  value = .bool false ∨ value = .int 0 ∨ ∃ x : Double, value = .double x ∧ x.isZero = true

theorem IsFalse.truthy {value : Json} (wrong : value.IsFalse) : value.truthy = false := by
  rcases wrong with rfl | rfl | ⟨x, rfl, zero⟩
  · rfl
  · rfl
  · simp [Json.truthy, zero]

end Json

/-- False values, lists and mappings have no text. -/
theorem Keyword.scalarText?_eq_none_iff {value : Json} :
    Keyword.scalarText? value = none ↔ value.truthy = false ∨ value.isScalar = false := by
  unfold Keyword.scalarText?
  cases true? : value.truthy with
  | false => simp
  | true => cases value <;> simp_all [Json.isScalar]

/-- An edge to a name, if there is one. -/
theorem Transition.exists_of_mem_toList {name : Option String} {edge : String → Transition}
    {t : Transition} (member : t ∈ (name.map edge).toList) :
    ∃ target, name = some target ∧ t = edge target := by
  obtain ⟨target, named, rfl⟩ := Option.map_eq_some_iff.1 (Option.mem_toList.1 member)
  exact ⟨target, named, rfl⟩

/-! ## Places of guards -/

/-- A place where a guard may be written on an edge: the mapping that it is written in, the keys
that it may have there, and the step that the edge leads to. -/
structure GuardSite where
  holder : Json.Object
  keys : List String
  target : String

namespace GuardSite

/-- What is written there, in the order of the keys. -/
def written (site : GuardSite) : List Json := site.keys.filterMap (Fields.get? site.holder)

/-- The edge that is made there. -/
def edge (site : GuardSite) : Transition := .withCondition site.target site.holder site.keys

@[simp] theorem target_edge (site : GuardSite) : site.edge.target = site.target := rfl

/-- The guard of the edge is the text of the first usable value. -/
theorem condition_edge (site : GuardSite) :
    site.edge.condition = site.written.findSome? Keyword.scalarText? := by
  rw [written, ← List.head?_filterMap, List.filterMap_filterMap, List.head?_filterMap]
  rfl

/-- **An edge is unguarded exactly if nothing usable is written.** -/
theorem isDefault_edge_iff (site : GuardSite) : site.edge.isDefault = true ↔
    ∀ value ∈ site.written, value.truthy = false ∨ value.isScalar = false := by
  rw [Transition.isDefault, Option.isNone_iff_eq_none, condition_edge, List.findSome?_eq_none_iff]
  exact forall₂_congr fun value _ => Keyword.scalarText?_eq_none_iff

end GuardSite

namespace Outline

/-- The places in a declared step, before `next`, where a guard may be written. -/
inductive HasSite (o : Outline) (next : Option String) : GuardSite → Prop where
  /-- On a branch with children, for the edge to the first of them. -/
  | branch {child : Outline} (kind : StepKind.infer o.body = .branch)
      (first : o.children.head? = some child) :
      HasSite o next ⟨o.body, ["if", "condition"], child.name⟩
  /-- On an entry of `next`, for the edge to where it goes. -/
  | entry {entries : List Json} {fields : Json.Object} {target : String}
      (unentered : (o.wiring next).children = none)
      (listed : Fields.get? o.body "next" = some (.arr entries)) (member : .obj fields ∈ entries)
      (goes : Keyword.firstText? fields ["go", "target"] = some target) :
      HasSite o next ⟨fields, ["if", "condition"], target⟩
  /-- On a step that is asserted, for the edge to the step after it. -/
  | assertion {target : String} (kind : StepKind.infer o.body = .assert)
      (silent : Fields.get? o.body "next" = none) (follows : next = some target) :
      HasSite o next ⟨o.body, ["condition", "assert"], target⟩

/-- A step that is neither a loop nor a branch enters no children. -/
theorem wiring_of_children_eq_none {o : Outline} {next : Option String}
    (unentered : (o.wiring next).children = none) :
    o.wiring next = .plain (.infer o.body) o.body next := by
  rcases wiring_cases o next with same | ⟨child, -, -, same⟩ | ⟨child, -, -, same⟩
  · exact same
  · rw [same] at unentered
    cases unentered
  · rw [same] at unentered
    cases unentered

/-- The edge of a place is one of the step. -/
theorem edge_mem_of_hasSite {o : Outline} {next : Option String} {site : GuardSite}
    (has : o.HasSite next site) : site.edge ∈ (o.step next).transitions := by
  show site.edge ∈ (o.wiring next).transitions
  cases has with
  | branch kind first =>
    unfold wiring
    rw [kind, first]
    exact List.mem_cons_self
  | @entry entries fields target unentered listed member goes =>
    rw [wiring_of_children_eq_none unentered]
    simp only [Wiring.plain, listed, Transition.ofNext]
    refine List.mem_filterMap.2 ⟨.obj fields, member, ?_⟩
    rw [Transition.ofEntry?, goes]
    rfl
  | @assertion target kind silent follows =>
    have plain : o.wiring next = .plain .assert o.body next := by
      unfold wiring
      rw [kind]
      rfl
    rw [plain, follows]
    simp only [Wiring.plain, silent, Wiring.assertion, GuardSite.edge, Transition.withCondition]
    cases Keyword.firstText? o.body ["condition", "assert"] with
    | some condition => exact List.mem_cons_self
    | none => exact List.mem_cons_self

/-- **Guarded edges are made in these places only.** -/
theorem exists_site {o : Outline} {next : Option String} {t : Transition}
    (member : t ∈ (o.step next).transitions) (guarded : t.isDefault = false) :
    ∃ site, o.HasSite next site ∧ t = site.edge := by
  -- an edge to what comes next, or to a name that is written somewhere, is no guarded one
  have unguarded {name : Option String} (inside : t ∈ (name.map Transition.plain).toList) :
      ∃ site, o.HasSite next site ∧ t = site.edge := by
    obtain ⟨target, -, rfl⟩ := Transition.exists_of_mem_toList inside
    cases guarded
  have member : t ∈ (o.wiring next).transitions := member
  rcases wiring_cases o next with same | ⟨child, first, kind, same⟩ | ⟨child, first, kind, same⟩
  · have unentered : (o.wiring next).children = none := by rw [same, children_plain]
    rw [same] at member
    unfold Wiring.plain at member
    split at member
    · rename_i value listed
      cases value with
      | str target =>
        obtain rfl := List.mem_singleton.1 member
        cases guarded
      | arr entries =>
        obtain ⟨entry, inside, made⟩ := List.mem_filterMap.1 member
        unfold Transition.ofEntry? at made
        split at made
        · obtain ⟨target, goes, rfl⟩ := Option.map_eq_some_iff.1 made
          exact ⟨_, .entry unentered listed inside goes, rfl⟩
        · obtain rfl := Option.some.inj made
          cases guarded
        · cases made
      | _ => cases member
    · rename_i silent
      split at member
      · cases member
      · rename_i kind
        unfold Wiring.assertion at member
        split at member
        · rename_i condition written
          rcases List.mem_append.1 member with asserted | failed
          · obtain ⟨target, follows, rfl⟩ := Transition.exists_of_mem_toList asserted
            refine ⟨_, .assertion kind silent follows, ?_⟩
            rw [GuardSite.edge, Transition.withCondition, written]
            rfl
          · exact unguarded failed
        · exact unguarded member
      · exact unguarded member
      · exact unguarded member
  · rw [same] at member
    rcases List.mem_cons.1 member with rfl | inNext
    · cases guarded
    · exact unguarded inNext
  · rw [same] at member
    rcases List.mem_cons.1 member with rfl | inNext
    · exact ⟨_, .branch kind first, rfl⟩
    · exact unguarded inNext

end Outline

/-! ## Runs at unguarded edges -/

/-- Nothing is in the way of an edge: all edges before it are guarded, and of the guards of the
others none holds and none is left to someone outside. -/
def Step.ClearTo (step : Step) (hooks : Registry) (state : RunState) (t : Transition) : Prop :=
  ∃ before after, step.transitions = before ++ t :: after ∧
    (∀ other ∈ before, other.isDefault = false) ∧
    ∀ other ∈ before ++ after, other.isDefault = false →
      other.fires hooks state = false ∧ other.kind? ≠ some .deferred

/-- **A run takes an unguarded edge if nothing is in the way.** -/
theorem Step.ClearTo.route {step : Step} {hooks : Registry} {state : RunState} {t : Transition}
    (clear : step.ClearTo hooks state t) (unguarded : t.isDefault = true) :
    step.route hooks state = .towards t.target := by
  obtain ⟨before, after, parts, first, fails⟩ := clear
  have each : ∀ other ∈ step.transitions,
      other.fires hooks state = false ∧ other.kind? ≠ some .deferred := by
    rw [parts]
    intro other member
    by_cases plain : other.isDefault = true
    · have none : other.condition = none := Option.isNone_iff_eq_none.1 plain
      simp [Transition.fires, Transition.kind?, none]
    · refine fails other ?_ (by simpa using plain)
      rcases List.mem_append.1 member with early | late
      · exact List.mem_append_left _ early
      · rcases List.mem_cons.1 late with rfl | late
        · exact absurd unguarded plain
        · exact List.mem_append_right _ late
  have silent : step.transitions.find? (Transition.fires hooks state) = none :=
    List.find?_eq_none.2 fun other member => by simp [(each other member).1]
  have settled : Decision.pending step.transitions = [] :=
    (Decision.pending_eq_nil_iff _).2 fun other member => (each other member).2
  have found : step.transitions.find? Transition.isDefault = some t := by
    rw [List.find?_eq_some_iff_append]
    exact ⟨unguarded, before, after, parts, fun other member => by simp [first other member]⟩
  unfold Step.route
  rw [silent]
  dsimp only
  rw [settled]
  dsimp only
  rw [found]

/-- What becomes of a guard: the edge of its place in a step, and how runs leave the step. -/
structure GuardSite.Made (site : GuardSite) (step : Step) : Prop where
  /-- The step has the edge. -/
  edge : site.edge ∈ step.transitions
  /-- Its guard is the text of the first usable value that is written. -/
  condition : site.edge.condition = site.written.findSome? Keyword.scalarText?
  /-- It has no guard exactly if all that is written is null, false, zero, the empty text, a list or
  a mapping. -/
  unguarded : site.edge.isDefault = true ↔
    ∀ value ∈ site.written, value.truthy = false ∨ value.isScalar = false
  /-- So a false guard that stands alone is lost. -/
  lost : ∀ value : Json, site.written = [value] → value.IsFalse →
    site.edge = .plain site.target
  /-- And a run goes along the edge by default, unless something else is in the way. -/
  taken : site.edge.isDefault = true → ∀ hooks state, step.ClearTo hooks state site.edge →
    step.route hooks state = .towards site.target

theorem Outline.HasSite.made {o : Outline} {next : Option String} {site : GuardSite}
    (has : o.HasSite next site) : site.Made (o.step next) where
  edge := edge_mem_of_hasSite has
  condition := site.condition_edge
  unguarded := site.isDefault_edge_iff
  lost value alone wrong := by
    have unguarded : site.edge.isDefault = true := by
      rw [site.isDefault_edge_iff, alone]
      exact List.forall_mem_singleton.2 (.inl wrong.truthy)
    exact congrArg (Transition.mk site.target) (Option.isNone_iff_eq_none.1 unguarded)
  taken unguarded _ _ clear := clear.route unguarded

namespace Flow

/-- **Which guards of a document are lost, and what runs do then.**  The steps of a flow have
guarded edges only where a guard may be written: on branches with children, on entries of `next`,
and on steps that are asserted.  In each such place the step has an edge, whose guard is the text of
the first usable value that is written.  A false value is not usable, so if it is all that is
written, the edge is an unguarded one, and runs go along it by default. -/
theorem unguarded_iff {document : Json} {flow : Flow} (compiled : ofValue document = .ok flow) :
    ∃ outlines, Outline.ofDocument? document = some outlines ∧
      ∀ o ∈ Outline.declaredOfList outlines, ∀ step, flow.step? o.name = some step →
        ∃ next, step = o.step next ∧
          (∀ t ∈ step.transitions, t.isDefault = false →
            ∃ site, o.HasSite next site ∧ t = site.edge) ∧
          ∀ site, o.HasSite next site → site.Made step := by
  obtain ⟨outlines, declares, distinct, name, description, rfl⟩ := ofValue_eq_ok compiled
  refine ⟨outlines, declares, fun o member step filed => ?_⟩
  obtain ⟨made, named⟩ := (step?_ofOutlines distinct).1 filed
  obtain ⟨places, placed, among⟩ := Outline.exists_placesOfList outlines none
  rw [placed] at made
  obtain ⟨⟨other, next⟩, inside, rfl⟩ := List.mem_map.1 made
  -- names are distinct, so the step was made from this declaration
  have declared : other ∈ Outline.declaredOfList outlines :=
    among.subset (List.mem_map.2 ⟨_, inside, rfl⟩)
  obtain rfl : other = o := Outline.eq_of_name_eq distinct member declared named
  exact ⟨next, rfl, fun t taken guarded => Outline.exists_site taken guarded,
    fun site has => has.made⟩

/-- A branch with a false guard. -/
def falseBranch : Outline :=
  .mk "f" [("branch", .int 1), ("children", .arr [.str "b"]), ("if", .bool false),
    ("name", .str "f")] [.mk "b" [] []]

/-- A document with that branch between two steps. -/
def falseGuardText : String :=
  "steps: [a, \x7bname: f, branch: 1, if: false, children: [b]\x7d, c]"

/-- The step of the branch. -/
def falseBranchStep : Step where
  name := "f"
  transitions := [.plain "b", .plain "c"]
  config := { kind := .branch, auto := true }

/-- The flow of `falseGuardText`. -/
def falseGuardFlow : Flow where
  name := "unnamed flow"
  steps := .ofList [("a", { name := "a", transitions := [.plain "f"] }), ("f", falseBranchStep),
    ("b", { name := "b", transitions := [.plain "c"] }), ("c", { name := "c" })]
  entry := "a"

theorem parse?_falseGuardText : Yaml.parse? falseGuardText = some (.obj [("steps", .arr [.str "a",
    .obj [("branch", .int 1), ("children", .arr [.str "b"]), ("if", .bool false),
      ("name", .str "f")], .str "c"])]) := by
  decide +kernel

theorem compile_falseGuardText :
    Engine.compile falseGuardText = .ok (falseGuardFlow, [⟨.deadEnd, some "c"⟩]) :=
  compile_of_document parse?_falseGuardText (by cbv) (by cbv) rfl

theorem ofText?_falseGuardText :
    Outline.ofText? falseGuardText = some [.mk "a" [] [], falseBranch, .mk "c" [] []] := by
  rw [Outline.ofText?, parse?_falseGuardText]
  cbv

/-- Whatever the state of the run, it enters the branch with the false guard. -/
theorem unguarded_iff_falseBranch :
    ofText falseGuardText = .ok falseGuardFlow ∧ falseGuardFlow.step? "f" = some falseBranchStep ∧
      ∀ hooks state, falseBranchStep.route hooks state = .towards "b" := by
  obtain ⟨⟨document, readable, compiled⟩, -⟩ := compile_eq_ok compile_falseGuardText
  have declared := ofText?_falseGuardText
  rw [Outline.ofText?, readable, Option.bind_some] at declared
  obtain ⟨outlines, declares, sites⟩ := unguarded_iff compiled
  obtain rfl := Option.some.inj (declares.symm.trans declared)
  have filed : falseGuardFlow.step? "f" = some falseBranchStep := by cbv
  obtain ⟨next, same, -, made⟩ := sites falseBranch (.tail _ (.head _)) falseBranchStep filed
  have site := made ⟨falseBranch.body, ["if", "condition"], "b"⟩
    (@Outline.HasSite.branch _ _ (.mk "b" [] []) rfl rfl)
  have taken := site.taken
  rw [site.lost (.bool false) rfl (.inl rfl)] at taken
  refine ⟨(compile_eq_ok_iff.1 compile_falseGuardText).1, filed, fun hooks state => ?_⟩
  refine taken rfl hooks state ⟨[], [.plain "c"], rfl, List.forall_mem_nil _, ?_⟩
  intro other member guarded
  obtain rfl := List.mem_singleton.1 member
  cases guarded

end Flow

namespace Engine

/-- **A run enters a branch under a false guard.**  The guard is written, and the edge into the
branch is an unguarded one; the output of the step before takes the run inside. -/
theorem taken_falseGuard :
    (Outline.ofText? Flow.falseGuardText = some [.mk "a" [] [], Flow.falseBranch, .mk "c" [] []] ∧
      Fields.get? Flow.falseBranch.body "if" = some (.bool false)) ∧
    (compile Flow.falseGuardText = .ok (Flow.falseGuardFlow, [⟨.deadEnd, some "c"⟩]) ∧
      Flow.falseGuardFlow.step? "f" = some Flow.falseBranchStep ∧
      Transition.plain "b" ∈ Flow.falseBranchStep.transitions) ∧
    ((new .empty {}).after [(⟨0⟩, .start Flow.falseGuardText []), (⟨0⟩, .submit [])]).current =
      .ok (some (.initial "unnamed flow" "b" [("a", .obj [])] ⟨0⟩)) := by
  refine ⟨⟨Flow.ofText?_falseGuardText, rfl⟩,
    ⟨Flow.compile_falseGuardText, ?_, List.mem_cons_self⟩, ?_⟩
  · cbv
  · rw [after_cons, execute_start (free_of_empty rfl) _ Flow.compile_falseGuardText]
    cbv

end Engine

end Runbook
