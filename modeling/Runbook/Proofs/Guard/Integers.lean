import Runbook.Proofs.Guard.Path
import Runbook.Proofs.Number.Order

/-!
# Comparing integers

Numbers are compared as doubles, also when both are integers.  A double has fifty three bits and an
integer may have sixty four, so two different integers can have the same double, and then they are
compared as if they were equal.  That is all that goes wrong: rounding keeps the order, so a
comparison of two integers with different doubles is the one of the integers.

## Main definitions

* `Guard.Comparison.relates`: what a comparison says about two elements of a linear order
* `Guard.KeptApart`: two integers that are equal only if their doubles are

## Main statements

* `Guard.Comparison.holds_int`: integers are compared by the values of their doubles
* `Guard.Comparison.relates_value_iff`: when that is the comparison of the integers
* `Guard.keptApart_of_small`, `Guard.keptApart_of_far`: integers that are compared exactly
* `Guard.evaluate_integers`: the comparisons of two paths to integers
* `Guard.equal_neighbours`: two different integers that are compared as equal
-/

namespace Runbook.Guard

namespace Comparison

/-- What a comparison says about two elements of a linear order. -/
def relates {α : Type} [LinearOrder α] (op : Comparison) (a b : α) : Bool :=
  match op with
  | identical | equal => decide (a = b)
  | notIdentical | notEqual => decide (a ≠ b)
  | atLeast => decide (b ≤ a)
  | atMost => decide (a ≤ b)
  | greater => decide (b < a)
  | less => decide (a < b)

/-- A comparison depends on the order of the two elements only. -/
theorem relates_eq {α : Type} [LinearOrder α] (op : Comparison) (a b : α) :
    op.relates a b =
      match op with
      | identical | equal => compare a b == .eq
      | notIdentical | notEqual => !(compare a b == .eq)
      | atLeast => compare a b == .gt || compare a b == .eq
      | atMost => compare a b == .lt || compare a b == .eq
      | greater => compare a b == .gt
      | less => compare a b == .lt := by
  rcases lt_trichotomy a b with less | rfl | more
  · rw [compare_lt_iff_lt.2 less]
    cases op <;> simp [relates, less, less.le, less.not_gt, less.not_ge, less.ne]
  · rw [compare_eq_iff_eq.2 rfl]
    cases op <;> simp [relates]
  · rw [compare_gt_iff_gt.2 more]
    cases op <;> simp [relates, more, more.le, more.not_gt, more.not_ge, more.ne']

/-- **Integers are compared by the values of their doubles.** -/
theorem holds_int (op : Comparison) (a b : ℤ) :
    op.holds (.int a) (.int b) = op.relates (Double.ofInt a).value (Double.ofInt b).value := by
  have order : order? (.int a) (.int b) =
      some (compare (Double.ofInt a).value (Double.ofInt b).value) :=
    congrArg some (Double.cmp_eq _ _)
  have equal : equalValues (.int a) (.int b) =
      (compare (Double.ofInt a).value (Double.ofInt b).value == .eq) :=
    congrArg (· == Ordering.eq) (Double.cmp_eq _ _)
  rw [relates_eq]
  unfold holds
  rw [order, equal]
  cases op <;> rfl

end Comparison

/-! ## Integers and their doubles -/

/-- The doubles of the two integers are equal only if the integers are. -/
def KeptApart (a b : ℤ) : Prop := a = b ∨ (Double.ofInt a).value ≠ (Double.ofInt b).value

/-- Doubles that tell two integers apart are in their order. -/
theorem KeptApart.compare_eq {a b : ℤ} (apart : KeptApart a b) :
    compare (Double.ofInt a).value (Double.ofInt b).value = compare a b := by
  rcases apart with rfl | apart
  · rw [compare_eq_iff_eq.2 rfl, compare_eq_iff_eq.2 rfl]
  · rcases lt_trichotomy a b with less | rfl | more
    · have less' := (Double.value_ofInt_mono less.le).lt_of_ne apart
      rw [compare_lt_iff_lt.2 less, compare_lt_iff_lt.2 less']
    · exact absurd rfl apart
    · have more' := (Double.value_ofInt_mono more.le).lt_of_ne apart.symm
      rw [compare_gt_iff_gt.2 more, compare_gt_iff_gt.2 more']

/-- **When doubles are compared as their integers are**: exactly if they tell the integers apart. -/
theorem Comparison.relates_value_iff {a b : ℤ} :
    (∀ op : Comparison,
      op.relates (Double.ofInt a).value (Double.ofInt b).value = op.relates a b) ↔
      KeptApart a b := by
  refine ⟨fun same => ?_, fun apart op => ?_⟩
  · have equal := same .equal
    simp only [relates, decide_eq_decide] at equal
    by_cases here : a = b
    · exact .inl here
    · exact .inr fun value => here (equal.1 value)
  · rw [relates_eq, relates_eq, apart.compare_eq]

/-- Two integers that are doubles are kept apart. -/
theorem keptApart_of_small {a b : ℤ} (small : a.natAbs ≤ 2 ^ 53) (small' : b.natAbs ≤ 2 ^ 53) :
    KeptApart a b := by
  rw [KeptApart, Double.value_ofInt_of_le small, Double.value_ofInt_of_le small', ne_eq,
    Int.cast_inj]
  exact em (a = b)

/-- Two integers of 64 bits that are far from each other are kept apart: each of them is rounded by
half of the greatest unit at most. -/
theorem keptApart_of_far {a b : ℤ} (range : a.natAbs < 2 ^ 64) (range' : b.natAbs < 2 ^ 64)
    (far : 2048 < |a - b|) : KeptApart a b := by
  refine .inr fun same => ?_
  have near := abs_le.1 (Double.abs_value_ofInt_sub_le range)
  have near' := abs_le.1 (Double.abs_value_ofInt_sub_le range')
  rw [same] at near
  have close : |(a : ℚ) - b| ≤ 2048 := abs_le.2 ⟨by linarith, by linarith⟩
  exact absurd far (not_lt.2 (by exact_mod_cast close))

/-- **The comparisons of two paths to integers** compare the doubles nearest to the integers.  They
all say of the integers what is true of them exactly if the integers are equal or their doubles
differ, so in any case if both are at most `2 ^ 53`, or if they have 64 bits and lie more than 2048
apart. -/
theorem evaluate_integers (left right : Path) (free : ¬ IsLiteral left.text)
    (free' : ¬ IsLiteral right.text) {before after : List Char}
    (written : Text.trim before = left.text) (written' : Text.trim after = right.text)
    {context : Json.Object} {a b : ℤ} (found : Reaches (.obj context) left.accesses (.int a))
    (found' : Reaches (.obj context) right.accesses (.int b)) :
    (∀ op : Comparison, evaluate (before ++ op.sign ++ after) context =
      .bool (op.relates (Double.ofInt a).value (Double.ofInt b).value)) ∧
    ((∀ op : Comparison, evaluate (before ++ op.sign ++ after) context =
      .bool (op.relates a b)) ↔ KeptApart a b) ∧
    (a.natAbs ≤ 2 ^ 53 ∧ b.natAbs ≤ 2 ^ 53 ∨
      a.natAbs < 2 ^ 64 ∧ b.natAbs < 2 ^ 64 ∧ 2048 < |a - b| → KeptApart a b) := by
  have value (op : Comparison) : evaluate (before ++ op.sign ++ after) context =
      .bool (op.relates (Double.ofInt a).value (Double.ofInt b).value) := by
    have sides := Expr.ofChars_around op (left.plain_of_trim written)
      (right.plain_of_trim written').behind
    have first : (Expr.ofChars before).value context = .int a :=
      left.evaluate_of_reaches free written found
    have second : (Expr.ofChars after).value context = .int b :=
      right.evaluate_of_reaches free' written' found'
    rw [evaluate, sides, Expr.value_compare, first, second, op.holds_int]
  refine ⟨value, ?_, ?_⟩
  · simp only [value, Json.bool.injEq]
    exact Comparison.relates_value_iff
  · rintro (⟨small, small'⟩ | ⟨range, range', far⟩)
    · exact keptApart_of_small small small'
    · exact keptApart_of_far range range' far

/-- A path to a field of the context. -/
def fieldPath (name : List Char) (word : IsRun Text.isWordChar name) : Path where
  first := .plain name word
  rest := []

/-- The greatest integer of 64 bits and the least one are compared exactly. -/
theorem evaluate_integers_extremes :
    let context : Json.Object :=
      [("hi", .int 18446744073709551615), ("lo", .int (-9223372036854775808))]
    let hi := fieldPath "hi".toList (by decide)
    let lo := fieldPath "lo".toList (by decide)
    (¬ IsLiteral hi.text ∧ ¬ IsLiteral lo.text) ∧
      (Text.trim "\thi ".toList = hi.text ∧ Text.trim " lo".toList = lo.text) ∧
      Reaches (.obj context) hi.accesses (.int 18446744073709551615) ∧
      Reaches (.obj context) lo.accesses (.int (-9223372036854775808)) ∧
      KeptApart 18446744073709551615 (-9223372036854775808) ∧
      evaluate "\thi <= lo".toList context = .bool false := by
  intro context hi lo
  have free : ¬ IsLiteral hi.text := hi.literal?_eq_none_iff.1 (by decide +kernel)
  have free' : ¬ IsLiteral lo.text := lo.literal?_eq_none_iff.1 (by decide +kernel)
  have written : Text.trim "\thi ".toList = hi.text := by decide
  have written' : Text.trim " lo".toList = lo.text := by decide
  have found : Reaches (.obj context) hi.accesses (.int 18446744073709551615) :=
    .step (.field rfl) (.here _)
  have found' : Reaches (.obj context) lo.accesses (.int (-9223372036854775808)) :=
    .step (.field rfl) (.here _)
  have laws := evaluate_integers hi lo free free' written written' found found'
  have apart := laws.2.2 (.inr (by decide))
  exact ⟨⟨free, free'⟩, ⟨written, written'⟩, found, found', apart, laws.2.1.2 apart .atMost⟩

/-- Two neighbours that have one double are compared as equal: the greater is neither greater nor
different. -/
theorem equal_neighbours :
    let context : Json.Object := [("a", .int 9007199254740993), ("b", .int 9007199254740992)]
    evaluate "a == b".toList context = .bool true ∧
      evaluate "a !== b".toList context = .bool false ∧
      evaluate "a > b".toList context = .bool false ∧
      evaluate "a <= b".toList context = .bool true := by
  decide +kernel

end Runbook.Guard
