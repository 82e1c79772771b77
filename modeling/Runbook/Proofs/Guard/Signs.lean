import Runbook.Guard.Expr
import Runbook.Proofs.Text.Pieces

/-!
# Comparison signs

The signs are looked for one after the other, and some of them occur inside others: `===` has `==`
in it, and `>=` has `>`.  A sign is found where it is written, between two texts that have none of
the four characters of signs, for two reasons.

* What occurs in the whole text occurs in its sign characters alone, and these are the written sign.
  So another sign that occurs is a part of it.
* A sign that is looked for earlier is never a part of a later one.

The text behind the sign may even have such characters, if no sign occurs in it and it does not
begin with one of them: what a sign would have to reach over is not part of any sign.

The text is stripped before it is cut, and so is each side once more.  The first stripping takes
from the sides only what the second one takes as well.

## Main definitions

* `Guard.Plain`: texts without the characters of signs
* `Guard.Unsigned`: texts in which no sign occurs
* `Guard.Behind`: texts that may stand behind a sign

## Main statements

* `Guard.Expr.findSign?_eq_none_iff`: no sign is found exactly if none occurs
* `Guard.Expr.findSign?_around`: the sign is found where it is written
* `Guard.evaluate_comparison`: a written comparison compares the values of its sides
-/

namespace Runbook.Guard

/-! ## The characters of signs -/

/-- The characters of the comparison signs. -/
def Comparison.marks : List Char := ['=', '!', '<', '>']

/-- A text without the characters of signs. -/
def Plain (cs : List Char) : Prop := ∀ c ∈ cs, c ∉ Comparison.marks

instance (cs : List Char) : Decidable (Plain cs) :=
  List.decidableBAll (· ∉ Comparison.marks) cs

/-- Blanks around a text have no characters of signs. -/
theorem Plain.of_trim {cs : List Char} (plain : Plain (Text.trim cs)) : Plain cs :=
  Text.forall_notMem_of_trim (by decide) plain

/-- A text in which no sign occurs. -/
def Unsigned (cs : List Char) : Prop := ∀ op ∈ Comparison.all, ¬ op.sign <:+: cs

theorem any_occurs_eq_false_iff {cs : List Char} :
    Comparison.all.any (fun op => Text.occurs op.sign cs) = false ↔ Unsigned cs := by
  simp only [List.any_eq_false, Text.occurs, Text.isSome_cut?_iff, Unsigned]

instance (cs : List Char) : Decidable (Unsigned cs) :=
  decidable_of_iff _ any_occurs_eq_false_iff

/-- A text that may stand behind a sign: no sign occurs in it, and the sign ends where it begins. -/
structure Behind (cs : List Char) : Prop where
  /-- No sign occurs in the text. -/
  unsigned : Unsigned cs
  /-- The first character is none of signs. -/
  begins : ∀ c ∈ cs.head?, c ∉ Comparison.marks

namespace Comparison

theorem mem_all (op : Comparison) : op ∈ all := by cases op <;> decide

theorem mem_marks {op : Comparison} {c : Char} (member : c ∈ op.sign) : c ∈ marks := by
  have all : op.sign.all marks.contains = true := by cases op <;> rfl
  exact List.contains_iff_mem.1 (List.all_eq_true.1 all c member)

/-- A sign starts with a character of signs. -/
theorem exists_sign_eq (op : Comparison) :
    ∃ first rest, op.sign = first :: rest ∧ first ∈ marks := by
  obtain ⟨first, rest, same⟩ := List.exists_cons_of_ne_nil op.sign_ne_nil
  have member : first ∈ op.sign := same ▸ List.mem_cons_self
  exact ⟨first, rest, same, mem_marks member⟩

/-- No character of a sign is stripped. -/
theorem isBlank_of_mem_sign {op : Comparison} {c : Char} (member : c ∈ op.sign) :
    Text.isBlank c = false :=
  Bool.eq_false_iff.2 fun blank => Text.notMem_of_class blank (by decide) (mem_marks member)

/-- The signs before this one are no parts of it. -/
theorem exists_all_eq (op : Comparison) :
    ∃ earlier later, all = earlier ++ op :: later ∧
      ∀ other ∈ earlier, ¬ other.sign <:+: op.sign := by
  refine ⟨all.takeWhile (· ≠ op), (all.dropWhile (· ≠ op)).tail, ?_, ?_⟩
  · cases op <;> rfl
  · cases op <;> decide

end Comparison

theorem Unsigned.of_infix {cs part : List Char} (unsigned : Unsigned cs) (within : part <:+: cs) :
    Unsigned part := fun op listed occurs => unsigned op listed (occurs.trans within)

/-- No sign reaches over a character that signs do not have. -/
theorem unsigned_append_cons_iff {c : Char} (other : c ∉ Comparison.marks)
    {before after : List Char} :
    Unsigned (before ++ c :: after) ↔ Unsigned before ∧ Unsigned after := by
  have split (op : Comparison) : op.sign <:+: before ++ c :: after ↔
      op.sign <:+: before ∨ op.sign <:+: after :=
    Text.infix_append_cons fun member => other (Comparison.mem_marks member)
  simp only [Unsigned, split, not_or, ← forall_and]

theorem Plain.unsigned {cs : List Char} (plain : Plain cs) : Unsigned cs := by
  intro op _ occurs
  obtain ⟨first, rest, sign, mark⟩ := op.exists_sign_eq
  exact plain first (occurs.subset (by rw [sign]; exact List.mem_cons_self)) mark

theorem Plain.behind {cs : List Char} (plain : Plain cs) : Behind cs where
  unsigned := plain.unsigned
  begins c first := plain c (List.mem_of_mem_head? first)

/-- What begins like a text that may stand behind a sign may stand there. -/
theorem Behind.of_prefix {cs part : List Char} (behind : Behind cs) (starts : part <+: cs) :
    Behind part where
  unsigned := behind.unsigned.of_infix starts.isInfix
  begins c first := by
    obtain ⟨rest, rfl⟩ := starts
    exact behind.begins c (by rw [List.head?_append, Option.mem_def.1 first]; rfl)

/-! ## Looking for a sign -/

namespace Expr

/-- A sign that occurs in a text that ends with a sign, and has no further characters of signs, is a
part of that sign. -/
theorem infix_of_append {op other : Comparison} {left : List Char} (plain : Plain left)
    (occurs : other.sign <:+: left ++ op.sign) : other.sign <:+: op.sign := by
  have none : left.filter (· ∈ Comparison.marks) = [] :=
    List.filter_eq_nil_iff.2 fun c member => by simpa using plain c member
  have all (op : Comparison) : op.sign.filter (· ∈ Comparison.marks) = op.sign :=
    List.filter_eq_self.2 fun c member => by simpa using Comparison.mem_marks member
  have marks := occurs.filter (· ∈ Comparison.marks)
  rwa [List.filter_append, none, all, all, List.nil_append] at marks

/-- **No sign is found** exactly if none of them occurs. -/
theorem findSign?_eq_none_iff {ops : List Comparison} {cs : List Char} :
    findSign? ops cs = none ↔ ∀ op ∈ ops, ¬ op.sign <:+: cs := by
  induction ops with
  | nil => simp [findSign?]
  | cons op ops ih =>
    rw [findSign?, List.forall_mem_cons, ← ih, ← Text.cut?_eq_none_iff]
    cases Text.cut? op.sign cs <;> simp

theorem findSign?_append {earlier : List Comparison} (later : List Comparison) {cs : List Char}
    (absent : ∀ other ∈ earlier, Text.cut? other.sign cs = none) :
    findSign? (earlier ++ later) cs = findSign? later cs := by
  induction earlier with
  | nil => rfl
  | cons other earlier ih =>
    rw [List.cons_append, findSign?, absent other List.mem_cons_self]
    exact ih fun later member => absent later (List.mem_cons_of_mem _ member)

/-- A sign that is found gives back the text: what is before, the sign, and what is after. -/
theorem eq_of_findSign? {ops : List Comparison} {cs before after : List Char} {op : Comparison}
    (found : findSign? ops cs = some (op, before, after)) : cs = before ++ op.sign ++ after := by
  induction ops with
  | nil => cases found
  | cons first rest ih =>
    rw [findSign?] at found
    split at found
    · rename_i cut
      obtain ⟨rfl, rfl, rfl⟩ : first = op ∧ _ = before ∧ _ = after := by simpa using found
      exact Text.eq_of_cut? cut
    · exact ih found

/-- What is behind a character that signs do not have matters only if there are signs in it. -/
theorem findSign?_append_cons {c : Char} (other : c ∉ Comparison.marks) {after : List Char}
    (unsigned : Unsigned after) (before : List Char) (ops : List Comparison) :
    findSign? ops (before ++ c :: after) =
      (findSign? ops before).map fun (op, left, right) => (op, left, right ++ c :: after) := by
  induction ops with
  | nil => rfl
  | cons op ops ih =>
    have absent : c ∉ op.sign := fun member => other (Comparison.mem_marks member)
    rw [findSign?, findSign?, ih,
      Text.cut?_append_cons absent (unsigned op op.mem_all) before]
    cases Text.cut? op.sign before <;> rfl

/-- **The sign is found where it is written.** -/
theorem findSign?_around (op : Comparison) {left right : List Char} (plain : Plain left)
    (behind : Behind right) :
    findSign? Comparison.all (left ++ op.sign ++ right) = some (op, left, right) := by
  have alone : findSign? Comparison.all (left ++ op.sign) = some (op, left, []) := by
    obtain ⟨earlier, later, order, apart⟩ := op.exists_all_eq
    obtain ⟨first, rest, sign, mark⟩ := op.exists_sign_eq
    have cut : Text.cut? (first :: rest) (left ++ (first :: rest) ++ []) = some (left, []) :=
      Text.cut?_around (fun member => plain first member mark) []
    rw [List.append_nil, ← sign] at cut
    rw [order, findSign?_append _ fun other member =>
      Text.cut?_eq_none_iff.2 fun occurs => apart other member (infix_of_append plain occurs),
      findSign?, cut]
  cases right with
  | nil => rw [List.append_nil, alone]
  | cons c after =>
    have unsigned : Unsigned after := behind.unsigned.of_infix (List.suffix_cons c after).isInfix
    rw [findSign?_append_cons (behind.begins c rfl) unsigned, alone]
    rfl

/-! ## Written expressions -/

/-- A text that a sign cuts is a comparison of its two sides. -/
theorem ofChars_of_some {cs before after : List Char} {op : Comparison}
    (found : findSign? Comparison.all (Text.trim cs) = some (op, before, after)) :
    ofChars cs = .compare op (ofChars before) (ofChars after) := by
  rw [ofChars]
  split
  · rename_i other before' after' cut
    rw [found] at cut
    cases cut
    rfl
  · rename_i none
    rw [found] at none
    cases none

/-- A text that no sign cuts is an operand. -/
theorem ofChars_of_none {cs : List Char}
    (none : findSign? Comparison.all (Text.trim cs) = none) :
    ofChars cs = .operand (Operand.ofChars (Text.trim cs)) := by
  rw [ofChars]
  split
  · rename_i cut
    rw [none] at cut
    cases cut
  · rfl

/-- What is stripped makes no difference. -/
theorem ofChars_congr {cs ds : List Char} (same : Text.trim cs = Text.trim ds) :
    ofChars cs = ofChars ds := by
  cases found : findSign? Comparison.all (Text.trim cs) with
  | none =>
    rw [ofChars_of_none found, same]
    rw [same] at found
    rw [ofChars_of_none found]
  | some parts =>
    rw [ofChars_of_some found]
    rw [same] at found
    rw [ofChars_of_some found]

/-- The two sides of a written sign are stripped on the outside. -/
theorem findSign?_trim (op : Comparison) {left right : List Char} (plain : Plain left)
    (behind : Behind right) :
    findSign? Comparison.all (Text.trim (left ++ op.sign ++ right)) =
      some (op, Text.trimStart left, Text.trimEnd right) := by
  rw [Text.trim_around op.sign_ne_nil fun c => Comparison.isBlank_of_mem_sign]
  refine findSign?_around op (fun c member => plain c ?_) (behind.of_prefix ?_)
  · exact (List.dropWhile_sublist _).mem member
  · exact List.rdropWhile_prefix _ right

/-- A sign compares the two texts around it. -/
theorem ofChars_around (op : Comparison) {left right : List Char} (plain : Plain left)
    (behind : Behind right) :
    ofChars (left ++ op.sign ++ right) = .compare op (ofChars left) (ofChars right) := by
  rw [ofChars_of_some (findSign?_trim op plain behind), ofChars_congr (Text.trim_trimStart left),
    ofChars_congr (Text.trim_trimEnd right)]

end Expr

/-- **A written comparison** of two texts without the characters of signs is found by its sign, at
its place, and compares the values of the two texts. -/
theorem evaluate_comparison (op : Comparison) {left right : List Char} (plain : Plain left)
    (plain' : Plain right) (context : Json.Object) :
    Expr.findSign? Comparison.all (Text.trim (left ++ op.sign ++ right)) =
      some (op, Text.trimStart left, Text.trimEnd right) ∧
    evaluate (left ++ op.sign ++ right) context =
      .bool (op.holds (evaluate left context) (evaluate right context)) := by
  refine ⟨Expr.findSign?_trim op plain plain'.behind, ?_⟩
  rw [evaluate, Expr.ofChars_around op plain plain'.behind, Expr.value_compare]
  rfl

/-- The sign between two padded texts is found although a shorter sign stands at the same place, and
an item of a list is the number on the other side. -/
theorem evaluate_comparison_padded :
    (Plain "  order.prices[1]\t".toList ∧ Plain "\u3000 11.0\n".toList) ∧
      "  order.prices[1]\t===\u3000 11.0\n".toList =
        "  order.prices[1]\t".toList ++ Comparison.identical.sign ++ "\u3000 11.0\n".toList ∧
      evaluate "  order.prices[1]\t===\u3000 11.0\n".toList
        [("order", .obj [("prices", .arr [.int 7, .int 11])])] = .bool true := by
  have plain : Plain "  order.prices[1]\t".toList := by decide
  have plain' : Plain "\u3000 11.0\n".toList := by decide
  refine ⟨⟨plain, plain'⟩, rfl, ((evaluate_comparison .identical plain plain' _).2).trans ?_⟩
  decide +kernel

end Runbook.Guard
