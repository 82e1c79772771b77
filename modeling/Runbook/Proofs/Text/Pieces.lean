import Mathlib.Data.List.DropRight
import Runbook.Text.Blank
import Runbook.Text.Search
import Runbook.Text.WordClass

/-!
# Pieces of a text

What is left of a text when its blanks are stripped, and where a mark cuts it.  Around a stretch
without blanks each side keeps the blanks that it has towards the stretch, and they are stripped
when the side is taken for itself.  Which characters may occur where is told by their classes: word
characters, digits and blanks.

## Main statements

* `Text.trim_around`: stripping a text that has a stretch without blanks strips its two sides
* `Text.trim_trimStart`, `Text.trim_trimEnd`: to strip one end first changes nothing
* `Text.cut?_eq_none_iff`: a mark that is no part of a text does not cut it
* `Text.cut?_of_first`: a mark cuts a text where it stands, if it does not begin earlier
* `Text.infix_append_cons`: a mark does not reach over a character that it does not have
* `Text.span_of_stops`: a run of one class ends where no character of the class follows
* `Text.splitOn_intercalate`: parts that are joined by a character are split by it
-/

namespace Runbook.Text

/-! ## Classes of characters -/

/-- A character of a class is none of those that are not in it. -/
theorem notMem_of_class {p : Char → Bool} {c : Char} {others : List Char} (inside : p c = true)
    (outside : others.any p = false) : c ∉ others := by
  intro member
  rw [List.any_eq_true.2 ⟨c, member, inside⟩] at outside
  cases outside

theorem lt_of_isDigit {c : Char} (digit : c.isDigit = true) : c.toNat < 0x80 := by
  simp only [Char.isDigit, Bool.and_eq_true, decide_eq_true_eq, UInt32.le_iff_toNat_le] at digit
  have upper : c.toNat ≤ 57 := digit.2
  omega

theorem isDigit_of_isDigit {c : Char} (digit : c.isDigit = true) : isDigit c = true := by
  rw [isDigit, if_pos (lt_of_isDigit digit), digit]

theorem isWordChar_of_isDigit {c : Char} (digit : c.isDigit = true) : isWordChar c = true := by
  rw [isWordChar, if_pos (lt_of_isDigit digit), Char.isAlphanum, digit, Bool.or_true, Bool.true_or]

/-- The code points of the blanks. -/
def blanks : List Nat :=
  [9, 10, 11, 12, 13, 0x20, 0x85, 0xa0, 0x1680, 0x2000, 0x2001, 0x2002, 0x2003, 0x2004, 0x2005,
    0x2006, 0x2007, 0x2008, 0x2009, 0x200a, 0x2028, 0x2029, 0x202f, 0x205f, 0x3000]

theorem mem_blanks {c : Char} (blank : isBlank c = true) : c.toNat ∈ blanks := by
  simp only [isBlank, Bool.or_eq_true, Bool.and_eq_true, decide_eq_true_eq, beq_iff_eq] at blank
  simp only [blanks, List.mem_cons, List.not_mem_nil, or_false]
  omega

/-- No word character is a blank. -/
theorem isBlank_of_isWordChar {c : Char} (word : isWordChar c = true) : isBlank c = false := by
  cases blank : isBlank c with
  | false => rfl
  | true =>
    have none : ∀ n ∈ blanks, isWordChar (Char.ofNat n) = false := by decide +kernel
    have same := none _ (mem_blanks blank)
    rw [Char.ofNat_toNat, word] at same
    cases same

/-! ## Stripping -/

/-- Nothing is left of blanks. -/
theorem trim_eq_nil {cs : List Char} (blank : ∀ c ∈ cs, isBlank c = true) : trim cs = [] := by
  rw [trim, trimStart, List.dropWhile_eq_nil_iff.2 blank]
  rfl

/-- Blanks are stripped from the front only up to the first other character. -/
theorem trimStart_append_cons {c : Char} (solid : isBlank c = false) (left right : List Char) :
    trimStart (left ++ c :: right) = trimStart left ++ c :: right := by
  induction left with
  | nil => rw [List.nil_append, trimStart, List.dropWhile_cons_of_neg (by simp [solid])]; rfl
  | cons first left ih =>
    rw [List.cons_append]
    cases blank : isBlank first with
    | true =>
      rw [trimStart, List.dropWhile_cons_of_pos blank]
      rw [trimStart, List.dropWhile_cons_of_pos blank]
      exact ih
    | false =>
      rw [trimStart, List.dropWhile_cons_of_neg (by simp [blank])]
      rw [trimStart, List.dropWhile_cons_of_neg (by simp [blank])]
      rfl

/-- Blanks are stripped from the end only down to the last other character. -/
theorem trimEnd_append_cons {c : Char} (solid : isBlank c = false) (left right : List Char) :
    trimEnd (left ++ c :: right) = left ++ c :: trimEnd right := by
  have mirrored := trimStart_append_cons solid right.reverse left.reverse
  rw [trimStart] at mirrored
  rw [trimEnd, List.reverse_append, List.reverse_cons, List.append_assoc, List.singleton_append,
    mirrored, List.reverse_append, List.reverse_cons, List.reverse_reverse, List.append_assoc,
    List.singleton_append]
  rfl

/-- **Stripping around a stretch without blanks** strips the front of what is before it and the end
of what is after it. -/
theorem trim_around {mark : List Char} (some : mark ≠ []) (solid : ∀ c ∈ mark, isBlank c = false)
    (left right : List Char) :
    trim (left ++ mark ++ right) = trimStart left ++ mark ++ trimEnd right := by
  have start : trimStart (left ++ mark ++ right) = trimStart left ++ mark ++ right := by
    obtain ⟨first, rest, rfl⟩ := List.exists_cons_of_ne_nil some
    rw [List.append_assoc, List.cons_append,
      trimStart_append_cons (solid first List.mem_cons_self), List.append_assoc, List.cons_append]
  rw [trim, start]
  obtain ⟨front, last, rfl⟩ := (List.eq_nil_or_concat' mark).resolve_left some
  have ends := trimEnd_append_cons (solid last (by simp)) (trimStart left ++ front) right
  simpa only [List.append_assoc, List.singleton_append] using ends

/-- Only blanks are stripped. -/
theorem mem_trim {c : Char} {cs : List Char} (solid : isBlank c = false) (member : c ∈ cs) :
    c ∈ trim cs := by
  obtain ⟨left, right, rfl⟩ := List.append_of_mem member
  rw [trim, trimStart_append_cons solid, trimEnd_append_cons solid]
  exact List.mem_append_right _ List.mem_cons_self

/-- Characters that are no blanks and are not left when a text is stripped are not in it. -/
theorem forall_notMem_of_trim {others cs : List Char} (solid : others.any isBlank = false)
    (absent : ∀ c ∈ trim cs, c ∉ others) : ∀ c ∈ cs, c ∉ others := by
  intro c member other
  have notBlank : isBlank c = false :=
    Bool.eq_false_iff.2 fun blank => notMem_of_class blank solid other
  exact absent c (mem_trim notBlank member) other

/-- What is stripped are blanks in front and blanks at the end. -/
theorem exists_trim (cs : List Char) :
    ∃ front back, (∀ c ∈ front, isBlank c = true) ∧ (∀ c ∈ back, isBlank c = true) ∧
      cs = front ++ trim cs ++ back := by
  refine ⟨cs.takeWhile isBlank, (trimStart cs).rtakeWhile isBlank, fun c => List.mem_takeWhile_imp,
    fun c => List.mem_rtakeWhile_imp, ?_⟩
  have ends : trim cs ++ (trimStart cs).rtakeWhile isBlank = trimStart cs :=
    List.rdropWhile_append_rtakeWhile
  rw [List.append_assoc, ends, trimStart, List.takeWhile_append_dropWhile]

/-- A text without blanks has none to be stripped. -/
theorem trim_of_solid {cs : List Char} (solid : ∀ c ∈ cs, isBlank c = false) : trim cs = cs := by
  rcases eq_or_ne cs [] with rfl | some
  · rfl
  · have around := trim_around some solid [] []
    rwa [List.append_nil, List.nil_append, show trimStart [] = [] from rfl,
      show trimEnd [] = [] from rfl, List.append_nil, List.nil_append] at around

/-- The two ends of a text may be stripped in any order. -/
theorem trimEnd_trimStart (cs : List Char) : trimEnd (trimStart cs) = trimStart (trimEnd cs) := by
  by_cases blank : ∀ c ∈ cs, isBlank c = true
  · have start : trimStart cs = [] := List.dropWhile_eq_nil_iff.2 blank
    have ends : trimEnd cs = [] := List.rdropWhile_eq_nil_iff.2 blank
    rw [start, ends]
    rfl
  · simp only [not_forall, Bool.not_eq_true] at blank
    obtain ⟨c, member, solid⟩ := blank
    obtain ⟨left, right, rfl⟩ := List.append_of_mem member
    rw [trimStart_append_cons solid, trimEnd_append_cons solid, trimEnd_append_cons solid,
      trimStart_append_cons solid]

theorem trim_trimStart (cs : List Char) : trim (trimStart cs) = trim cs := by
  rw [trim, trim, trimStart, trimStart, List.dropWhile_idempotent]

theorem trim_trimEnd (cs : List Char) : trim (trimEnd cs) = trim cs := by
  rw [trim, trim, ← trimEnd_trimStart]
  exact List.rdropWhile_idempotent isBlank (trimStart cs)

/-! ## Cutting -/

/-- A text is cut by exactly the marks that are parts of it. -/
theorem isSome_cut?_iff {mark cs : List Char} : (cut? mark cs).isSome = true ↔ mark <:+: cs := by
  refine ⟨fun found => ?_, fun part => ?_⟩
  · obtain ⟨⟨before, after⟩, cut⟩ := Option.isSome_iff_exists.1 found
    exact ⟨before, after, (eq_of_cut? cut).symm⟩
  · induction cs with
    | nil =>
      rw [List.infix_nil.1 part]
      rfl
    | cons c cs ih =>
      rw [cut?]
      split
      · rfl
      · rename_i apart
        rw [List.isPrefixOf_iff_prefix] at apart
        rw [Option.isSome_map]
        exact ih ((List.infix_cons_iff.1 part).resolve_left apart)

theorem cut?_eq_none_iff {mark cs : List Char} : cut? mark cs = none ↔ ¬ mark <:+: cs := by
  rw [← isSome_cut?_iff, Bool.not_eq_true, Option.isSome_eq_false_iff, Option.isNone_iff_eq_none]

/-- **A mark cuts a text where it stands**, if it is no part of what is before and all of itself but
its last character. -/
theorem cut?_of_first {mark before : List Char} (nonempty : mark ≠ [])
    (first : ¬ mark <:+: before ++ mark.dropLast) (after : List Char) :
    cut? mark (before ++ mark ++ after) = some (before, after) := by
  induction before with
  | nil =>
    obtain ⟨c, rest, rfl⟩ := List.exists_cons_of_ne_nil nonempty
    have starts : (c :: rest).isPrefixOf (c :: (rest ++ after)) = true := by
      rw [List.isPrefixOf_iff_prefix]
      exact List.prefix_append (c :: rest) after
    rw [List.nil_append, List.cons_append, cut?, if_pos starts, ← List.cons_append, List.drop_left]
  | cons c before ih =>
    have apart : ¬ mark.isPrefixOf (c :: (before ++ mark ++ after)) = true := by
      rw [List.isPrefixOf_iff_prefix]
      intro starts
      have whole : c :: (before ++ mark.dropLast) <+: c :: (before ++ mark ++ after) := by
        rw [List.append_assoc, List.cons_prefix_cons]
        refine ⟨rfl, (List.prefix_append_right_inj before).2 ?_⟩
        exact mark.dropLast_prefix.trans (List.prefix_append mark after)
      refine first (List.prefix_of_prefix_length_le starts whole ?_).isInfix
      have long := List.length_pos_iff.2 nonempty
      simp only [List.length_cons, List.length_append, List.length_dropLast]
      omega
    rw [List.cons_append, List.cons_append, cut?, if_neg apart,
      ih fun part => first (List.infix_cons part)]
    rfl

theorem prefix_append_cons {c : Char} {mark before after : List Char} (absent : c ∉ mark) :
    mark <+: before ++ c :: after ↔ mark <+: before := by
  refine ⟨fun starts => ?_, List.prefix_append_of_prefix⟩
  have whole : before ++ [c] <+: before ++ c :: after :=
    (List.prefix_append_right_inj before).2 (List.prefix_append [c] after)
  rcases List.prefix_or_prefix_of_prefix starts whole with short | long
  · refine (List.prefix_concat_iff.1 short).resolve_left fun same => absent ?_
    rw [same]
    simp
  · exact absurd (long.subset (by simp)) absent

/-- A mark that is a part of a text does not reach over a character that it does not have. -/
theorem infix_append_cons {c : Char} {mark before after : List Char} (absent : c ∉ mark) :
    mark <:+: before ++ c :: after ↔ mark <:+: before ∨ mark <:+: after := by
  induction before with
  | nil =>
    have starts : mark <+: [] ++ c :: after ↔ mark <+: [] := prefix_append_cons absent
    rw [List.nil_append] at starts
    rw [List.nil_append, List.infix_cons_iff, starts, List.prefix_nil, List.infix_nil]
  | cons first before ih =>
    rw [List.cons_append, List.infix_cons_iff, ← List.cons_append, prefix_append_cons absent, ih,
      List.infix_cons_iff, or_assoc]

/-- **What is behind a character that a mark does not have** matters only if the mark is a part of
it. -/
theorem cut?_append_cons {c : Char} {mark after : List Char} (absent : c ∉ mark)
    (apart : ¬ mark <:+: after) (before : List Char) :
    cut? mark (before ++ c :: after) =
      (cut? mark before).map fun (left, right) => (left, right ++ c :: after) := by
  have nonempty : mark ≠ [] := fun none => apart (none ▸ List.nil_infix)
  induction before with
  | nil =>
    have alone : ¬ mark <:+: [] := fun part => nonempty (List.infix_nil.1 part)
    have none : ¬ mark <:+: [] ++ c :: after := by
      rw [infix_append_cons absent]
      exact not_or.2 ⟨alone, apart⟩
    rw [cut?_eq_none_iff.2 none, cut?_eq_none_iff.2 alone]
    rfl
  | cons first before ih =>
    have starts : mark.isPrefixOf (first :: (before ++ c :: after)) =
        mark.isPrefixOf (first :: before) := by
      rw [Bool.eq_iff_iff, List.isPrefixOf_iff_prefix, List.isPrefixOf_iff_prefix,
        ← List.cons_append, prefix_append_cons absent]
    rw [List.cons_append, cut?, cut?, starts, ih]
    split
    · rename_i here
      have long := (List.isPrefixOf_iff_prefix.1 here).length_le
      rw [← List.cons_append, List.drop_append_of_le_length long]
      rfl
    · cases cut? mark before <;> rfl

/-- **A mark cuts a text where it stands**, if its first character does not occur before. -/
theorem cut?_around {first : Char} {mark before : List Char} (absent : first ∉ before)
    (after : List Char) :
    cut? (first :: mark) (before ++ (first :: mark) ++ after) = some (before, after) := by
  refine cut?_of_first (List.cons_ne_nil first mark) ?_ after
  rintro ⟨front, back, same⟩
  -- what is left of the mark is too short for all of it, so it would begin before
  have lengths := congrArg List.length same
  simp only [List.length_append, List.length_dropLast, List.length_cons] at lengths
  have within : front ++ [first] <+: before := by
    refine List.prefix_of_prefix_length_le ?_
      (List.prefix_append before (first :: mark).dropLast) ?_
    · rw [← same]
      exact ⟨mark ++ back, by simp⟩
    · rw [List.length_append, List.length_singleton]
      omega
  exact absent (within.subset (by simp))

/-- **A run of one class** ends where no character of the class follows. -/
theorem span_of_stops {p : Char → Bool} {run : List Char} (tail : List Char)
    (all : ∀ c ∈ run, p c = true) (stops : ∀ c ∈ tail.head?, p c = false) :
    (run ++ tail).takeWhile p = run ∧ (run ++ tail).dropWhile p = tail := by
  rw [List.takeWhile_append_of_pos all, List.dropWhile_append_of_pos all]
  cases tail with
  | nil => simp
  | cons c tail => simp [stops c rfl]

/-! ## Splitting and joining -/

theorem mem_intercalate {sep c : Char} {parts : List (List Char)}
    (member : c ∈ [sep].intercalate parts) : c = sep ∨ ∃ part ∈ parts, c ∈ part := by
  induction parts with
  | nil => cases member
  | cons part parts ih =>
    cases parts with
    | nil => exact .inr ⟨part, List.mem_cons_self, by simpa using member⟩
    | cons next parts =>
      rw [List.intercalate_cons_cons, List.append_assoc, List.mem_append, List.singleton_append,
        List.mem_cons] at member
      rcases member with here | rfl | later
      · exact .inr ⟨part, List.mem_cons_self, here⟩
      · exact .inl rfl
      · exact (ih later).imp_right fun ⟨part, listed, there⟩ =>
          ⟨part, List.mem_cons_of_mem _ listed, there⟩

theorem splitOn_eq (sep : Char) (cs : List Char) : splitOn sep cs = cs.splitOn sep := by
  induction cs with
  | nil => rfl
  | cons c cs ih =>
    rw [splitOn, ih, List.splitOn.eq_def sep (c :: cs), List.splitOnP_cons_eq_if_modifyHead,
      List.splitOn]
    simp only [beq_iff_eq]
    split
    · rfl
    · obtain ⟨part, parts, same⟩ :=
        List.exists_cons_of_ne_nil (List.splitOnP_ne_nil (· == sep) cs)
      rw [same]
      rfl

/-- The first part reaches up to the first character that splits. -/
theorem exists_splitOn_eq (sep : Char) (cs : List Char) :
    ∃ parts, splitOn sep cs = cs.takeWhile (· ≠ sep) :: parts := by
  induction cs with
  | nil => exact ⟨[], rfl⟩
  | cons c cs ih =>
    rw [splitOn]
    split
    · rename_i here
      exact ⟨splitOn sep cs, by rw [List.takeWhile_cons_of_neg (by simp [here])]⟩
    · rename_i other
      obtain ⟨parts, same⟩ := ih
      rw [same]
      exact ⟨parts, by rw [List.takeWhile_cons_of_pos (by simp [other])]⟩

/-- **Joined parts are split again**, if none of them has the character that joins them. -/
theorem splitOn_intercalate {sep : Char} {parts : List (List Char)} (some : parts ≠ [])
    (absent : ∀ part ∈ parts, sep ∉ part) : splitOn sep ([sep].intercalate parts) = parts := by
  rw [splitOn_eq, List.splitOn_intercalate sep absent some]

end Runbook.Text
