import Runbook.Proofs.Guard.Reworded

/-!
# Quoted texts

A text in quotes is a literal, and the signs are looked for before the literals.  So a sign inside
the quotes cuts the text in two like any other, and neither half is a literal any more.

What such a comparison then says has nothing to do with the text that was quoted.  The quotes were
the only ones, so there is no text left in the expression, and an expression without a text of its
own answers the same whatever text the path holds.

## Main definitions

* `Guard.Quote`, `Guard.Quote.write`: quotes and the texts in them
* `Guard.Unquoted`: texts without quotes in them

## Main statements

* `Guard.Operand.quoted?_eq_some_iff`: what is read as a quoted text
* `Guard.Quote.eq_of_infix`: where one text is quoted no other one is
* `Guard.evaluate_quoted`: which quoted texts are read and compared as they are
* `Guard.signs_quoted`: quoted texts that are not
-/

namespace Runbook

namespace Guard

/-- The two kinds of quotes. -/
inductive Quote where
  | single
  | double
deriving DecidableEq

namespace Quote

/-- The characters of quotes. -/
def marks : List Char := ['\'', '"']

/-- The character of a quote. -/
def mark : Quote → Char
  | single => '\''
  | double => '"'

/-- A text in quotes. -/
def write (quote : Quote) (cs : List Char) : List Char := quote.mark :: (cs ++ [quote.mark])

end Quote

/-- A text without quotes in it. -/
def Unquoted (cs : List Char) : Prop := ∀ c ∈ cs, c ∉ Quote.marks

instance (cs : List Char) : Decidable (Unquoted cs) :=
  List.decidableBAll (· ∉ Quote.marks) cs

theorem unquoted_append_iff {before after : List Char} :
    Unquoted (before ++ after) ↔ Unquoted before ∧ Unquoted after := List.forall_mem_append

theorem unquoted_of_blank {cs : List Char} (blank : ∀ c ∈ cs, Text.isBlank c = true) :
    Unquoted cs := fun c member => Text.notMem_of_class (blank c member) (by decide)

namespace Quote

theorem mark_mem_marks (quote : Quote) : quote.mark ∈ marks := by cases quote <;> decide

theorem mark_notMem_marks (quote : Quote) : quote.mark ∉ Comparison.marks := by
  cases quote <;> decide

theorem isBlank_mark (quote : Quote) : Text.isBlank quote.mark = false := by
  cases quote <;> decide

/-- Quotes are not stripped. -/
theorem trim_write (quote : Quote) (cs : List Char) :
    Text.trim (quote.write cs) = quote.write cs := by
  have start := Text.trimStart_append_cons quote.isBlank_mark [] (cs ++ [quote.mark])
  have ends := Text.trimEnd_append_cons quote.isBlank_mark (quote.mark :: cs) []
  rw [Text.trim, write]
  exact (congrArg Text.trimEnd start).trans ends

/-- Quotes are no signs. -/
theorem unsigned_write_iff (quote : Quote) {cs : List Char} :
    Unsigned (quote.write cs) ↔ Unsigned cs := by
  have none : Unsigned [] := by decide
  have split : Unsigned ([] ++ quote.mark :: (cs ++ [quote.mark])) ↔
      Unsigned [] ∧ Unsigned (cs ++ [quote.mark]) :=
    unsigned_append_cons_iff quote.mark_notMem_marks
  rw [List.nil_append] at split
  rw [write, split, unsigned_append_cons_iff quote.mark_notMem_marks, and_iff_right none,
    and_iff_left none]

/-- A quoted text without signs may stand behind a sign, with blanks around it or without. -/
theorem behind_of_trim (quote : Quote) {cs text : List Char}
    (written : Text.trim text = quote.write cs) (unsigned : Unsigned cs) : Behind text := by
  obtain ⟨front, back, blank, blank', parts⟩ := Text.exists_trim text
  have plain {run : List Char} (blank : ∀ c ∈ run, Text.isBlank c = true) : Plain run :=
    .of_trim (by rw [Text.trim_eq_nil blank]; exact List.forall_mem_nil _)
  rw [written, write, List.append_assoc, List.cons_append, List.append_assoc,
    List.singleton_append] at parts
  refine ⟨?_, fun c first => ?_⟩
  · rw [parts, unsigned_append_cons_iff quote.mark_notMem_marks,
      unsigned_append_cons_iff quote.mark_notMem_marks]
    exact ⟨(plain blank).unsigned, unsigned, (plain blank').unsigned⟩
  · rw [parts] at first
    cases front with
    | nil =>
      obtain rfl := Option.some.inj first
      exact quote.mark_notMem_marks
    | cons c' front =>
      obtain rfl := Option.some.inj first
      exact plain blank c' List.mem_cons_self

/-- **Where one text is quoted no other one is**, if there are no other quotes. -/
theorem eq_of_infix {quote other : Quote} {before cs after inner : List Char}
    (free : Unquoted before) (free' : Unquoted cs) (free'' : Unquoted after)
    (within : other.write inner <:+: before ++ quote.write cs ++ after) : inner = cs := by
  obtain ⟨front, back, same⟩ := within
  -- the part has the two quotes of the whole, so there are none around or in between
  have quotes := congrArg (List.countP (· ∈ marks)) same
  have none {run : List Char} (free : Unquoted run) : run.countP (· ∈ marks) = 0 :=
    List.countP_eq_zero.2 fun c member => by simpa using free c member
  simp only [write, List.countP_append, List.countP_cons, List.countP_nil, mark_mem_marks,
    decide_true, if_true, none free, none free', none free''] at quotes
  have bare {run : List Char} (zero : run.countP (· ∈ marks) = 0) :
      ∀ c ∈ run, decide (c ∉ marks) = true :=
    fun c member => by simpa using List.countP_eq_zero.1 zero c member
  have stops (quote : Quote) (rest : List Char) :
      ∀ c ∈ (quote.mark :: rest).head?, decide (c ∉ marks) = false := by
    rintro c ⟨⟩
    simpa using quote.mark_mem_marks
  simp only [write, List.append_assoc, List.cons_append, List.nil_append] at same
  have opened := congrArg (List.dropWhile (· ∉ marks)) same
  rw [(Text.span_of_stops _ (bare (by omega)) (stops other _)).2,
    (Text.span_of_stops _ (bare (none free)) (stops quote _)).2] at opened
  have closed := congrArg (List.takeWhile (· ∉ marks)) (List.cons.inj opened).2
  rwa [(Text.span_of_stops _ (bare (by omega)) (stops other _)).1,
    (Text.span_of_stops _ (bare (none free')) (stops quote _)).1] at closed

end Quote

namespace Operand

/-- **What is read as a quoted text.** -/
theorem quoted?_eq_some_iff {mark : Char} {cs : List Char} {value : Json} :
    quoted? mark cs = some value ↔
      ∃ inner, cs = mark :: (inner ++ [mark]) ∧ value = .str (.ofList inner) := by
  refine ⟨fun read => ?_, ?_⟩
  · unfold quoted? at read
    split at read
    · rename_i first second rest
      obtain ⟨⟨rfl, last⟩, inside⟩ := Option.ite_none_right_eq_some.1 read
      obtain ⟨inner, same⟩ := List.getLast?_eq_some_iff.1 last
      rw [same, List.dropLast_concat] at inside
      exact ⟨inner, congrArg (_ :: ·) same, (Option.some.inj inside).symm⟩
    · cases read
  · rintro ⟨inner, rfl, rfl⟩
    obtain ⟨second, rest, same⟩ := List.exists_cons_of_ne_nil
      (List.append_ne_nil_of_right_ne_nil inner (List.cons_ne_nil mark []))
    rw [same, quoted?, ← same, if_pos ⟨rfl, List.getLast?_concat⟩, List.dropLast_concat]

/-- A quoted text is a literal. -/
theorem literal?_write (quote : Quote) (cs : List Char) :
    literal? (quote.write cs) = some (.str (.ofList cs)) := by
  have number : isNumeral (quote.write cs) = false := by cases quote <;> rfl
  have read : quoted? quote.mark (quote.write cs) = some (.str (.ofList cs)) :=
    quoted?_eq_some_iff.2 ⟨cs, rfl, rfl⟩
  rw [literal?, if_neg, if_neg, number, if_neg Bool.false_ne_true]
  · cases quote with
    | single =>
      have other : quoted? '"' (Quote.single.write cs) = none :=
        Option.eq_none_iff_forall_ne_some.2 fun value read => by
          obtain ⟨inner, same, -⟩ := quoted?_eq_some_iff.1 read
          exact absurd (List.cons.inj same).1 (by decide)
      rw [other]
      exact read
    | double => rw [show quoted? '"' (Quote.double.write cs) = _ from read]
  · cases quote <;> simp [Quote.write, Quote.mark]
  · cases quote <;> simp [Quote.write, Quote.mark]

/-- The value of a numeral is a number. -/
theorem number_of_numeral? {cs : List Char} {value : Json} (read : numeral? cs = some value) :
    (∃ n, value = .int n) ∨ ∃ x, value = .double x := by
  have double {d : Decimal} (read : d.toDouble?.map Json.double = some value) :
      ∃ x, value = .double x := by
    obtain ⟨x, -, same⟩ := Option.map_eq_some_iff.1 read
    exact ⟨x, same.symm⟩
  obtain ⟨d, -, read⟩ := Option.bind_eq_some_iff.1 read
  split at read
  · exact .inr (double read)
  · split at read
    · rename_i integer
      obtain ⟨-, same⟩ := Option.ite_none_right_eq_some.1 integer
      exact .inl ⟨_, (Option.some.inj (same.trans read)).symm⟩
    · exact .inr (double read)

/-- A literal is a quoted text, or it has no text in it. -/
theorem literal?_cases {cs : List Char} {value : Json} (read : literal? cs = some value) :
    (∃ quote inner, cs = Quote.write quote inner) ∨ ∀ text, value.reword text = value := by
  have quoted (quote : Quote) (read : quoted? quote.mark cs = some value) :
      ∃ quote inner, cs = Quote.write quote inner := by
    obtain ⟨inner, same, -⟩ := quoted?_eq_some_iff.1 read
    exact ⟨quote, inner, same⟩
  unfold literal? at read
  split at read
  · obtain rfl := Option.some.inj read
    exact .inr fun text => Json.reword_bool text true
  split at read
  · obtain rfl := Option.some.inj read
    exact .inr fun text => Json.reword_bool text false
  split at read
  · refine .inr fun text => ?_
    rcases number_of_numeral? read with ⟨n, rfl⟩ | ⟨x, rfl⟩ <;> simp [Json.reword]
  · split at read
    · rename_i found
      exact .inl (quoted .double (found.trans read))
    · exact .inl (quoted .single read)

/-- An operand that is not quoted has no text of its own. -/
theorem wordless_ofChars {cs : List Char} (bare : ∀ quote inner, cs ≠ Quote.write quote inner) :
    (ofChars cs).Wordless := by
  intro value text literal
  rw [ofChars] at literal
  split at literal
  · rename_i read
    obtain rfl := Operand.literal.inj literal
    rcases literal?_cases read with ⟨quote, inner, same⟩ | fixed
    · exact absurd same (bare quote inner)
    · exact fixed text
  · cases literal

end Operand

/-! ## What a quoted text says -/

/-- The value of a text with a sign in it is a truth value. -/
theorem exists_evaluate_eq_bool {cs : List Char} (signed : ¬ Unsigned (Text.trim cs))
    (context : Json.Object) : ∃ b, evaluate cs context = .bool b := by
  rw [evaluate]
  cases found : Expr.findSign? Comparison.all (Text.trim cs) with
  | none => exact absurd (Expr.findSign?_eq_none_iff.1 found) signed
  | some parts => exact ⟨_, by rw [Expr.ofChars_of_some found, Expr.value_compare]⟩

/-- A quoted text without signs is read as it is. -/
theorem evaluate_write (quote : Quote) {s : String} (unsigned : Unsigned s.toList)
    (context : Json.Object) : evaluate (quote.write s.toList) context = .str s := by
  have none : Expr.findSign? Comparison.all (Text.trim (quote.write s.toList)) = none := by
    rw [quote.trim_write, Expr.findSign?_eq_none_iff]
    exact quote.unsigned_write_iff.2 unsigned
  rw [evaluate, Expr.ofChars_of_none none, quote.trim_write, Operand.ofChars,
    Operand.literal?_write]
  exact congrArg Json.str String.ofList_toList

variable {path : Path} {quote : Quote} {s : String} {before after : List Char}

/-- A quoted text without signs is compared with the text that a path holds. -/
theorem evaluate_compare_write (free : ¬ IsLiteral path.text)
    (written : Text.trim before = path.text) (written' : Text.trim after = quote.write s.toList)
    (unsigned : Unsigned s.toList) {context : Json.Object} {t : String}
    (reaches : Reaches (.obj context) path.accesses (.str t)) :
    evaluate (before ++ Comparison.equal.sign ++ after) context = .bool (decide (t = s)) := by
  have left : (Expr.ofChars before).value context = .str t :=
    path.evaluate_of_reaches free written reaches
  have right : (Expr.ofChars after).value context = .str s := by
    rw [Expr.ofChars_congr (written'.trans (quote.trim_write s.toList).symm)]
    exact evaluate_write quote unsigned context
  rw [evaluate, Expr.ofChars_around .equal (path.plain_of_trim written)
    (quote.behind_of_trim written' unsigned), Expr.value_compare, left, right]
  rfl

/-! ### Signs inside quotes -/

/-- There are no quotes in a path, with blanks around it or without. -/
theorem unquoted_of_trim (written : Text.trim before = path.text) : Unquoted before :=
  Text.forall_notMem_of_trim (by decide) (written ▸ path.forall_notMem_text (by decide))

/-- If there is a sign in the only quoted text, then no operand is quoted. -/
theorem wordless_of_signed (free : Unquoted s.toList) (written : Text.trim before = path.text)
    (written' : Text.trim after = quote.write s.toList) (signed : ¬ Unsigned s.toList) :
    ∀ o ∈ (Expr.ofChars (before ++ Comparison.equal.sign ++ after)).operands, o.Wordless := by
  intro o member
  obtain ⟨piece, within, unsigned, rfl⟩ := Expr.exists_piece member
  refine Operand.wordless_ofChars fun other inner same => signed ?_
  obtain ⟨front, back, blank, blank', parts⟩ := Text.exists_trim after
  rw [written'] at parts
  rw [same, parts, ← List.append_assoc, ← List.append_assoc] at within
  have first : Unquoted (before ++ Comparison.equal.sign ++ front) := by
    rw [unquoted_append_iff, unquoted_append_iff]
    exact ⟨⟨unquoted_of_trim written, by decide⟩, unquoted_of_blank blank⟩
  have alone : inner = s.toList := Quote.eq_of_infix first free (unquoted_of_blank blank') within
  rw [same, other.unsigned_write_iff, alone] at unsigned
  exact unsigned

/-- **A comparison with a quoted text that has a sign in it** gives one answer for all texts that
the path may hold, so it is not the right one for each of them. -/
theorem unsigned_of_compare_write (free : Unquoted s.toList)
    (written : Text.trim before = path.text) (written' : Text.trim after = quote.write s.toList)
    (laws : ∀ context t, Reaches (.obj context) path.accesses (.str t) →
      (holds (before ++ Comparison.equal.sign ++ after) context = true ↔ t = s)) :
    Unsigned s.toList := by
  by_contra signed
  obtain ⟨context, reaches⟩ := path.exists_context (.str "")
  obtain ⟨value, filled⟩ :=
    Expr.exists_value_reword (wordless_of_signed free written written' signed) context
  have compares : ¬ Unsigned (Text.trim (before ++ Comparison.equal.sign ++ after)) := by
    rw [Text.trim_around (Comparison.sign_ne_nil _) fun c => Comparison.isBlank_of_mem_sign]
    exact fun unsigned => unsigned .equal (Comparison.mem_all _) (List.infix_append _ _ _)
  obtain ⟨b, rfl⟩ : ∃ b, value = .bool b := by
    obtain ⟨b, truth⟩ := exists_evaluate_eq_bool compares (Json.rewordFields s context)
    rw [evaluate, filled] at truth
    cases value with
    | bool b => exact ⟨b, rfl⟩
    | _ => simp [Json.reword] at truth
  have answer (t : String) : b = true ↔ t = s := by
    have there := reaches.reword t
    rw [Json.reword, Json.reword] at there
    rw [← laws _ t there, holds, evaluate, filled, Json.reword_bool, Json.truthy_bool]
  have same : "" = s := (answer "").1 ((answer s).2 rfl)
  exact signed (same ▸ by decide)

/-- **Which quoted texts are read and compared as they are**: those without a sign in them.  The
value of any other is a truth value, and a comparison of a path with it does not hold exactly for
the text that was quoted. -/
theorem evaluate_quoted (quote : Quote) {s : String} (free : Unquoted s.toList) :
    (∀ context, (evaluate (quote.write s.toList) context = .str s ↔ Unsigned s.toList) ∧
      (¬ Unsigned s.toList → ∃ b, evaluate (quote.write s.toList) context = .bool b)) ∧
    ∀ (path : Path) (before after : List Char), ¬ IsLiteral path.text →
      Text.trim before = path.text → Text.trim after = quote.write s.toList →
      ((∀ context t, Reaches (.obj context) path.accesses (.str t) →
        (holds (before ++ Comparison.equal.sign ++ after) context = true ↔ t = s)) ↔
          Unsigned s.toList) := by
  have truth (signed : ¬ Unsigned s.toList) (context : Json.Object) :
      ∃ b, evaluate (quote.write s.toList) context = .bool b :=
    exists_evaluate_eq_bool (by rwa [quote.trim_write, quote.unsigned_write_iff]) context
  refine ⟨fun context => ⟨⟨fun read => ?_, fun unsigned => evaluate_write quote unsigned context⟩,
    fun signed => truth signed context⟩, fun path before after literal written written' =>
    ⟨unsigned_of_compare_write free written written', fun unsigned context t reaches => ?_⟩⟩
  · by_contra signed
    obtain ⟨b, other⟩ := truth signed context
    rw [other] at read
    cases read
  · rw [holds, evaluate_compare_write literal written written' unsigned reaches, Json.truthy_bool,
      decide_eq_true_iff]

/-- An item of a list in a field. -/
def tagPath : Path where
  first := .plain "p".toList (by decide)
  rest :=
    [{ name := "tags".toList
       digits := some ['2']
       word := by decide
       number := by decide }]

/-- A text with characters of signs, blanks and braces in it, between double quotes. -/
theorem evaluate_quoted_assignment :
    let s := " a = b! \x7b1\x7d "
    let text := "p.tags[2] ==\t\" a = b! \x7b1\x7d \"".toList
    Unquoted s.toList ∧ ¬ IsLiteral tagPath.text ∧
      Text.trim "p.tags[2] ".toList = tagPath.text ∧
      Text.trim "\t\" a = b! \x7b1\x7d \"".toList = Quote.double.write s.toList ∧
      evaluate (Quote.single.write s.toList) [] = .str s ∧
      (∀ context t, Reaches (.obj context) tagPath.accesses (.str t) →
        (holds text context = true ↔ t = s)) := by
  intro s text
  have free : Unquoted s.toList := by decide
  have literal : ¬ IsLiteral tagPath.text := tagPath.literal?_eq_none_iff.1 (by decide +kernel)
  have written : Text.trim "p.tags[2] ".toList = tagPath.text := by decide
  have written' : Text.trim "\t\" a = b! \x7b1\x7d \"".toList = Quote.double.write s.toList := by
    decide
  have unsigned : Unsigned s.toList := by decide
  exact ⟨free, literal, written, written', ((evaluate_quoted .single free).1 []).1.2 unsigned,
    ((evaluate_quoted .double free).2 tagPath _ _ literal written written').2 unsigned⟩

/-- Quoted texts with a sign in them: one is a truth value, and a path is compared with two others
as if it held the one, which it does not, and did not hold the other, which it does. -/
theorem signs_quoted :
    evaluate "'a==b'".toList [] = .bool true ∧
      evaluate "\"a<b\"".toList [] = .bool false ∧
      holds "p == 'a!==b'".toList [("p", .str "c")] = true ∧
      holds "p == 'a<b'".toList [("p", .str "a<b")] = false := by
  decide +kernel

end Guard

end Runbook
