import Runbook.Proofs.Guard.Path

/-!
# Other texts at the same places

Where all the texts in a context are one text, an expression without a text of its own cannot tell
which text it is.  A comparison could see a difference between two texts only, and there are no two;
anything else that it sees of a value is its kind, its shape and its numbers.

So the value of such an expression is one value with the text filled in, whatever the text is.

## Main definitions

* `Json.reword`: a value with one text in place of every text in it
* `Guard.Expr.operands`: the operands of an expression

## Main statements

* `Guard.Comparison.holds_reword`: a comparison of two such values does not depend on the text
* `Guard.Expr.exists_value_reword`: nor does an expression without texts of its own
* `Guard.Expr.exists_piece`: the operands of a written expression are parts of it without signs
-/

namespace Runbook

namespace Json

variable (text : String)

mutual

/-- The value with the text in place of every text in it. -/
def reword : Json → Json
  | str _ => str text
  | arr items => arr (rewordItems items)
  | obj fields => obj (rewordFields fields)
  | value => value

/-- The items of a list with the text in place of every text in them. -/
def rewordItems : List Json → List Json
  | [] => []
  | item :: rest => reword item :: rewordItems rest

/-- The fields of an object with the text in place of every text in them. -/
def rewordFields : List (String × Json) → List (String × Json)
  | [] => []
  | (key, value) :: rest => (key, reword value) :: rewordFields rest

end

@[simp] theorem reword_bool (b : Bool) : reword text (bool b) = bool b := by simp [reword]

/-! ## Looking into a value -/

theorem rewordItems_eq_map (items : List Json) :
    rewordItems text items = items.map (reword text) := by
  induction items with
  | nil => rw [rewordItems, List.map_nil]
  | cons item rest ih => rw [rewordItems, List.map_cons, ih]

theorem get?_rewordFields (fields : Object) (key : String) :
    Fields.get? (rewordFields text fields) key = (fields.get? key).map (reword text) := by
  induction fields with
  | nil => rw [rewordFields]; rfl
  | cons field rest ih =>
    obtain ⟨name, value⟩ := field
    rw [rewordFields, Fields.get?_cons, Fields.get?_cons]
    split
    · rfl
    · exact ih

theorem obj?_reword (value : Json) :
    (value.reword text).obj? = value.obj?.map (rewordFields text) := by
  cases value <;> simp [reword, obj?]

theorem arr?_reword (value : Json) :
    (value.reword text).arr? = value.arr?.map (rewordItems text) := by
  cases value <;> simp [reword, arr?]

theorem number?_reword (value : Json) : (value.reword text).number? = value.number? := by
  cases value <;> simp [reword, number?]

/-! ## Comparing two values -/

mutual

/-- Which text the two values have does not matter for their equality. -/
theorem same_reword (text other : String) (a b : Json) :
    same (a.reword text) (b.reword text) = same (a.reword other) (b.reword other) := by
  cases a with
  | arr as =>
    cases b with
    | arr bs => simpa only [reword, same] using sameItems_reword text other as bs
    | _ => simp [reword, same]
  | obj as =>
    cases b with
    | obj bs => simpa only [reword, same] using sameFields_reword text other as bs
    | _ => simp [reword, same]
  | _ => cases b <;> simp [reword, same]

theorem sameItems_reword (text other : String) (as bs : List Json) :
    sameItems (rewordItems text as) (rewordItems text bs) =
      sameItems (rewordItems other as) (rewordItems other bs) := by
  match as, bs with
  | [], [] | [], _ :: _ | _ :: _, [] => simp [rewordItems, sameItems]
  | a :: as, b :: bs =>
    simp only [rewordItems, sameItems]
    rw [same_reword text other a b, sameItems_reword text other as bs]

theorem sameFields_reword (text other : String) (as bs : List (String × Json)) :
    sameFields (rewordFields text as) (rewordFields text bs) =
      sameFields (rewordFields other as) (rewordFields other bs) := by
  match as, bs with
  | [], [] | [], _ :: _ | _ :: _, [] => simp [rewordFields, sameFields]
  | (_, a) :: as, (_, b) :: bs =>
    simp only [rewordFields, sameFields]
    rw [same_reword text other a b, sameFields_reword text other as bs]

end

end Json

namespace Guard

/-- **Which text two values have** does not matter for a comparison of them. -/
theorem Comparison.holds_reword (op : Comparison) (text other : String) (a b : Json) :
    op.holds (a.reword text) (b.reword text) = op.holds (a.reword other) (b.reword other) := by
  have equal : equalValues (a.reword text) (b.reword text) =
      equalValues (a.reword other) (b.reword other) := by
    unfold equalValues
    simp only [Json.number?_reword]
    rw [Json.same_reword text other]
  have order : order? (a.reword text) (b.reword text) =
      order? (a.reword other) (b.reword other) := by
    have alike (t : String) : compareOfLessAndEq t t = .eq := by simp [compareOfLessAndEq]
    cases a <;> cases b <;> simp [Json.reword, order?, alike, Json.number?]
  unfold holds
  rw [equal, order]

/-! ## Walking down -/

theorem Segment.find?_reword (segment : Segment) (text : String) (fields : Json.Object) :
    segment.find? (Json.rewordFields text fields) =
      (segment.find? fields).map (Json.reword text) := by
  cases segment with
  | field key => exact Json.get?_rewordFields text fields key
  | item key place =>
    have steps (fields : Json.Object) : (item key place).find? fields =
        ((fields.get? key).bind Json.arr?).bind fun items => place.bind (items[·]?) := by
      rw [Option.bind_assoc]
      rfl
    rw [steps, steps, Json.get?_rewordFields]
    cases fields.get? key with
    | none => rfl
    | some value =>
      rw [Option.map_some, Option.bind_some, Option.bind_some, Json.arr?_reword]
      cases value.arr? with
      | none => rfl
      | some items =>
        cases place with
        | none => rfl
        | some place => simp [Json.rewordItems_eq_map]

/-- **A walk** leads to the same place, and to the value there with the text filled in. -/
theorem Address.walk?_reword (address : Address) (text : String) (value : Json) :
    address.walk? (value.reword text) = (address.walk? value).map (Json.reword text) := by
  induction address generalizing value with
  | nil => rfl
  | cons segment rest ih =>
    rw [walk?_cons, walk?_cons, Json.obj?_reword]
    cases value.obj? with
    | none => rfl
    | some fields =>
      rw [Option.map_some, Option.bind_some, Option.bind_some, segment.find?_reword]
      cases segment.find? fields with
      | none => rfl
      | some inner => exact ih inner

theorem Leads.reword {value inner : Json} {access : Access} (leads : Leads value access inner)
    (text : String) : Leads (value.reword text) access (inner.reword text) := by
  cases leads with
  | field found =>
    rw [Json.reword]
    exact .field (by rw [Json.get?_rewordFields, found]; rfl)
  | item found =>
    rw [Json.reword]
    exact .item (by rw [Json.rewordItems_eq_map, List.getElem?_map, found]; rfl)

theorem Reaches.reword {value target : Json} {accesses : List Access}
    (reaches : Reaches value accesses target) (text : String) :
    Reaches (value.reword text) accesses (target.reword text) := by
  induction reaches with
  | here value => exact .here _
  | step leads _ ih => exact .step (leads.reword text) ih

/-! ## Expressions -/

/-- An operand without a text of its own: its value does not change if texts are replaced. -/
def Operand.Wordless (operand : Operand) : Prop :=
  ∀ value text, operand = .literal value → value.reword text = value

/-- The value of an operand without a text of its own is one value with the text filled in. -/
theorem Operand.exists_value_reword {operand : Operand} (wordless : operand.Wordless)
    (context : Json.Object) :
    ∃ value : Json, ∀ text, operand.value (Json.rewordFields text context) = value.reword text := by
  cases operand with
  | literal value => exact ⟨value, fun text => (wordless value text rfl).symm⟩
  | address path =>
    refine ⟨(path.find? context).getD .null, fun text => ?_⟩
    have walk := path.walk?_reword text (.obj context)
    rw [Json.reword] at walk
    rw [Operand.value, Address.find?, walk, Address.find?]
    cases path.walk? (.obj context) <;> rfl

namespace Expr

/-- The operands of an expression. -/
def operands : Expr → List Operand
  | operand o => [o]
  | compare _ left right => left.operands ++ right.operands

/-- **The value of an expression without texts of its own** is one value with the text filled in. -/
theorem exists_value_reword {e : Expr} (each : ∀ o ∈ e.operands, o.Wordless)
    (context : Json.Object) :
    ∃ value : Json, ∀ text, e.value (Json.rewordFields text context) = value.reword text := by
  induction e with
  | operand o => exact Operand.exists_value_reword (each o (List.mem_singleton_self o)) context
  | compare op left right ihl ihr =>
    obtain ⟨a, left⟩ := ihl fun o member => each o (List.mem_append_left _ member)
    obtain ⟨b, right⟩ := ihr fun o member => each o (List.mem_append_right _ member)
    refine ⟨.bool (op.holds (a.reword "") (b.reword "")), fun text => ?_⟩
    rw [value_compare, left, right, op.holds_reword text "", Json.reword_bool]

/-- **The operands of a written expression** are parts of it in which no sign occurs. -/
theorem exists_piece {cs : List Char} {o : Operand} (member : o ∈ (ofChars cs).operands) :
    ∃ piece, piece <:+: cs ∧ Unsigned piece ∧ o = Operand.ofChars piece := by
  have stripped (cs : List Char) : Text.trim cs <:+: cs := by
    obtain ⟨front, back, -, -, parts⟩ := Text.exists_trim cs
    exact ⟨front, back, parts.symm⟩
  induction cs using ofChars.induct with
  | case1 cs op before after found ihl ihr =>
    have parts : Text.trim cs = before ++ op.sign ++ after := eq_of_findSign? found
    have left : before <:+: cs :=
      .trans ⟨[], op.sign ++ after, by rw [parts]; simp⟩ (stripped cs)
    have right : after <:+: cs :=
      .trans ⟨before ++ op.sign, [], by rw [parts]; simp⟩ (stripped cs)
    rw [ofChars_of_some found, operands, List.mem_append] at member
    rcases member with first | second
    · exact (ihl first).imp fun piece ⟨within, rest⟩ => ⟨within.trans left, rest⟩
    · exact (ihr second).imp fun piece ⟨within, rest⟩ => ⟨within.trans right, rest⟩
  | case2 cs none =>
    rw [ofChars_of_none none, operands, List.mem_singleton] at member
    exact ⟨Text.trim cs, stripped cs, findSign?_eq_none_iff.1 none, member⟩

end Expr

end Guard

end Runbook
