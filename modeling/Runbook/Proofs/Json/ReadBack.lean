import Runbook.Proofs.Json.Numeral

/-!
# Reading back what was written

A run lives in the store as text, and each operation on it begins by reading that text.  This module
says what the reader makes of the compact text of a value.  Everything comes back as it was except
numbers, for which the reader has a mind of its own: an integer beyond 64 bits comes back as a
double, and a double may come back as its neighbour.  And nothing comes back of a value that is
nested too deep.

## Main definitions

* `Json.reread?`: what is read from the text of a value, computed on the value
* `Json.Delimited`: the texts that may follow a value

## Main statements

* `Json.quoted?_escape`: a quoted text comes back as it was
* `Json.number_append`: a number ends where something else begins
* `Json.value?_write`: the reader and `Json.reread?` agree
* `Json.scan?_compress`: the same of a whole text

## Design notes

The reader is followed once, in the mutual induction of `Json.value?_write`.  Whatever else is said
about stored values is said of `Json.reread?`, which recurses on the value and knows nothing about
characters or fuel.
-/

namespace Runbook.Json

/-! ## Quoted texts -/

theorem hexValue?_hexDigit {n : Nat} (small : n < 16) : hexValue? (hexDigit n) = some n := by
  have all : ∀ n < 16, hexValue? (hexDigit n) = some n := by decide
  exact all n small

/-- A control character is written by its code unit. -/
theorem codeUnit?_control {c : Char} (control : c.toNat < 0x20) (rest : List Char) :
    codeUnit? ('0' :: '0' :: hexDigit (c.toNat / 16) :: hexDigit (c.toNat % 16) :: rest) =
      some (c, rest) := by
  have high := hexValue?_hexDigit (n := c.toNat / 16) (by omega)
  have low := hexValue?_hexDigit (n := c.toNat % 16) (by omega)
  have zero : hexValue? '0' = some 0 := by decide
  have whole : ((0 * 16 + 0) * 16 + c.toNat / 16) * 16 + c.toNat % 16 = c.toNat := by omega
  have plain : ¬ (0xD800 ≤ c.toNat ∧ c.toNat < 0xDC00) := by omega
  have plain' : ¬ (0xDC00 ≤ c.toNat ∧ c.toNat < 0xE000) := by omega
  simp only [codeUnit?, fourHex?, zero, high, low, bind, Option.bind, whole, plain, plain',
    if_false, Char.ofNat_toNat]

/-- One written character is read as that character. -/
theorem quoted?_escape_append (fuel : Nat) (done : List Char) (c : Char) (rest : List Char) :
    quoted? (fuel + 1) done (escape c ++ rest) = quoted? fuel (c :: done) rest := by
  unfold escape
  split
  · subst_vars
    rfl
  split
  · subst_vars
    rfl
  split
  · subst_vars
    rfl
  split
  · subst_vars
    rfl
  split
  · subst_vars
    rfl
  split
  · rename_i code
    obtain rfl : c = Char.ofNat 8 := by rw [← code, Char.ofNat_toNat]
    rfl
  split
  · rename_i code
    obtain rfl : c = Char.ofNat 12 := by rw [← code, Char.ofNat_toNat]
    rfl
  split
  · -- the control characters that have no letter of their own are written as numbers
    rename_i control
    show (codeUnit? ('0' :: '0' :: hexDigit (c.toNat / 16) :: hexDigit (c.toNat % 16) ::
      rest)).bind _ = _
    rw [codeUnit?_control control]
    rfl
  · rename_i quote backslash _ _ _ _ _ printed
    have stands : ¬ (c.toNat < 0x20 ∨ c = '\\') := not_or.2 ⟨printed, backslash⟩
    rw [List.cons_append, List.nil_append, quoted?]
    · rw [if_neg stands]
    all_goals simp_all

/-- **A quoted text comes back as it was.** -/
theorem quoted?_escape (cs : List Char) {fuel : Nat} (enough : cs.length < fuel)
    (done rest : List Char) :
    quoted? fuel done (cs.flatMap escape ++ '"' :: rest) =
      some (String.ofList (done.reverse ++ cs), rest) := by
  induction cs generalizing fuel done with
  | nil =>
    obtain ⟨fuel, rfl⟩ := Nat.exists_eq_add_one_of_ne_zero (Nat.ne_of_gt enough)
    simp [quoted?]
  | cons c cs ih =>
    obtain ⟨fuel, rfl⟩ := Nat.exists_eq_add_one_of_ne_zero (Nat.ne_of_gt (Nat.zero_lt_of_lt enough))
    rw [List.flatMap_cons, List.append_assoc, quoted?_escape_append, ih (by simpa using enough)]
    simp

theorem length_le_length_flatMap_escape (cs : List Char) :
    cs.length ≤ (cs.flatMap escape).length := by
  induction cs with
  | nil => exact Nat.le_refl 0
  | cons c cs ih =>
    have long : 1 ≤ (escape c).length := by
      unfold escape
      repeat' split
      all_goals simp
    rw [List.flatMap_cons, List.length_append, List.length_cons]
    omega

/-- The reader of quoted texts, given as much fuel as there are characters. -/
theorem quoted?_quote (s : String) (rest : List Char) :
    quoted? ((s.toList.flatMap escape ++ '"' :: rest).length + 1) []
      (s.toList.flatMap escape ++ '"' :: rest) = some (s, rest) := by
  have long := length_le_length_flatMap_escape s.toList
  rw [quoted?_escape s.toList (by simp only [List.length_append]; omega)]
  simp

/-! ## Values -/

mutual

/-- The value that is read from the compact text of a value, as long as `depth` containers may
open. -/
def reread? (depth : Nat) : Json → Option Json
  | int n => numeral? (writeInt n)
  | double x => numeral? (x.write .compact)
  | arr items => if depth = 0 then none else (rereadItems? (depth - 1) items).map arr
  | obj fields => if depth = 0 then none else (rereadFields? (depth - 1) fields).map obj
  | value => some value

/-- The items that are read from the text of a list. -/
def rereadItems? (depth : Nat) : List Json → Option (List Json)
  | [] => some []
  | item :: rest =>
    (reread? depth item).bind fun item => (rereadItems? depth rest).map (item :: ·)

/-- The fields that are read from the text of an object. -/
def rereadFields? (depth : Nat) : List (String × Json) → Option (List (String × Json))
  | [] => some []
  | (key, value) :: rest =>
    (reread? depth value).bind fun value => (rereadFields? depth rest).map ((key, value) :: ·)

end

theorem skipSpace_cons {c : Char} (solid : isSpace c = false) (rest : List Char) :
    skipSpace (c :: rest) = c :: rest := by
  simp [skipSpace, solid]

/-- The text of a value begins with neither a blank nor a closing bracket. -/
theorem write_head (value : Json) :
    ∃ c more, write value = c :: more ∧ isSpace c = false ∧ c ≠ ']' := by
  have number {cs : List Char} (numeral : Numeral cs) :
      ∃ c more, cs = c :: more ∧ isSpace c = false ∧ c ≠ ']' := by
    rcases numeral with magnitude | ⟨rest, -, rfl⟩
    · obtain ⟨c, more, rfl, digit⟩ := magnitude.head
      refine ⟨c, more, rfl, ?_, ?_⟩
      · simp only [isSpace, Bool.or_eq_false_iff, beq_eq_false_iff_ne]
        refine ⟨⟨⟨?_, ?_⟩, ?_⟩, ?_⟩
        all_goals
          rintro rfl
          simp at digit
      · rintro rfl
        simp at digit
    · exact ⟨'-', rest, rfl, by decide, by decide⟩
  cases value with
  | null => exact ⟨_, _, rfl, by decide, by decide⟩
  | bool b => cases b <;> exact ⟨_, _, rfl, by decide, by decide⟩
  | int n => exact number (numeral_writeInt n)
  | double x => exact number (numeral_write _ x)
  | str s => exact ⟨_, _, rfl, by decide, by decide⟩
  | arr items => exact ⟨_, _, rfl, by decide, by decide⟩
  | obj fields => exact ⟨_, _, rfl, by decide, by decide⟩

theorem writeItems_cons_cons (item second : Json) (rest : List Json) :
    writeItems (item :: second :: rest) = write item ++ ',' :: writeItems (second :: rest) := by
  rw [writeItems]
  exact List.cons_ne_nil second rest

theorem writeFields_cons_cons (key : String) (value : Json) (second : String × Json)
    (rest : List (String × Json)) :
    writeFields ((key, value) :: second :: rest) =
      quote key ++ ':' :: (write value ++ ',' :: writeFields (second :: rest)) := by
  rw [writeFields]
  · simp
  · exact List.cons_ne_nil second rest

theorem writeItems_head {items : List Json} (some : items ≠ []) :
    ∃ c more, writeItems items = c :: more ∧ isSpace c = false ∧ c ≠ ']' := by
  obtain ⟨item, rest, rfl⟩ := List.exists_cons_of_ne_nil some
  obtain ⟨c, more, same, solid, opens⟩ := write_head item
  cases rest with
  | nil => exact ⟨c, more, same, solid, opens⟩
  | cons second rest =>
    refine ⟨c, more ++ ',' :: writeItems (second :: rest), ?_, solid, opens⟩
    rw [writeItems_cons_cons, same]
    rfl

theorem writeFields_head (key : String) (value : Json) (fields : List (String × Json)) :
    ∃ more, writeFields ((key, value) :: fields) = '"' :: more := by
  cases fields with
  | nil => exact ⟨_, rfl⟩
  | cons second fields =>
    rw [writeFields_cons_cons]
    exact ⟨_, rfl⟩

/-- The reader of fields, from the value of the first one on. -/
theorem fields?_quote (fuel depth : Nat) (key : String) (rest : List Char) :
    fields? (fuel + 1) depth ('"' :: (key.toList.flatMap escape ++ '"' :: ':' :: rest)) =
      (value? fuel depth (skipSpace rest)).bind fun read =>
        match skipSpace read.2 with
        | '\x7d' :: rest => some ([(key, read.1)], rest)
        | ',' :: rest =>
          (fields? fuel depth (skipSpace rest)).map fun others =>
            ((key, read.1) :: others.1, others.2)
        | _ => none := by
  rw [fields?]
  simp only [quoted?_quote, bind, Option.bind_some, skipSpace_cons (c := ':') rfl]
  cases value? fuel depth (skipSpace rest) with
  | none => rfl
  | some read =>
    simp only [Option.bind]
    cases skipSpace read.2 with
    | nil => rfl
    | cons c others =>
      by_cases closed : c = '\x7d'
      · subst closed
        rfl
      by_cases comma : c = ','
      · subst comma
        show Option.bind (fields? fuel depth (skipSpace others)) _ = _
        exact Option.map_eq_bind.symm
      · simp [closed, comma]

mutual

/-- **The reader and `reread?` agree**, wherever something follows that may. -/
theorem value?_write : ∀ (value : Json) (fuel depth : Nat) (rest : List Char),
    2 * (write value).length ≤ fuel + 1 → Delimited rest →
      value? fuel depth (write value ++ rest) = (reread? depth value).map (·, rest)
  | value, 0, _, _, enough, _ => by
    -- a text has a character, so there is fuel
    obtain ⟨c, more, same, -, -⟩ := write_head value
    rw [same, List.length_cons] at enough
    omega
  | null, fuel + 1, depth, rest, _, _ => rfl
  | bool true, fuel + 1, depth, rest, _, _ => rfl
  | bool false, fuel + 1, depth, rest, _, _ => rfl
  | int n, fuel + 1, depth, rest, _, delimited => by
    rw [reread?]
    exact (numeral_writeInt n).value?_append delimited fuel depth
  | double x, fuel + 1, depth, rest, _, delimited => by
    rw [reread?]
    exact (numeral_write .compact x).value?_append delimited fuel depth
  | str s, fuel + 1, depth, rest, _, _ => by
    have text : write (str s) ++ rest = '"' :: (s.toList.flatMap escape ++ '"' :: rest) := by
      simp [write, quote]
    rw [text]
    simp only [value?, quoted?_quote]
    rfl
  | arr [], fuel + 1, depth, rest, _, _ => by
    rw [reread?]
    show (if depth = 0 then none else some (arr [], rest)) = _
    split <;> rfl
  | arr (item :: items), fuel + 1, depth, rest, enough, _ => by
    have text : write (arr (item :: items)) ++ rest =
        '[' :: (writeItems (item :: items) ++ ']' :: rest) := by
      simp [write]
    have enough : 2 * (writeItems (item :: items)).length ≤ fuel := by
      simp only [write, List.length_cons, List.length_append] at enough
      omega
    have read := items?_write item items fuel (depth - 1) rest enough
    obtain ⟨c, more, same, solid, opens⟩ := writeItems_head (List.cons_ne_nil item items)
    rw [text, reread?]
    -- the reader looks at the first character of the items before it reads them
    rw [same, List.cons_append] at read ⊢
    simp only [value?, skipSpace_cons solid]
    split
    · rfl
    split
    · rename_i closed
      exact absurd (List.cons.inj closed).1 opens
    · rw [read, Option.map_map, Option.map_map]
      rfl
  | obj [], fuel + 1, depth, rest, _, _ => by
    rw [reread?]
    show (if depth = 0 then none else some (obj [], rest)) = _
    split <;> rfl
  | obj ((key, value) :: fields), fuel + 1, depth, rest, enough, _ => by
    have text : write (obj ((key, value) :: fields)) ++ rest =
        '\x7b' :: (writeFields ((key, value) :: fields) ++ '\x7d' :: rest) := by
      simp [write]
    have enough : 2 * (writeFields ((key, value) :: fields)).length ≤ fuel := by
      simp only [write, List.length_cons, List.length_append] at enough
      omega
    have read := fields?_write key value fields fuel (depth - 1) rest enough
    obtain ⟨more, same⟩ := writeFields_head key value fields
    rw [text, reread?]
    rw [same, List.cons_append] at read ⊢
    simp only [value?, skipSpace_cons (c := '"') rfl]
    split
    · rfl
    · show (fields? fuel (depth - 1) ('"' :: (more ++ '\x7d' :: rest))).map _ = _
      rw [read, Option.map_map, Option.map_map]
      rfl

/-- The reader of lists and `rereadItems?` agree. -/
theorem items?_write : ∀ (item : Json) (items : List Json) (fuel depth : Nat)
    (rest : List Char), 2 * (writeItems (item :: items)).length ≤ fuel →
      items? fuel depth (writeItems (item :: items) ++ ']' :: rest) =
        (rereadItems? depth (item :: items)).map (·, rest)
  | item, items, 0, _, _, enough => by
    obtain ⟨c, more, same, -, -⟩ := writeItems_head (List.cons_ne_nil item items)
    rw [same, List.length_cons] at enough
    omega
  | item, [], fuel + 1, depth, rest, enough => by
    have read := value?_write item fuel depth (']' :: rest)
      (by simp only [writeItems] at enough; omega) (delimited_cons rest (by simp))
    simp only [items?, writeItems, read, rereadItems?]
    cases reread? depth item with
    | none => rfl
    | some value => rfl
  | item, second :: items, fuel + 1, depth, rest, enough => by
    rw [writeItems_cons_cons, List.length_append, List.length_cons] at enough
    have text : writeItems (item :: second :: items) ++ ']' :: rest =
        write item ++ ',' :: (writeItems (second :: items) ++ ']' :: rest) := by
      rw [writeItems_cons_cons, List.append_assoc, List.cons_append]
    have read := value?_write item fuel depth
      (',' :: (writeItems (second :: items) ++ ']' :: rest)) (by omega)
      (delimited_cons _ (by simp))
    have more := items?_write second items fuel depth rest (by omega)
    obtain ⟨c, tail, same, solid, -⟩ := writeItems_head (List.cons_ne_nil second items)
    rw [text]
    -- after the comma blanks are skipped, and there are none
    rw [same, List.cons_append] at read more ⊢
    rw [items?, read, rereadItems?]
    cases reread? depth item with
    | none => rfl
    | some value =>
      show ((items? fuel depth (skipSpace (c :: (tail ++ ']' :: rest)))).bind _) = _
      rw [skipSpace_cons solid, more]
      cases rereadItems? depth (second :: items) with
      | none => rfl
      | some values => rfl

/-- The reader of objects and `rereadFields?` agree. -/
theorem fields?_write : ∀ (key : String) (value : Json) (fields : List (String × Json))
    (fuel depth : Nat) (rest : List Char),
    2 * (writeFields ((key, value) :: fields)).length ≤ fuel →
      fields? fuel depth (writeFields ((key, value) :: fields) ++ '\x7d' :: rest) =
        (rereadFields? depth ((key, value) :: fields)).map (·, rest)
  | key, value, fields, 0, _, _, enough => by
    cases fields <;> simp [writeFields, quote] at enough
  | key, value, [], fuel + 1, depth, rest, enough => by
    have text : writeFields [(key, value)] ++ '\x7d' :: rest =
        '"' :: (key.toList.flatMap escape ++ '"' :: ':' :: (write value ++ '\x7d' :: rest)) := by
      simp [writeFields, quote]
    have shorter : 2 * (write value).length ≤ fuel + 1 := by
      simp only [writeFields, List.length_append, List.length_cons] at enough
      omega
    have read := value?_write value fuel depth ('\x7d' :: rest) shorter
      (delimited_cons rest (by simp))
    obtain ⟨c, more, same, solid, -⟩ := write_head value
    rw [text, rereadFields?]
    rw [same, List.cons_append] at read ⊢
    rw [fields?_quote, skipSpace_cons solid, read]
    cases reread? depth value with
    | none => rfl
    | some value => rfl
  | key, value, second :: fields, fuel + 1, depth, rest, enough => by
    have text : writeFields ((key, value) :: second :: fields) ++ '\x7d' :: rest =
        '"' :: (key.toList.flatMap escape ++ '"' :: ':' :: (write value ++
          ',' :: (writeFields (second :: fields) ++ '\x7d' :: rest))) := by
      simp [writeFields_cons_cons, quote]
    rw [writeFields_cons_cons] at enough
    simp only [List.length_append, List.length_cons] at enough
    have read := value?_write value fuel depth
      (',' :: (writeFields (second :: fields) ++ '\x7d' :: rest)) (by omega)
      (delimited_cons _ (by simp))
    obtain ⟨secondKey, secondValue⟩ := second
    have others := fields?_write secondKey secondValue fields fuel depth rest (by omega)
    obtain ⟨c, more, same, solid, -⟩ := write_head value
    obtain ⟨tail, same'⟩ := writeFields_head secondKey secondValue fields
    rw [text, rereadFields?]
    -- here blanks are skipped twice, after the colon and after the comma
    rw [same', List.cons_append] at read others ⊢
    rw [same, List.cons_append] at read ⊢
    rw [fields?_quote, skipSpace_cons solid, read]
    cases reread? depth value with
    | none => rfl
    | some value =>
      show (fields? fuel depth (skipSpace ('"' :: (tail ++ '\x7d' :: rest)))).map _ = _
      rw [skipSpace_cons (c := '"') rfl, others]
      cases rereadFields? depth ((secondKey, secondValue) :: fields) with
      | none => rfl
      | some values => rfl

end

/-- **What is read from the compact text of a value.** -/
theorem scan?_compress (value : Json) : scan? value.compress = reread? maxDepth value := by
  obtain ⟨c, more, same, solid, -⟩ := write_head value
  have text : skipSpace (value.compress).toList = write value := by
    rw [compress, String.toList_ofList, same, skipSpace_cons solid]
  have read := value?_write value (2 * (write value).length + 2) maxDepth [] (by omega)
    delimited_nil
  rw [List.append_nil] at read
  unfold scan?
  rw [text]
  dsimp only
  rw [read]
  cases reread? maxDepth value with
  | none => rfl
  | some value => rfl

end Runbook.Json
