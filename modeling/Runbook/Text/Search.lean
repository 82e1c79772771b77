/-!
# Searching a text

Where a text is cut by the first occurrence of a mark.

## Main definitions

* `cut?`: the text before and the text after the first occurrence of a mark
* `occurs`: does the mark occur?
* `splitOn`: the parts of a text between single characters
-/

namespace Runbook.Text

/-- The text before and after the first occurrence of `mark`. -/
def cut? (mark : List Char) : List Char → Option (List Char × List Char)
  | [] => if mark.isEmpty then some ([], []) else none
  | c :: cs =>
    if mark.isPrefixOf (c :: cs) then some ([], (c :: cs).drop mark.length)
    else (cut? mark cs).map fun (before, after) => (c :: before, after)

/-- Does `mark` occur in the text? -/
def occurs (mark cs : List Char) : Bool := (cut? mark cs).isSome

/-- The parts of a text between the occurrences of one character; there is always one part. -/
def splitOn (sep : Char) : List Char → List (List Char)
  | [] => [[]]
  | c :: cs =>
    if c = sep then [] :: splitOn sep cs
    else
      match splitOn sep cs with
      | [] => [[c]]
      | part :: parts => (c :: part) :: parts

/-- A cut gives back the text: what is before, the mark, and what is after. -/
theorem eq_of_cut? {mark cs before after : List Char} (h : cut? mark cs = some (before, after)) :
    cs = before ++ mark ++ after := by
  induction cs generalizing before after with
  | nil =>
    simp only [cut?] at h
    split at h
    · simp_all
    · simp at h
  | cons c cs ih =>
    simp only [cut?] at h
    split at h
    · rename_i hp
      obtain ⟨rest, hrest⟩ := List.isPrefixOf_iff_prefix.1 hp
      simp only [Option.some.injEq, Prod.mk.injEq] at h
      obtain ⟨rfl, rfl⟩ := h
      simp [← hrest]
    · obtain ⟨⟨b, a⟩, hcut, heq⟩ := Option.map_eq_some_iff.1 h
      simp only [Prod.mk.injEq] at heq
      obtain ⟨rfl, rfl⟩ := heq
      simp [ih hcut]

/-- The text before a mark that is not empty is shorter than the whole. -/
theorem length_before_lt {mark cs before after : List Char} (hmark : mark ≠ [])
    (h : cut? mark cs = some (before, after)) : before.length < cs.length := by
  have hlen := List.length_pos_iff.2 hmark
  rw [eq_of_cut? h]
  simp only [List.length_append]
  omega

/-- The text after a mark that is not empty is shorter than the whole. -/
theorem length_after_lt {mark cs before after : List Char} (hmark : mark ≠ [])
    (h : cut? mark cs = some (before, after)) : after.length < cs.length := by
  have hlen := List.length_pos_iff.2 hmark
  rw [eq_of_cut? h]
  simp only [List.length_append]
  omega

end Runbook.Text
