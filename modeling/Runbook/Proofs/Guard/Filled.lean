import Mathlib.Data.List.Infix
import Runbook.Guard.Template
import Runbook.Proofs.Text.Pieces

/-!
# Templates that are filled in

A template is written as stretches, each of them a literal text and an expression between double
braces, with a last text behind them.  Filling it in puts the text of its value in the place of each
expression and leaves everything else alone.

A mark is the same brace twice, so it could be found one character too early: at a brace that the
text before it ends with.  That, and a mark inside the text, is all that has to be excluded; a brace
behind a mark does no harm.  The last text may have opening marks, as long as none of them is
closed.  Nothing is asked of the values: what has been put in is not looked at again, because the
search goes on behind the closing mark.

## Main definitions

* `Template.Clear`: texts in front of a doubled character that do not disturb it
* `Template.Spanless`: texts in which no opening mark is closed
* `Template.Stretch`: a literal text with an expression behind it

## Main statements

* `Template.cut?_clear`: a doubled character is found where it is written
* `Template.ofChars_written`: a written template is taken apart into what it was written from
* `Template.render_written`: a written template is filled in stretch by stretch
-/

namespace Runbook.Guard.Template

/-! ## Marks -/

/-- A text that has no doubled `c` in it and does not end in a `c`. -/
structure Clear (c : Char) (cs : List Char) : Prop where
  /-- The mark is no part of the text. -/
  apart : ¬ [c, c] <:+: cs
  /-- The text does not end in the first half of the mark. -/
  ends : cs.getLast? ≠ some c

instance (c : Char) (cs : List Char) : Decidable (Clear c cs) :=
  decidable_of_iff (¬ [c, c] <:+: cs ∧ cs.getLast? ≠ some c)
    ⟨fun ⟨apart, ends⟩ => ⟨apart, ends⟩, fun ⟨apart, ends⟩ => ⟨apart, ends⟩⟩

/-- A text in which no opening mark has a closing mark somewhere behind it. -/
def Spanless (cs : List Char) : Prop :=
  ∀ before after, cs = before ++ opening ++ after → ¬ closing <:+: after

/-- **A doubled character is found where it is written.** -/
theorem cut?_clear {c : Char} {before : List Char} (clear : Clear c before) (after : List Char) :
    Text.cut? [c, c] (before ++ [c, c] ++ after) = some (before, after) := by
  refine Text.cut?_of_first (List.cons_ne_nil c [c]) ?_ after
  intro early
  rcases List.infix_concat_iff.1 early with ⟨front, same⟩ | part
  · refine clear.ends (List.getLast?_eq_some_iff.2 ⟨front, ?_⟩)
    have same : front ++ [c] ++ [c] = before ++ [c] := by simpa using same
    exact (List.append_cancel_right same).symm
  · exact clear.apart part

/-! ## Written templates -/

/-- A literal text with an expression behind it. -/
structure Stretch where
  /-- The literal text. -/
  before : List Char
  /-- The expression, with the blanks around it. -/
  expr : List Char
  /-- The opening mark is found behind the literal text. -/
  opens : Clear '\x7b' before
  /-- The closing mark is found behind the expression. -/
  closes : Clear '\x7d' expr

namespace Stretch

/-- The written stretch. -/
def text (stretch : Stretch) : List Char :=
  stretch.before ++ opening ++ stretch.expr ++ closing

/-- The parts of the stretch. -/
def parts (stretch : Stretch) : Template := [.literal stretch.before, .span stretch.expr]

/-- The stretch with the text of its value in the place of the expression: the value itself if that
is a text, nothing if it is null, and else its compact text. -/
def filled (context : Json.Object) (stretch : Stretch) : List Char :=
  stretch.before ++ (evaluate stretch.expr context).inline.toList

end Stretch

/-- A text without spans is all literal. -/
theorem ofChars_of_spanless {cs : List Char} (spanless : Spanless cs) :
    ofChars cs = [.literal cs] := by
  rw [ofChars]
  split
  · rfl
  · rename_i before after cut
    have unclosed : Text.cut? closing after = none :=
      Text.cut?_eq_none_iff.2 (spanless before after (Text.eq_of_cut? cut))
    split
    · rfl
    · rename_i closed
      rw [unclosed] at closed
      cases closed

/-- **One stretch**: the first marks of a text are those of its first stretch. -/
theorem ofChars_stretch (stretch : Stretch) (behind : List Char) :
    ofChars (stretch.text ++ behind) = stretch.parts ++ ofChars behind := by
  have opened : Text.cut? opening (stretch.text ++ behind) =
      some (stretch.before, stretch.expr ++ closing ++ behind) := by
    have cut := cut?_clear stretch.opens (stretch.expr ++ closing ++ behind)
    simpa only [Stretch.text, opening, List.append_assoc] using cut
  have closed : Text.cut? closing (stretch.expr ++ closing ++ behind) =
      some (stretch.expr, behind) := cut?_clear stretch.closes behind
  rw [ofChars]
  split
  · rename_i none
    rw [opened] at none
    cases none
  · rename_i before after cut
    rw [opened] at cut
    cases cut
    split
    · rename_i none
      rw [closed] at none
      cases none
    · rename_i expr rest cut
      rw [closed] at cut
      cases cut
      rfl

/-- **A written template is taken apart** into what it was written from. -/
theorem ofChars_written (stretches : List Stretch) {last : List Char} (spanless : Spanless last) :
    ofChars (stretches.flatMap Stretch.text ++ last) =
      stretches.flatMap Stretch.parts ++ [.literal last] := by
  induction stretches with
  | nil => exact ofChars_of_spanless spanless
  | cons stretch stretches ih =>
    rw [List.flatMap_cons, List.append_assoc, ofChars_stretch, ih, List.flatMap_cons,
      List.append_assoc]

/-- **A written template is filled in** stretch by stretch: literal text is kept, and the text of
its value stands in the place of each expression, whatever marks it has in it. -/
theorem render_written (stretches : List Stretch) {last : List Char} (spanless : Spanless last)
    (context : Json.Object) :
    render (.ofList (stretches.flatMap Stretch.text ++ last)) context =
      .ofList (stretches.flatMap (Stretch.filled context) ++ last) := by
  have stretchwise : ((fun stretch => stretch.parts.flatMap (Part.text context)) :
      Stretch → List Char) = Stretch.filled context := by
    funext stretch
    rw [Stretch.parts, List.flatMap_cons, List.flatMap_cons, List.flatMap_nil, List.append_nil]
    rfl
  rw [render, String.toList_ofList, ofChars_written stretches spanless, List.flatMap_append,
    List.flatMap_assoc, stretchwise, List.flatMap_singleton]
  rfl

/-- A value with marks in it is put in once, between braces that are literal, and an opening mark at
the end stays. -/
theorem render_written_nestedMarks :
    let context : Json.Object := [("a", .str "\x7b\x7bb\x7d\x7d"), ("b", .arr [.int 2, .null])]
    let stretches : List Stretch := [
      ⟨"a: \x7d".toList, "\x7ba".toList, by decide, by decide⟩,
      ⟨"\x7d ".toList, " a ".toList, by decide, by decide⟩,
      ⟨[], "b".toList, by decide, by decide⟩]
    let template :=
      "a: \x7d\x7b\x7b\x7ba\x7d\x7d\x7d \x7b\x7b a \x7d\x7d\x7b\x7bb\x7d\x7d\x7d, \x7b\x7b"
    Spanless "\x7d, \x7b\x7b".toList ∧
      stretches.flatMap Stretch.text ++ "\x7d, \x7b\x7b".toList = template.toList ∧
      render template context = "a: \x7d\x7d \x7b\x7bb\x7d\x7d[2,null]\x7d, \x7b\x7b" := by
  intro context stretches template
  have spanless : Spanless "\x7d, \x7b\x7b".toList := by
    intro before after same closed
    have inside : closing.Sublist "\x7d, \x7b\x7b".toList := by
      rw [same]
      exact closed.sublist.trans (List.sublist_append_right _ after)
    exact absurd inside (by decide)
  refine ⟨spanless, by decide, (render_written stretches spanless context).trans ?_⟩
  decide +kernel

end Runbook.Guard.Template
