import ScriptQuote.Text.Basic
import Mathlib.Data.Set.List

/-!
# Texts written piece by piece

Every writer of this library puts one piece for each code point, so its output is a
`flatMap`.  What holds of a reader for one piece in front of any text then holds of it
for a whole output in front of any text.  The text behind stays general throughout:
that is what lets an output stand between other things.

* `read_flatMap_append` is for readers that give something for each piece.
* `scan_flatMap_append` is for scanners that only count the positions they pass.

`length_le_length_flatMap` and `exists_flatMap_eq_iff` are about the writers
alone: how long an output is, and which texts are one.
-/

namespace ScriptQuote.Text

/-- A reader that gives `cons c` for the piece of each `c` gives them all, in
order, for the pieces of a text. -/
theorem read_flatMap_append {α : Type} {emit : CodePoint → Text} {read : Text → α}
    {cons : CodePoint → α → α}
    (step : ∀ c tail, read (emit c ++ tail) = cons c (read tail)) (v tail : Text) :
    read (v.flatMap emit ++ tail) = v.foldr cons (read tail) := by
  induction v with
  | nil => rfl
  | cons c v ih =>
    rw [List.flatMap_cons, List.append_assoc, step, ih]
    rfl

/-- A scanner that passes the piece of each code point passes the pieces of a text. -/
theorem scan_flatMap_append {α : Type} {emit : CodePoint → Text}
    {scan : Nat → Text → α}
    (step : ∀ i c tail, scan i (emit c ++ tail) = scan (i + (emit c).length) tail)
    (i : Nat) (v tail : Text) :
    scan i (v.flatMap emit ++ tail) = scan (i + (v.flatMap emit).length) tail := by
  induction v generalizing i with
  | nil => rfl
  | cons c v ih =>
    rw [List.flatMap_cons, List.append_assoc, step, ih, List.length_append,
      Nat.add_assoc]

/-- What is written is no shorter than the text if there is a piece for each
code point. -/
theorem length_le_length_flatMap {emit : CodePoint → Text}
    (h : ∀ c, emit c ≠ []) (v : Text) : v.length ≤ (v.flatMap emit).length := by
  induction v with
  | nil => exact Nat.le_refl 0
  | cons c v ih =>
    have hpiece := List.length_pos_iff.mpr (h c)
    rw [List.flatMap_cons, List.length_append, List.length_cons]
    omega

/-- A text is written exactly if it is a sequence of pieces. -/
theorem exists_flatMap_eq_iff {emit : CodePoint → Text} {t : Text} :
    (∃ v : Text, v.flatMap emit = t) ↔
      ∃ pieces : List Text, (∀ u ∈ pieces, ∃ c, emit c = u) ∧ pieces.flatten = t := by
  constructor
  · rintro ⟨v, rfl⟩
    refine ⟨v.map emit, ?_, (List.flatMap_def).symm⟩
    intro u hu
    obtain ⟨c, -, hc⟩ := List.mem_map.mp hu
    exact ⟨c, hc⟩
  · rintro ⟨pieces, hpieces, rfl⟩
    have hrange : pieces ∈ Set.range (List.map emit) := by
      rw [Set.range_list_map]
      exact hpieces
    obtain ⟨v, rfl⟩ := hrange
    exact ⟨v, List.flatMap_def⟩

end ScriptQuote.Text
