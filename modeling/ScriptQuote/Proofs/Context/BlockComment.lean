import ScriptQuote.Context.BlockComment
import ScriptQuote.Proofs.Text.Marks

/-!
# The content of a block comment

Writing the content is two replacements, one after the other.
`escape_eq_separate` makes them one separation: the escape goes between the two
code points of each mark, also where two marks share the `#`.  This holds of
every escape.

`escape_inserts` adds what this says of two texts in a row.

An escape that belongs to neither mark leaves no mark in the content, and no
other escape does that for all contents; this is the first half of
`escape_breaks_marks`.  The second half is about the comment as a whole: the
first closing mark is the one after the content.
-/

namespace ScriptQuote.BlockComment

open Text

/-- Picks the two code points of either mark. -/
def isMark (x y : CodePoint) : Bool := isPair '<' '#' x y || isPair '#' '>' x y

variable {d : Dialect} {e : CodePoint}

/-- The two replacements put an escape into each mark and change nothing else. -/
theorem escape_eq_separate (he : d.escape = [e]) (v : Text) :
    escape d v = separate isMark e v := by
  have hlt : CodePoint.ofChar '<' ≠ CodePoint.ofChar '#' := by decide
  have hgt : CodePoint.ofChar '#' ≠ CodePoint.ofChar '>' := by decide
  have hopening : brokenOpening d =
      [CodePoint.ofChar '<', e, CodePoint.ofChar '#'] := by
    rw [brokenOpening, he]; rfl
  have hclosing : brokenClosing d =
      [CodePoint.ofChar '#', e, CodePoint.ofChar '>'] := by
    rw [brokenClosing, he]; rfl
  rw [escape, hopening, hclosing, opening, closing, replaceAll_pair hlt,
    replaceAll_pair hgt]
  apply separate_separate
  -- What the first pass inserts stands between `<` and `#`, so it is in no
  -- closing mark.
  intro x y hxy
  obtain ⟨rfl, rfl⟩ := isPair_iff.mp hxy
  constructor <;> rw [Bool.eq_false_iff] <;> intro h
  · exact hlt (isPair_iff.mp h).1
  · exact hgt (isPair_iff.mp h).2

/-- Writing the content puts one escape between the two code points of each mark
and changes nothing else, whatever the escape is.  So what is written for two
texts in a row is what is written for each of them, with one escape between them
if they meet in a mark. -/
theorem escape_inserts (hd : d.escape = [e]) :
    (∀ v, escape d v = separate isMark e v) ∧
    ∀ a b, escape d (a ++ b) =
      escape d a ++ gap isMark e a.getLast? b.head? ++ escape d b := by
  refine ⟨escape_eq_separate hd, ?_⟩
  intro a b
  rw [escape_eq_separate hd, escape_eq_separate hd, escape_eq_separate hd,
    separate_append]

/-- The escape is the code point that the two marks share, and two texts meet in
the opening one. -/
theorem escape_inserts_sharedEscape :
    (Dialect.powerShell.set .escape ['#']).escape = (['#'] : Text) ∧
      escape (Dialect.powerShell.set .escape ['#']) "<#>" = "<###>" ∧
      escape (Dialect.powerShell.set .escape ['#'])
        (Text.ofString "<" ++ Text.ofString "#>") =
        Text.ofString "<" ++ Text.ofString "#" ++ Text.ofString "##>" :=
  ⟨rfl, (escape_inserts rfl).1 "<#>", (escape_inserts rfl).2 "<" "#>"⟩

/-- An escape that is in neither mark is picked with nothing on either side. -/
theorem isMark_neutral (he : e ∉ (['<', '#', '>'] : Text)) :
    (∀ x, isMark x e = false) ∧ ∀ y, isMark e y = false := by
  simp only [List.mem_cons, List.not_mem_nil, or_false, not_or] at he
  obtain ⟨hlt, hhash, hgt⟩ := he
  constructor <;> intro x <;> simp [isMark, isPair, hlt, hhash, hgt]

/-- With such an escape no mark is left in the content. -/
theorem not_infix_escape (hd : d.escape = [e])
    (he : e ∉ (['<', '#', '>'] : Text)) (v : Text) :
    ¬ opening <:+: escape d v ∧ ¬ closing <:+: escape d v := by
  have hchain := isChain_separate (isMark_neutral he).1 (isMark_neutral he).2 v
  rw [← escape_eq_separate hd] at hchain
  constructor <;> apply not_infix_pair <;> apply hchain.imp <;> intro x y hxy <;>
    rw [isMark, Bool.or_eq_false_iff] at hxy
  · exact hxy.1
  · exact hxy.2

/-- With any other escape a mark on its own is written with a mark in it. -/
theorem neutral_of_not_infix_escape (hd : d.escape = [e])
    (h : ∀ v, ¬ opening <:+: escape d v ∧ ¬ closing <:+: escape d v) :
    e ∉ (['<', '#', '>'] : Text) := by
  have hopening : escape d opening =
      [CodePoint.ofChar '<', e, CodePoint.ofChar '#'] :=
    escape_eq_separate hd opening
  have hclosing : escape d closing =
      [CodePoint.ofChar '#', e, CodePoint.ofChar '>'] :=
    escape_eq_separate hd closing
  intro he
  simp only [List.mem_cons, List.not_mem_nil, or_false] at he
  rcases he with rfl | rfl | rfl
  · exact (h opening).1 (hopening ▸ ⟨['<'], [], rfl⟩)
  · exact (h opening).1 (hopening ▸ ⟨[], ['#'], rfl⟩)
  · exact (h closing).2 (hclosing ▸ ⟨[], ['>'], rfl⟩)

/-- The content of a block comment holds no mark, whatever it says, exactly if
the escape is in neither mark; and then the comment ends where it is closed. -/
theorem escape_breaks_marks (hd : d.escape = [e]) :
    ((∀ v, ¬ opening <:+: escape d v ∧ ¬ closing <:+: escape d v) ↔
      e ∉ (['<', '#', '>'] : Text)) ∧
    (e ∉ (['<', '#', '>'] : Text) → ∀ v rest,
      FirstAt closing (escape d v ++ closing ++ rest) (escape d v).length) := by
  refine ⟨⟨neutral_of_not_infix_escape hd, not_infix_escape hd⟩, ?_⟩
  intro he v rest
  exact firstAt_append_pair (by decide) (not_infix_escape hd he v).2 rest

/-- Content that closes and opens a comment around a shared `#`, and a text
behind that closes it once more. -/
theorem escape_breaks_marks_powerShell :
    Dialect.powerShell.escape = ['\x60'] ∧
      (CodePoint.ofChar '\x60') ∉ (['<', '#', '>'] : Text) ∧
      FirstAt closing (escape Dialect.powerShell "#><#>" ++ closing ++
        Text.ofString " #>") 8 :=
  ⟨rfl, by decide, (escape_breaks_marks rfl).2 (by decide) "#><#>" " #>"⟩

end ScriptQuote.BlockComment
