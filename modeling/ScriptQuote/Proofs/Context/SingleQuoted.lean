import ScriptQuote.Context.SingleQuoted
import ScriptQuote.Proofs.Text.Doubled

/-!
# Reading single-quoted strings back

The writer doubles each quote, and the reader takes any two neighbouring quotes
for one, also two different ones.  `escape_eq_doubled` and
`unescape_eq_collapsed` say so, and the rest follows from that.
`unescape_escape_append` holds in every dialect, whatever follows the written
text.
-/

namespace ScriptQuote.SingleQuoted

open Text (doubled collapsed Joins)

/-- Are the two neighbours both quotes? -/
def areQuotes (d : Dialect) (a b : CodePoint) : Bool :=
  d.isSingleQuote a && d.isSingleQuote b

theorem areQuotes_iff {d : Dialect} {a b : CodePoint} :
    areQuotes d a b = true ↔ d.isSingleQuote a = true ∧ d.isSingleQuote b = true := by
  rw [areQuotes, Bool.and_eq_true]

theorem escape_eq_doubled (d : Dialect) (v : Text) :
    escape d v = doubled d.isSingleQuote v := rfl

theorem unescape_eq_collapsed (d : Dialect) (t : Text) :
    unescape d t = collapsed (areQuotes d) t := by
  fun_induction unescape d t with
  | case1 => rfl
  | case2 => rfl
  | case3 c n rest hpair ih => simp [collapsed, areQuotes, hpair, ih]
  | case4 c n rest hpair ih => simp [collapsed, areQuotes, hpair, ih]

theorem joins_areQuotes (d : Dialect) : Joins d.isSingleQuote (areQuotes d) where
  self _ hc := areQuotes_iff.mpr ⟨hc, hc⟩
  picked _ _ h := (areQuotes_iff.mp h).1

/-- A written text in front of any string reads as itself in front of that. -/
theorem unescape_escape_append (d : Dialect) (v tail : Text) :
    unescape d (escape d v ++ tail) = v ++ unescape d tail := by
  rw [escape_eq_doubled, unescape_eq_collapsed, unescape_eq_collapsed,
    Text.collapsed_doubled_append (joins_areQuotes d)]

theorem unescape_escape (d : Dialect) (v : Text) : unescape d (escape d v) = v := by
  rw [escape_eq_doubled, unescape_eq_collapsed,
    Text.collapsed_doubled (joins_areQuotes d)]

theorem emit_ne_nil (d : Dialect) (c : CodePoint) : emit d c ≠ [] :=
  Text.doublePiece_ne_nil d.isSingleQuote c

end ScriptQuote.SingleQuoted
