import ScriptQuote.Context.FormatString
import ScriptQuote.Proofs.Context.SingleQuoted

/-!
# Quotes and brackets written twice

Single-quoted strings and format strings are the two contexts where a character
is meant as text when it is written twice.  Both are the doubling of
`Proofs.Text.Doubled` with another rule for what the reader joins: any two
quotes, and a curly bracket with the same one.

`doubling_resynchronises` is what a caller needs to put a written text between
other things.  The reader is in step again behind it, and a quote behind it that
is alone is the first that is alone.
-/

namespace ScriptQuote

open Text (doubled collapsed Joins firstUnpaired?)

namespace FormatString

/-- Are the two neighbours the same curly bracket? -/
def areSameBracket (a b : CodePoint) : Bool := Dialect.isCurlyBracket a && b == a

theorem areSameBracket_iff {a b : CodePoint} :
    areSameBracket a b = true ↔ Dialect.isCurlyBracket a = true ∧ b = a := by
  rw [areSameBracket, Bool.and_eq_true, beq_iff_eq]

theorem escape_eq_doubled (v : Text) :
    escape v = doubled Dialect.isCurlyBracket v := rfl

theorem unescape_eq_collapsed (t : Text) :
    unescape t = collapsed areSameBracket t := by
  fun_induction unescape t with
  | case1 => rfl
  | case2 => rfl
  | case3 c n rest hpair ih => simp [collapsed, areSameBracket, hpair, ih]
  | case4 c n rest hpair ih => simp [collapsed, areSameBracket, hpair, ih]

theorem joins_areSameBracket : Joins Dialect.isCurlyBracket areSameBracket where
  self _ hc := areSameBracket_iff.mpr ⟨hc, rfl⟩
  picked _ _ h := (areSameBracket_iff.mp h).1

/-- A written text in front of any format string formats as itself in front of that. -/
theorem unescape_escape_append (v tail : Text) :
    unescape (escape v ++ tail) = v ++ unescape tail := by
  rw [escape_eq_doubled, unescape_eq_collapsed, unescape_eq_collapsed,
    Text.collapsed_doubled_append joins_areSameBracket]

theorem unescape_escape (v : Text) : unescape (escape v) = v := by
  rw [escape_eq_doubled, unescape_eq_collapsed,
    Text.collapsed_doubled joins_areSameBracket]

end FormatString

/-- What was written for single quotes or for a format string reads as itself in
front of anything, in any dialect.  Gone through from pair to pair, a text for
single quotes has no quote that is alone, so the first one is the quote that
closes it, if no further quote follows. -/
theorem doubling_resynchronises :
    (∀ (d : Dialect) (v w : Text),
      SingleQuoted.unescape d (SingleQuoted.escape d v ++ w) =
        v ++ SingleQuoted.unescape d w ∧
        SingleQuoted.unescape d (SingleQuoted.escape d v) = v) ∧
    (∀ v w : Text,
      FormatString.unescape (FormatString.escape v ++ w) =
        v ++ FormatString.unescape w ∧
        FormatString.unescape (FormatString.escape v) = v) ∧
    ∀ (d : Dialect) (v : Text) {q : CodePoint}, q ∈ d.singleQuotes →
      ∀ {rest : Text}, (∀ c ∈ rest.head?, c ∉ d.singleQuotes) →
        firstUnpaired? d.isSingleQuote (SingleQuoted.escape d v ++ [q] ++ rest) =
          some (SingleQuoted.escape d v).length := by
  refine ⟨?_, ?_, ?_⟩
  · intro d v w
    exact ⟨SingleQuoted.unescape_escape_append d v w,
      SingleQuoted.unescape_escape d v⟩
  · intro v w
    exact ⟨FormatString.unescape_escape_append v w, FormatString.unescape_escape v⟩
  · intro d v q hq rest hrest
    have hquote : d.isSingleQuote q = true := List.contains_iff_mem.mpr hq
    have hplain : ∀ c ∈ rest.head?, d.isSingleQuote c = false := by
      intro c hc
      simp [Dialect.isSingleQuote, hrest c hc]
    exact Text.firstUnpaired?_doubled_append v hquote hplain

/-- Different quotes side by side, at the end of the text one and the same, and
a third one that closes.  A quote behind the literal comes too late to pair with
it. -/
theorem doubling_resynchronises_curlyQuotes :
    CodePoint.ofChar '‛' ∈ Dialect.powerShell.singleQuotes ∧
      (∀ c ∈ (Text.ofString "+\x27").head?, c ∉ Dialect.powerShell.singleQuotes) ∧
      firstUnpaired? Dialect.powerShell.isSingleQuote
        (SingleQuoted.escape .powerShell "‘’a\x27" ++ (['‛'] : Text) ++
          Text.ofString "+\x27") =
        some 7 :=
  ⟨by decide, by decide,
    doubling_resynchronises.2.2 .powerShell "‘’a\x27" (by decide) (by decide)⟩

end ScriptQuote
