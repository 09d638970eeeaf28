import ScriptQuote.Proofs.Context.DoubleQuoted
import ScriptQuote.Proofs.Context.Doubling
import ScriptQuote.Proofs.Text.Runs

/-!
# Texts that are written

A reader takes more than its writer makes: pairs of different quotes, letters of
a table, numbers in braces, and characters that should have been escaped and
were not.  This module says which texts are made by a writer at all.  They are
the ones that come back as they were when what they read as is written again.

There are two groups.

* Single-quoted strings and format strings.  `reescape_iff_evenRuns` describes
  them by the lengths of runs: one quote next to another one that is different
  reads as a pair, but nothing writes it.
* Double-quoted strings.  `WrittenUnit` has one case for each kind of piece that
  is written, and `exists_escape_eq_iff` says that the written texts are the
  sequences of those.  The table and the numbers in braces have no piece, so an
  escaped escape before `u` and a brace is three pieces and no number.
-/

namespace ScriptQuote

open Text (EvenRuns)

/-! ## Single-quoted strings and format strings -/

/-- A single-quoted string is what is written for its reading, or for any value
at all, exactly if each run of one and the same quote in it has even length.
For a format string the same holds of curly brackets. -/
theorem reescape_iff_evenRuns :
    (∀ (d : Dialect) (w : Text),
      (SingleQuoted.escape d (SingleQuoted.unescape d w) = w ↔
        EvenRuns d.isSingleQuote w) ∧
        ((∃ v, SingleQuoted.escape d v = w) ↔ EvenRuns d.isSingleQuote w)) ∧
    ∀ w : Text,
      (FormatString.escape (FormatString.unescape w) = w ↔
        EvenRuns Dialect.isCurlyBracket w) ∧
        ((∃ v, FormatString.escape v = w) ↔ EvenRuns Dialect.isCurlyBracket w) := by
  constructor
  · intro d w
    rw [SingleQuoted.unescape_eq_collapsed]
    exact Text.evenRuns_iff (SingleQuoted.joins_areQuotes d)
  · intro w
    rw [FormatString.unescape_eq_collapsed]
    exact Text.evenRuns_iff FormatString.joins_areSameBracket

/-- Two runs of one quote each.  They read as one quote, and that is written as
a run of two. -/
example : SingleQuoted.unescape .powerShell "\x27’" = "\x27" ∧
    SingleQuoted.escape .powerShell "\x27" = "\x27\x27" := by decide

/-! ## Double-quoted strings -/

namespace DoubleQuoted

open Dialect (powerShell)

variable {d : Dialect} {e s : CodePoint} {u v w : Text}

/-- A piece of a double-quoted string as it is written: the escape with the
escape or the sigil behind it, a double quote twice, or one code point that is
none of these. -/
inductive WrittenUnit (d : Dialect) : Text → Prop
  | escaped {a c : CodePoint} (ha : d.isEscape a = true)
      (hc : d.isEscape c = true ∨ d.isSigil c = true) : WrittenUnit d [a, c]
  | doubled {q : CodePoint} (hq : d.isDoubleQuote q = true) : WrittenUnit d [q, q]
  | plain {c : CodePoint} (hesc : d.isEscape c = false) (hsig : d.isSigil c = false)
      (hq : d.isDoubleQuote c = false) : WrittenUnit d [c]

/-- The text is a sequence of such pieces. -/
def IsWritten (d : Dialect) (w : Text) : Prop :=
  ∃ units : List Text, (∀ u ∈ units, WrittenUnit d u) ∧ units.flatten = w

/-- There is a piece for each code point, and there are no others. -/
theorem exists_emit_eq_iff (h : SigilApart d e s) :
    (∃ c, emit d c = u) ↔ WrittenUnit d u := by
  constructor
  · rintro ⟨c, rfl⟩
    rcases emit_cases h c with
      ⟨hemit, hc⟩ | ⟨⟨hce, hcs⟩, ⟨hemit, hq⟩ | ⟨hemit, hq⟩⟩ <;> rw [hemit]
    · refine .escaped (Dialect.isEscape_self h.escape_eq) ?_
      rwa [Dialect.isEscape_iff h.escape_eq, Dialect.isSigil_iff h.sigil_eq]
    · exact .doubled hq
    · exact .plain (Dialect.isEscape_eq_false h.escape_eq hce)
        (Dialect.isSigil_eq_false h.sigil_eq hcs) hq
  · intro hu
    cases hu with
    | @escaped a c ha hc =>
      rw [Dialect.isEscape_iff h.escape_eq] at ha
      rw [Dialect.isEscape_iff h.escape_eq, Dialect.isSigil_iff h.sigil_eq] at hc
      rcases emit_cases h c with ⟨hemit, -⟩ | ⟨⟨hce, hcs⟩, -⟩
      · exact ⟨c, ha ▸ hemit⟩
      · exact absurd hc (not_or.mpr ⟨hce, hcs⟩)
    | @doubled q hq =>
      refine ⟨q, ?_⟩
      have hqs : q ≠ s := by
        rintro rfl
        rw [h.not_quote] at hq
        cases hq
      rcases emit_cases h q with ⟨hemit, hq⟩ | ⟨-, ⟨hemit, -⟩ | ⟨-, hplain⟩⟩
      · -- The escape may be a double quote itself.
        rw [hemit, hq.resolve_right hqs]
      · exact hemit
      · rw [hq] at hplain
        cases hplain
    | @plain c hesc hsig hq =>
      refine ⟨c, ?_⟩
      rcases emit_cases h c with ⟨-, rfl | rfl⟩ | ⟨-, ⟨-, hquote⟩ | ⟨hemit, -⟩⟩
      · rw [Dialect.isEscape_self h.escape_eq] at hesc
        cases hesc
      · rw [Dialect.isSigil_self h.sigil_eq] at hsig
        cases hsig
      · rw [hq] at hquote
        cases hquote
      · exact hemit

/-- The texts that are written for some value are the sequences of pieces. -/
theorem exists_escape_eq_iff (h : SigilApart d e s) :
    (∃ v, escape d v = w) ↔ IsWritten d w := by
  simp only [IsWritten, ← exists_emit_eq_iff h]
  exact Text.exists_flatMap_eq_iff

/-- A text that is written reads as the value that it is written for. -/
theorem exists_unescape_eq_iff (h : Invertible d e s) :
    (∃ v, unescape d w = .ok v ∧ escape d v = w) ↔ ∃ v, escape d v = w := by
  constructor
  · rintro ⟨v, -, hv⟩
    exact ⟨v, hv⟩
  · rintro ⟨v, rfl⟩
    exact ⟨v, unescape_escape h v, rfl⟩

theorem invertible_powerShell : Invertible powerShell '\x60' '$' where
  escape_eq := rfl
  sigil_eq := rfl
  ne_escape := by decide
  not_quote := by decide
  escape_letter := by decide
  sigil_letter := by decide

/-- In the default dialect a text is written for some value exactly if it is a
sequence of pieces, and exactly if it can be read and what it reads as is
written as it was. -/
theorem isWritten_exact (w : Text) :
    ((∃ v, escape powerShell v = w) ↔ IsWritten powerShell w) ∧
      (IsWritten powerShell w ↔ ∃ v, unescape powerShell w = .ok v ∧
        escape powerShell v = w) := by
  have hwritten := exists_escape_eq_iff (w := w) invertible_powerShell.toSigilApart
  refine ⟨hwritten, ?_⟩
  rw [exists_unescape_eq_iff invertible_powerShell, hwritten]

/-- An escaped escape in front of what would be a number in braces, and a sigil
that is escaped. -/
theorem isWritten_exact_escapedBraces :
    IsWritten powerShell "\x60\x60u\x7b41\x7d\x60$" ∧
      ∃ v, unescape powerShell "\x60\x60u\x7b41\x7d\x60$" = .ok v ∧
        escape powerShell v = "\x60\x60u\x7b41\x7d\x60$" := by
  have hwritten : IsWritten powerShell "\x60\x60u\x7b41\x7d\x60$" :=
    (isWritten_exact _).1.mp ⟨"\x60u\x7b41\x7d$", by decide⟩
  exact ⟨hwritten, (isWritten_exact _).2.mp hwritten⟩

end DoubleQuoted

end ScriptQuote
