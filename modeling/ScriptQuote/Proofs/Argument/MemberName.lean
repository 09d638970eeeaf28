import ScriptQuote.Argument.MemberName
import ScriptQuote.Proofs.Argument.RoundTrip

/-!
# Member names read back

The name of a member is an identifier as it stands or any text between straight
single quotes.  The reader does not look for an identifier: it takes the
fragment for a quoted one if both ends are single quotes of the dialect.  So two
things can go wrong, and `unquote_quote_iff` says that nothing else can.

* The straight quote that the writer puts may be no quote of the dialect.  A blank
  (`unquote_quote_blank_ne`) then keeps its quotes.
* A quote of the dialect may open an identifier.  Twice that character is then
  an identifier, which the reader takes for an empty name between quotes
  (`unquote_quote_twice_ne`).
-/

namespace ScriptQuote.MemberName

open Argument (body? body?_enclosed body?_eq_none)
open Dialect (isIdentifierStart isIdentifierFollow powerShell)

variable {d : Dialect} {c : CodePoint} {v : Text}

/-! ## What is written -/

theorem isIdentifierFollow_of_isIdentifierStart (h : isIdentifierStart c = true) :
    isIdentifierFollow c = true := by
  unfold isIdentifierStart at h
  unfold isIdentifierFollow
  split_ifs at h ⊢ <;> simp [h]

theorem quote_of_isPlain (h : isPlain v = true) : quote d v = v := by
  unfold quote
  split_ifs with hv
  · exact (List.isEmpty_iff.mp hv).symm
  · rfl

theorem quote_of_not_isPlain (hv : v ≠ []) (h : isPlain v = false) :
    quote d v = SingleQuoted.enclose d v := by
  simp [quote, hv, h]

/-! ## What is read -/

/-- A name between single quotes is read off, whatever it is. -/
theorem unquote_enclose (hquote : d.isSingleQuote '\x27' = true) (v : Text) :
    unquote d (SingleQuoted.enclose d v) = v := by
  have hbody : body? d.isSingleQuote (SingleQuoted.enclose d v) =
      some (SingleQuoted.escape d v) := by
    simpa [SingleQuoted.enclose] using body?_enclosed hquote (SingleQuoted.escape d v)
  rw [unquote, hbody]
  exact SingleQuoted.unescape_escape d v

/-- A fragment that does not open with a single quote is the name itself. -/
theorem unquote_of_head (h : ∀ a ∈ v.head?, d.isSingleQuote a = false) :
    unquote d v = v := by
  rw [unquote, body?_eq_none h]

/-! ## Which dialects give every name back -/

theorem unquote_quote_name (hquote : d.isSingleQuote '\x27' = true)
    (hstart : ∀ c ∈ d.singleQuotes, isIdentifierStart c = false) (v : Text) :
    unquote d (quote d v) = v := by
  by_cases hv : v = []
  · subst v
    rfl
  cases hplain : isPlain v with
  | false =>
    rw [quote_of_not_isPlain hv hplain]
    exact unquote_enclose hquote v
  | true =>
    rw [quote_of_isPlain hplain]
    apply unquote_of_head
    intro a ha
    obtain ⟨rest, rfl⟩ := List.head?_eq_some_iff.mp ha
    -- The name opens like an identifier, and no quote does.
    have hopen : isIdentifierStart a = true := by
      simp only [isPlain, Bool.and_eq_true] at hplain
      exact hplain.1
    rw [Dialect.isSingleQuote, Bool.eq_false_iff]
    intro hmem
    have hnot := hstart a (List.contains_iff_mem.mp hmem)
    rw [hopen] at hnot
    cases hnot

/-- If the straight quote is none of the dialect, a blank keeps the quotes that
it is put in. -/
theorem unquote_quote_blank_ne (h : d.isSingleQuote '\x27' = false) :
    unquote d (quote d " ") ≠ " " := by
  have hquoted : quote d " " = SingleQuoted.enclose d " " :=
    quote_of_not_isPlain (by decide) (by decide)
  rw [hquoted, unquote_of_head]
  · intro hsame
    have hlength := congrArg List.length hsame
    simp [SingleQuoted.enclose, Text.ofString] at hlength
  · intro a ha
    have hopen : CodePoint.ofChar '\x27' = a := by
      simpa [SingleQuoted.enclose] using ha
    rw [← hopen, h]

/-- A quote that opens an identifier is one itself when it stands there twice,
and reads as no name. -/
theorem unquote_quote_twice_ne (hquote : d.isSingleQuote c = true)
    (hstart : isIdentifierStart c = true) : unquote d (quote d [c, c]) ≠ [c, c] := by
  have hplain : isPlain [c, c] = true := by
    simp [isPlain, hstart, isIdentifierFollow_of_isIdentifierStart hstart]
  have hbody : body? d.isSingleQuote [c, c] = some [] := body?_enclosed hquote []
  rw [quote_of_isPlain hplain, unquote, hbody]
  simp [SingleQuoted.unescape]

/-- Every name comes back exactly if the straight quote is a single quote of the
dialect and no single quote opens an identifier.  In PowerShell this is so. -/
theorem unquote_quote_iff :
    (∀ d : Dialect, (∀ v : Text, unquote d (quote d v) = v) ↔
      CodePoint.ofChar '\x27' ∈ d.singleQuotes ∧
        ∀ c ∈ d.singleQuotes, isIdentifierStart c = false) ∧
    (CodePoint.ofChar '\x27' ∈ powerShell.singleQuotes ∧
      ∀ c ∈ powerShell.singleQuotes, isIdentifierStart c = false) := by
  refine ⟨?_, by decide, by decide +kernel⟩
  intro d
  constructor
  · intro h
    constructor
    · apply List.contains_iff_mem.mp
      cases hquote : d.singleQuotes.contains (CodePoint.ofChar '\x27') with
      | true => rfl
      | false => exact absurd (h " ") (unquote_quote_blank_ne hquote)
    · intro c hc
      rw [Bool.eq_false_iff]
      intro hstart
      exact unquote_quote_twice_ne (List.contains_iff_mem.mpr hc) hstart (h [c, c])
  · intro h
    obtain ⟨hquote, hstart⟩ := h
    exact unquote_quote_name (List.contains_iff_mem.mpr hquote) hstart

/-- PowerShell gives a name back that looks quoted already.  If a letter were a
quote, it would not give every name back. -/
theorem unquote_quote_iff_letterQuote :
    unquote powerShell (quote powerShell "\x27it’s\x27") = "\x27it’s\x27" ∧
      ¬ ∀ v : Text, unquote (powerShell.set .singleQuotes ['\x27', 's'])
        (quote (powerShell.set .singleQuotes ['\x27', 's']) v) = v :=
  ⟨(unquote_quote_iff.1 powerShell).mpr unquote_quote_iff.2 "\x27it’s\x27",
    fun h => absurd (((unquote_quote_iff.1 _).mp h).2 's' (by decide)) (by decide)⟩

end ScriptQuote.MemberName
