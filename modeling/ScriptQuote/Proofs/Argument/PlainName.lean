import ScriptQuote.Proofs.Argument.MemberName
import ScriptQuote.Proofs.Argument.PatternRule

/-!
# Plain names as arguments

A member name that needs no quotes is also a command argument that needs none.
The two are decided apart: an identifier by what may open it and go on in it, an
argument by six rules and the wildcard characters.  They agree because no
character of an identifier has a part in the rules.

There are three groups.

* Categories.  Letters and decimal digits share no code point with the
  separators.  Each category is a table of ranges, so `RangeTable.Apart`
  compares them range by range, and `isBreakingSeparator_eq_false` is what comes
  of it beyond ASCII.
* Dialects.  `NamesApart` says of a dialect that identifiers have no part in its
  rules.  It is about the texts of the dialect alone and can be checked for
  each; `namesApart_powerShell` does so.
* Names.  In such a dialect an identifier breaks no rule
  (`violation_of_isPlain`).  With no wildcard in it, it is its own pattern, and
  that is what is written.
-/

namespace ScriptQuote

/-! ## Categories -/

namespace Unicode

/-- The two tables have no number in common: of any two ranges, one ends before
the other starts. -/
def RangeTable.Apart (s t : RangeTable) : Prop :=
  ∀ r ∈ s, ∀ q ∈ t, r.2 < q.1 ∨ q.2 < r.1

theorem RangeTable.Apart.contains_eq_false {s t : RangeTable} {n : Nat}
    (h : s.Apart t) (hn : s.contains n = true) : t.contains n = false := by
  obtain ⟨r, hr, hlow, hhigh⟩ := contains_iff.mp hn
  rw [Bool.eq_false_iff]
  intro hmem
  obtain ⟨q, hq, hlow', hhigh'⟩ := contains_iff.mp hmem
  rcases h r hr q hq with hbefore | hbehind <;> omega

/-- The separators that end a token, as one table. -/
def breakingSeparators : RangeTable := (0x85, 0x85) :: separators

theorem apart_letters : letters.Apart breakingSeparators := by
  unfold RangeTable.Apart
  decide +kernel

theorem apart_decimalDigits : decimalDigits.Apart breakingSeparators := by
  unfold RangeTable.Apart
  decide +kernel

end Unicode

namespace Dialect

open Unicode (isLetter isDecimalDigit breakingSeparators)

variable {d : Dialect} {c : CodePoint}

theorem isBreakingSeparator_eq_contains (c : CodePoint) :
    isBreakingSeparator c = breakingSeparators.contains c.val := by
  have hline : (c.val == 0x85) = (Nat.ble 0x85 c.val && Nat.ble c.val 0x85) := by
    rw [Bool.eq_iff_iff, Bool.and_eq_true, Nat.ble_eq, Nat.ble_eq, beq_iff_eq]
    omega
  rw [isBreakingSeparator, hline]
  rfl

/-- Beyond ASCII an identifier is made of letters and digits, and these do not
separate. -/
theorem isBreakingSeparator_eq_false (hascii : c.isAscii = false)
    (h : isIdentifierFollow c = true) : isBreakingSeparator c = false := by
  rw [isIdentifierFollow, hascii, if_neg Bool.false_ne_true, Bool.or_eq_true] at h
  rw [isBreakingSeparator_eq_contains]
  rcases h with hletter | hdigit
  · exact Unicode.apart_letters.contains_eq_false hletter
  · exact Unicode.apart_decimalDigits.contains_eq_false hdigit

/-! ## Dialects -/

/-- No character of an identifier has a part in the rules for barewords: what
goes on in one ends no token, is no quote, no escape and no sigil, and what
opens one may open a bareword and is no number of a stream. -/
structure NamesApart (d : Dialect) : Prop where
  tokenBreaks : ∀ c ∈ d.tokenBreaks, isIdentifierFollow c = false
  singleQuotes : ∀ c ∈ d.singleQuotes, isIdentifierFollow c = false
  doubleQuotes : ∀ c ∈ d.doubleQuotes, isIdentifierFollow c = false
  escape : ∀ c ∈ d.escape, isIdentifierFollow c = false
  sigil : ∀ c ∈ d.sigil, isIdentifierFollow c = false
  barewordFirst : ∀ c ∈ d.barewordFirst, isIdentifierStart c = false
  redirectDigits : ∀ c ∈ d.redirectDigits, isIdentifierStart c = false

theorem namesApart_powerShell : powerShell.NamesApart where
  tokenBreaks := by decide
  singleQuotes := by decide +kernel
  doubleQuotes := by decide +kernel
  escape := by decide
  sigil := by decide
  barewordFirst := by decide
  redirectDigits := by decide

/-- What a class rules out of a text is not in the text. -/
theorem contains_eq_false_of_class {p : CodePoint → Bool} {t : Text}
    (h : ∀ c ∈ t, p c = false) (hc : p c = true) : t.contains c = false := by
  rw [Bool.eq_false_iff]
  intro hmem
  rw [h c (List.contains_iff_mem.mp hmem)] at hc
  cases hc

theorem singleton_beq_eq_false_of_class {p : CodePoint → Bool} {t : Text}
    (h : ∀ c ∈ t, p c = false) (hc : p c = true) : ([c] == t) = false := by
  rw [beq_eq_false_iff_ne]
  rintro rfl
  rw [h c (List.mem_singleton_self c)] at hc
  cases hc

namespace NamesApart

theorem forcesNewToken_eq_false (h : d.NamesApart)
    (hc : isIdentifierFollow c = true) : d.forcesNewToken c = false := by
  rw [forcesNewToken, contains_eq_false_of_class h.tokenBreaks hc, Bool.false_or]
  cases hascii : c.isAscii with
  | true => rfl
  | false => rw [isBreakingSeparator_eq_false hascii hc, Bool.and_false]

theorem isQuote_eq_false (h : d.NamesApart) (hc : isIdentifierFollow c = true) :
    d.isQuote c = false := by
  rw [isQuote, isSingleQuote, isDoubleQuote,
    contains_eq_false_of_class h.singleQuotes hc,
    contains_eq_false_of_class h.doubleQuotes hc, Bool.or_false]

theorem isEscape_eq_false (h : d.NamesApart) (hc : isIdentifierFollow c = true) :
    d.isEscape c = false :=
  singleton_beq_eq_false_of_class h.escape hc

theorem isSigil_eq_false (h : d.NamesApart) (hc : isIdentifierFollow c = true) :
    d.isSigil c = false :=
  singleton_beq_eq_false_of_class h.sigil hc

/-- An identifier goes on without breaking a rule wherever its characters stand. -/
theorem ruleAt_eq_none (h : d.NamesApart) (hc : isIdentifierFollow c = true) :
    Bareword.ruleAt d false c = none :=
  Bareword.ruleAt_eq_none_iff.mpr
    ⟨h.forcesNewToken_eq_false hc, h.isQuote_eq_false hc, h.isEscape_eq_false hc, rfl⟩

end NamesApart

end Dialect

/-! ## Names -/

namespace MemberName

open Bareword (violation scan opensRedirection)
open Dialect (isIdentifierStart isIdentifierFollow powerShell)
open Wildcard (isMeta)

variable {d : Dialect} {v : Text}

/-- A name in quotes is longer than the name. -/
theorem enclose_ne_self (d : Dialect) (v : Text) : SingleQuoted.enclose d v ≠ v := by
  intro h
  have hlength := congrArg List.length h
  have hescape : v.length ≤ (SingleQuoted.escape d v).length :=
    Text.length_le_length_flatMap (SingleQuoted.emit_ne_nil d) v
  simp only [SingleQuoted.enclose, List.length_append,
    List.length_singleton] at hlength
  omega

/-- A name is written as it stands exactly if it is an identifier or empty. -/
theorem quote_eq_self_iff_isPlain : quote d v = v ↔ v = [] ∨ isPlain v = true := by
  constructor
  · intro h
    by_cases hv : v = []
    · exact Or.inl hv
    · cases hplain : isPlain v with
      | true => exact Or.inr rfl
      | false =>
        rw [quote_of_not_isPlain hv hplain] at h
        exact absurd h (enclose_ne_self d v)
  · rintro (rfl | hplain)
    · rfl
    · exact quote_of_isPlain hplain

theorem isIdentifierFollow_of_isPlain (h : isPlain v = true) :
    ∀ c ∈ v, isIdentifierFollow c = true := by
  cases v with
  | nil => cases h
  | cons c rest =>
    rw [isPlain, Bool.and_eq_true] at h
    obtain ⟨hstart, hrest⟩ := h
    exact List.forall_mem_cons.mpr
      ⟨isIdentifierFollow_of_isIdentifierStart hstart, List.all_eq_true.mp hrest⟩

/-- The scan goes through a name without a stop, since the sigil is never behind it. -/
theorem scan_eq_none_of_follow (hd : d.NamesApart)
    (h : ∀ c ∈ v, isIdentifierFollow c = true) : scan d false v = none := by
  induction v with
  | nil => rfl
  | cons c v ih =>
    obtain ⟨hc, hv⟩ := List.forall_mem_cons.mp h
    rw [Bareword.scan_cons_eq_none_iff, hd.isSigil_eq_false hc]
    exact ⟨hd.ruleAt_eq_none hc, ih hv⟩

/-- An identifier is a bareword. -/
theorem violation_of_isPlain (hd : d.NamesApart) (h : isPlain v = true) :
    violation d v = none := by
  cases v with
  | nil => rfl
  | cons c rest =>
    have hscan := scan_eq_none_of_follow hd (isIdentifierFollow_of_isPlain h)
    rw [isPlain, Bool.and_eq_true] at h
    have hfirst : d.barewordFirst.contains c = false :=
      Dialect.contains_eq_false_of_class hd.barewordFirst h.1
    have hdigit : d.redirectDigits.contains c = false :=
      Dialect.contains_eq_false_of_class hd.redirectDigits h.1
    have hredirection : opensRedirection d (c :: rest) = false := by
      cases rest with
      | nil => rfl
      | cons m rest => rw [opensRedirection, hdigit, Bool.false_and]
    rw [Bareword.violation_cons, hfirst, hredirection]
    exact hscan

/-- There is no wildcard in an identifier. -/
theorem isMeta_eq_false_of_isPlain (h : isPlain v = true) :
    ∀ c ∈ v, isMeta c = false := by
  intro c hc
  have hfollow := isIdentifierFollow_of_isPlain h c hc
  rw [Bool.eq_false_iff]
  intro hmeta
  have hmem : c ∈ (['*', '?', '[', ']'] : Text) := by
    simpa [isMeta, or_assoc] using hmeta
  have hnone : ∀ a ∈ (['*', '?', '[', ']'] : Text),
      isIdentifierFollow a = false := by decide
  rw [hnone c hmem] at hfollow
  cases hfollow

/-- In PowerShell a member name that is written without quotes breaks no rule
for barewords and has no live wildcard in it.  As an argument whose quotes are
left open it is written as it stands, literal or not. -/
theorem stands_bare_of_quote_eq_self (v : Text) (h : quote powerShell v = v) :
    violation powerShell v = none ∧
      Wildcard.isLive powerShell.escape v = false ∧
      ∀ asked, Argument.isAuto asked = true → ∀ literal,
        Argument.quote powerShell v asked literal = v := by
  have hbare : violation powerShell v = none ∧ ∀ c ∈ v, isMeta c = false := by
    rcases quote_eq_self_iff_isPlain.mp h with rfl | hplain
    · exact ⟨rfl, fun c hc => absurd hc List.not_mem_nil⟩
    · exact ⟨violation_of_isPlain Dialect.namesApart_powerShell hplain,
        isMeta_eq_false_of_isPlain hplain⟩
  obtain ⟨hviolation, hmeta⟩ := hbare
  refine ⟨hviolation, ?_, ?_⟩
  · -- The name is its own pattern, and a pattern has no live wildcard.
    have hpattern :=
      Bareword.escape_eq_self_of_violation (e := '\x60') rfl hviolation hmeta
    have hlive := Wildcard.isLive_escape '\x60' v
    rwa [hpattern] at hlive
  · intro asked hauto literal
    cases literal with
    | true => exact (Argument.quote_literal_eq_self_iff hauto).mpr hviolation
    | false =>
      exact (Argument.quote_pattern_eq_self_iff rfl hauto).mpr
        ⟨hviolation, hmeta⟩

/-- A name with letters and digits of several scripts, and the dotless i that
ends it. -/
theorem stands_bare_of_quote_eq_self_scripts :
    quote powerShell "_Größe٣日ı" = "_Größe٣日ı" ∧
      Argument.quote powerShell "_Größe٣日ı" (some ['\x00']) false = "_Größe٣日ı" :=
  have hname : quote powerShell "_Größe٣日ı" = "_Größe٣日ı" :=
    quote_of_isPlain (by decide +kernel)
  ⟨hname, (stands_bare_of_quote_eq_self "_Größe٣日ı" hname).2.2 (some ['\x00'])
    (by decide) false⟩

end MemberName

end ScriptQuote
