import ScriptQuote.Proofs.Argument.Decision
import ScriptQuote.Proofs.Argument.FirstRule

/-!
# The rules and the pattern of a value

Whether an argument stays bare is decided on its pattern, where wildcard
characters and escapes have an escape before them.  An escape breaks a rule
wherever it stands, so a pattern is a bareword only if nothing was escaped in
it, and then it is the value itself (`violation_escape_eq_none_iff`).  So the
fragment is the value exactly if the value is a bareword with no wildcard in it.

The pattern may break another rule than the value, since the escape comes
between a sigil and the wildcard behind it, and before everything that follows.
`EscapeApart` is what a dialect must be like for this to be the only change: the
scan of the pattern then stops where the scan of the value stops, or earlier, at
the escape of a wildcard (`scan_escape_cases`).
-/

namespace ScriptQuote

open Text (guardPiece_cases guarded_cons)
open Wildcard (isMeta isSpecial escape_eq_guarded)

namespace Bareword

variable {d : Dialect} {e c : CodePoint} {v : Text}

/-! ## Patterns that are barewords -/

theorem ne_escape_of_violation (he : d.escape = [e]) (h : violation d v = none) :
    ∀ c ∈ v, c ≠ e := by
  rintro c hc rfl
  have hescape := isEscape_eq_false_of_violation h c hc
  rw [Dialect.isEscape_self he] at hescape
  cases hescape

/-- A bareword with no wildcard in it is its own pattern. -/
theorem escape_eq_self_of_violation (he : d.escape = [e]) (h : violation d v = none)
    (hmeta : ∀ c ∈ v, isMeta c = false) : Wildcard.escape [e] v = v := by
  rw [escape_eq_guarded]
  apply Text.guarded_eq_self
  intro c hc
  exact Wildcard.isSpecial_eq_false_iff.mpr ⟨hmeta c hc,
    ne_escape_of_violation he h c hc⟩

/-- A pattern is a bareword exactly if its value is one and has no wildcard in it. -/
theorem violation_escape_eq_none_iff (he : d.escape = [e]) :
    violation d (Wildcard.escape [e] v) = none ↔
      violation d v = none ∧ ∀ c ∈ v, isMeta c = false := by
  constructor
  · intro h
    have hplain : ∀ c ∈ v, isSpecial e c = false := by
      apply Text.not_picked_of_not_mem_guarded
      rw [← escape_eq_guarded]
      exact fun hmem => ne_escape_of_violation he h e hmem rfl
    rw [escape_eq_guarded, Text.guarded_eq_self hplain] at h
    exact ⟨h, fun c hc => (Wildcard.isSpecial_eq_false_iff.mp (hplain c hc)).1⟩
  · intro h
    obtain ⟨hvalue, hmeta⟩ := h
    rw [escape_eq_self_of_violation he hvalue hmeta]
    exact hvalue

/-! ## The rule of a pattern -/

/-- The escape breaks no rule but its own, and neither it nor a wildcard
character has a part in the rules about the opening. -/
structure EscapeApart (d : Dialect) (e : CodePoint) : Prop where
  escape_eq : d.escape = [e]
  forcesNewToken : d.forcesNewToken e = false
  isQuote : d.isQuote e = false
  opening : ∀ c, isSpecial e c = true →
    c ∉ d.barewordFirst ∧ c ∉ d.redirectDigits ∧ [c] ≠ d.redirectMarker

theorem EscapeApart.ruleAt (h : EscapeApart d e) (afterSigil : Bool) :
    ruleAt d afterSigil e = some .escape := by
  rw [Bareword.ruleAt, h.forcesNewToken, h.isQuote, Dialect.isEscape_self h.escape_eq]
  rfl

/-- A scan of the pattern finds what a scan of the value finds, or stops before
that at a wildcard. -/
theorem scan_escape_cases (h : EscapeApart d e) (afterSigil : Bool) (v : Text) :
    scan d afterSigil (Wildcard.escape [e] v) = scan d afterSigil v ∨
      scan d afterSigil (Wildcard.escape [e] v) = some .escape ∧
        ∃ c ∈ v, isMeta c = true := by
  rw [escape_eq_guarded]
  induction v generalizing afterSigil with
  | nil => exact Or.inl rfl
  | cons c v ih =>
    rw [guarded_cons]
    rcases guardPiece_cases (isSpecial e) e c with
      ⟨hguard, hc⟩ | ⟨hguard, -⟩ <;> rw [hguard]
    · have hstop : ∀ tail, scan d afterSigil (e :: tail) = some .escape := by
        intro tail
        rw [scan, h.ruleAt, Option.some_or]
      rcases Wildcard.isSpecial_iff.mp hc with hmeta | rfl
      · exact Or.inr ⟨hstop _, c, List.mem_cons_self, hmeta⟩
      · exact Or.inl ((hstop _).trans (hstop v).symm)
    · rw [List.singleton_append, scan, scan]
      cases ruleAt d afterSigil c with
      | some r => exact Or.inl rfl
      | none =>
        rw [Option.none_or, Option.none_or]
        rcases ih (d.isSigil c) with heq | ⟨hscan, a, ha, hmeta⟩
        · exact Or.inl heq
        · exact Or.inr ⟨hscan, a, List.mem_cons_of_mem c ha, hmeta⟩

theorem opensForbidden_escape_iff (h : EscapeApart d e) :
    OpensForbidden d (Wildcard.escape [e] v) ↔ OpensForbidden d v := by
  rw [escape_eq_guarded]
  cases v with
  | nil => rfl
  | cons c v =>
    rw [guarded_cons]
    rcases guardPiece_cases (isSpecial e) e c with
      ⟨hguard, hc⟩ | ⟨hguard, -⟩ <;> rw [hguard]
    · have he := h.opening e (Wildcard.isSpecial_self e)
      simp [OpensForbidden, he.1, (h.opening c hc).1]
    · simp [OpensForbidden]

theorem opensRedirection_escape_iff (h : EscapeApart d e) :
    OpensRedirection d (Wildcard.escape [e] v) ↔ OpensRedirection d v := by
  have he := h.opening e (Wildcard.isSpecial_self e)
  rw [escape_eq_guarded]
  match v with
  | [] => rfl
  | [c] =>
    rw [guarded_cons]
    rcases guardPiece_cases (isSpecial e) e c with
      ⟨hguard, hc⟩ | ⟨hguard, -⟩ <;> rw [hguard]
    · simp [OpensRedirection, he.2.1]
    · simp [OpensRedirection, Text.guarded]
  | c :: m :: v =>
    rw [guarded_cons, guarded_cons]
    rcases guardPiece_cases (isSpecial e) e c with
      ⟨hguard, hc⟩ | ⟨hguard, -⟩ <;> rw [hguard]
    · simp [OpensRedirection, he.2.1, (h.opening c hc).2.1]
    · rcases guardPiece_cases (isSpecial e) e m with
        ⟨hguard, hm⟩ | ⟨hguard, -⟩ <;> rw [hguard]
      · simp [OpensRedirection, he.2.2, (h.opening m hm).2.2]
      · simp [OpensRedirection]

/-- A rule about the opening is broken by the pattern and by the value alike. -/
theorem violation_escape_of_opens (h : EscapeApart d e)
    (hopens : OpensForbidden d v ∨ OpensRedirection d v) :
    violation d (Wildcard.escape [e] v) = violation d v := by
  by_cases hfirst : OpensForbidden d v
  · rw [violation_of_opensForbidden hfirst,
      violation_of_opensForbidden ((opensForbidden_escape_iff h).mpr hfirst)]
  · have hredirection := hopens.resolve_left hfirst
    rw [violation_of_opensRedirection hfirst hredirection,
      violation_of_opensRedirection (mt (opensForbidden_escape_iff h).mp hfirst)
        ((opensRedirection_escape_iff h).mpr hredirection)]

/-- Where the pattern breaks another rule than the value, it breaks the one
about escapes, there is a wildcard, and the opening has nothing to do with
it. -/
theorem violation_escape_of_ne (h : EscapeApart d e)
    (hne : violation d (Wildcard.escape [e] v) ≠ violation d v) :
    violation d (Wildcard.escape [e] v) = some .escape ∧ (∃ c ∈ v, isMeta c = true) ∧
      violation d v ≠ some .firstChar ∧ violation d v ≠ some .redirection := by
  obtain ⟨hfirst, hredirection⟩ := not_or.mp (mt (violation_escape_of_opens h) hne)
  have hvalue := violation_of_not_opens hfirst hredirection
  have hpattern := violation_of_not_opens (mt (opensForbidden_escape_iff h).mp hfirst)
    (mt (opensRedirection_escape_iff h).mp hredirection)
  rw [hpattern, hvalue] at hne ⊢
  obtain ⟨hscan, hmeta⟩ := (scan_escape_cases h false v).resolve_left hne
  exact ⟨hscan, hmeta, scan_ne_opening d v⟩

theorem escapeApart_powerShell : EscapeApart .powerShell '\x60' where
  escape_eq := rfl
  forcesNewToken := by decide
  isQuote := by decide
  opening c hc := by
    have hmem : c ∈ (['*', '?', '[', ']', '\x60'] : Text) := by
      simpa [isSpecial, isMeta, or_assoc] using hc
    have hall : ∀ c ∈ (['*', '?', '[', ']', '\x60'] : Text),
        c ∉ Dialect.powerShell.barewordFirst ∧ c ∉ Dialect.powerShell.redirectDigits ∧
          [c] ≠ Dialect.powerShell.redirectMarker := by decide
    exact hall c hmem

end Bareword

namespace Argument

open Bareword (violation)

variable {d : Dialect} {e : CodePoint} {asked : Option Text} {v : Text}

/-- A literal argument is written as its value exactly if the value is a bareword. -/
theorem quote_literal_eq_self_iff (hauto : isAuto asked = true) :
    quote d v asked true = v ↔ violation d v = none :=
  quote_eq_pattern_iff hauto

/-- An argument that is not literal is written as its value exactly if, besides,
there is no wildcard in the value. -/
theorem quote_pattern_eq_self_iff (he : d.escape = [e])
    (hauto : isAuto asked = true) :
    quote d v asked false = v ↔ violation d v = none ∧ ∀ c ∈ v, isMeta c = false := by
  have hpattern : pattern d false v = Wildcard.escape [e] v := by
    rw [← he]
    rfl
  constructor
  · intro hself
    rw [← Bareword.violation_escape_eq_none_iff he, ← hpattern]
    cases hr : violation d (pattern d false v) with
    | none => rfl
    | some r =>
      -- Quotes make the fragment longer than the pattern, which is no shorter
      -- than the value.
      have hquotes : (pattern d false v).length < v.length := by
        rw [← congrArg List.length hself, quote_of_violation_eq_some hauto hr]
        exact length_lt_length_wrap d (List.cons_ne_nil _ _) _
      have hescapes :=
        Text.length_le_length_flatMap (Text.guardPiece_ne_nil (isSpecial e) e) v
      rw [hpattern, escape_eq_guarded] at hquotes
      exact absurd hquotes (Nat.not_lt.mpr hescapes)
  · intro h
    obtain ⟨hvalue, hmeta⟩ := h
    have hself := Bareword.escape_eq_self_of_violation he hvalue hmeta
    rw [← hpattern] at hself
    rw [quote_of_violation_eq_none hauto (by rwa [hself]), hself]

/-- With the quote left open, an argument is written as its value exactly if the
value is a bareword and, unless the argument is literal, has no wildcard in it;
and that is when its pattern is a bareword.  In PowerShell the pattern breaks
another rule than the value only where it breaks the one about escapes for a
wildcard, and never instead of a rule about the opening. -/
theorem quote_eq_self_iff :
    (∀ {d : Dialect} {e : CodePoint}, d.escape = [e] →
      ∀ {asked : Option Text}, isAuto asked = true → ∀ v,
        (quote d v asked true = v ↔ violation d v = none) ∧
        (quote d v asked false = v ↔ violation d v = none ∧
          ∀ c ∈ v, isMeta c = false) ∧
        (violation d (Wildcard.escape d.escape v) = none ↔
          violation d v = none ∧ ∀ c ∈ v, isMeta c = false)) ∧
    ∀ v, violation .powerShell (Wildcard.escape Dialect.powerShell.escape v) ≠
        violation .powerShell v →
      violation .powerShell (Wildcard.escape Dialect.powerShell.escape v) =
        some .escape ∧
        (∃ c ∈ v, isMeta c = true) ∧
        violation .powerShell v ≠ some .firstChar ∧
          violation .powerShell v ≠ some .redirection := by
  constructor
  · intro d e he asked hauto v
    refine ⟨quote_literal_eq_self_iff hauto, quote_pattern_eq_self_iff he hauto, ?_⟩
    rw [he]
    exact Bareword.violation_escape_eq_none_iff he
  · intro v hne
    exact Bareword.violation_escape_of_ne Bareword.escapeApart_powerShell hne

/-- Where the escape is itself a wildcard, a value with backticks and a dollar
sign stays as it is.  In PowerShell the escape comes between a dollar sign and
the question mark behind it. -/
theorem quote_eq_self_iff_wildcardEscape :
    (Dialect.powerShell.set .escape ['*']).escape = (['*'] : Text) ∧
      isAuto (some []) = true ∧
      quote (Dialect.powerShell.set .escape ['*']) "\x60a$=1" (some []) false =
        "\x60a$=1" ∧
      violation .powerShell "$?" = some .variableStart ∧
      violation .powerShell (Wildcard.escape Dialect.powerShell.escape "$?") =
        some .escape :=
  ⟨rfl, rfl, ((quote_eq_self_iff.1 rfl rfl "\x60a$=1").2.1).mpr (by decide),
    by decide, (quote_eq_self_iff.2 "$?" (by decide)).1⟩

end Argument

end ScriptQuote
