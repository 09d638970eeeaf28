import ScriptQuote.Proofs.Argument.RoundTrip

/-!
# The choice between bare and quoted

With the quote left open, an argument is its pattern as it stands or its pattern
between straight single quotes, and the rules for barewords decide.  The
fragment shows which of the two it is: writers never shorten a text, so a text
between quotes is longer than the text itself (`length_lt_length_wrap`).  This
holds in every dialect, also where the straight quote is a double quote or the
escape is not one code point long.
-/

namespace ScriptQuote.Argument

variable {d : Dialect} {asked : Option Text} {v : Text} {literal : Bool}

theorem pattern_nil (d : Dialect) (literal : Bool) : pattern d literal [] = [] := by
  cases literal <;> rfl

/-- A text between quotes is longer than the text. -/
theorem length_lt_length_wrap (d : Dialect) {q : Text} (hq : q ≠ []) (w : Text) :
    w.length < (wrap d q w).length := by
  have hsingle : w.length ≤ (SingleQuoted.escape d w).length :=
    Text.length_le_length_flatMap (SingleQuoted.emit_ne_nil d) w
  have hdouble : w.length ≤ (DoubleQuoted.escape d w).length :=
    Text.length_le_length_flatMap (DoubleQuoted.emit_ne_nil d) w
  have hpos := List.length_pos_iff.mpr hq
  rw [wrap, List.length_append, List.length_append]
  split <;> omega

theorem wrap_ne_self (d : Dialect) {q : Text} (hq : q ≠ []) (w : Text) :
    wrap d q w ≠ w := by
  intro h
  have hlength := length_lt_length_wrap d hq w
  rw [h] at hlength
  exact Nat.lt_irrefl _ hlength

/-- A pattern that breaks no rule stands bare. -/
theorem quote_of_violation_eq_none (hauto : isAuto asked = true)
    (h : Bareword.violation d (pattern d literal v) = none) :
    quote d v asked literal = pattern d literal v := by
  by_cases hv : v = []
  · rw [hv, quote_nil, pattern_nil]
  · rw [quote_of_isAuto hauto hv, Bareword.requiresQuoting, h]
    rfl

/-- Any other one stands between straight single quotes. -/
theorem quote_of_violation_eq_some (hauto : isAuto asked = true) {r : Bareword.Rule}
    (h : Bareword.violation d (pattern d literal v) = some r) :
    quote d v asked literal = wrap d ['\x27'] (pattern d literal v) := by
  have hv : v ≠ [] := by
    intro hv
    rw [hv, pattern_nil] at h
    cases h
  rw [quote_of_isAuto hauto hv, Bareword.requiresQuoting, h]
  rfl

/-- The fragment is the pattern exactly if the pattern breaks no rule. -/
theorem quote_eq_pattern_iff (hauto : isAuto asked = true) :
    quote d v asked literal = pattern d literal v ↔
      Bareword.violation d (pattern d literal v) = none := by
  constructor
  · intro hbare
    cases h : Bareword.violation d (pattern d literal v) with
    | none => rfl
    | some r =>
      rw [quote_of_violation_eq_some hauto h] at hbare
      exact absurd hbare (wrap_ne_self d (List.cons_ne_nil _ _) _)
  · exact quote_of_violation_eq_none hauto

end ScriptQuote.Argument
