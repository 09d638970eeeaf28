import ScriptQuote.Argument.Bareword
import Mathlib.Tactic.SplitIfs

/-!
# What is not in a bareword

A text that breaks no rule has passed the scan at each of its code points, so it
holds nothing that the scan stops at.  `isQuote_eq_false_of_violation` is the
part of this that tells a bareword from a quoted argument, and
`isEscape_eq_false_of_violation` the part that tells it from a pattern with
something escaped in it.
-/

namespace ScriptQuote.Bareword

variable {d : Dialect} {afterSigil : Bool} {c : CodePoint} {v : Text}

theorem ruleAt_eq_none_iff : ruleAt d afterSigil c = none ↔
    d.forcesNewToken c = false ∧ d.isQuote c = false ∧ d.isEscape c = false ∧
      (afterSigil && d.isVariableStart c) = false := by
  unfold ruleAt
  cases d.forcesNewToken c <;> cases d.isQuote c <;> cases d.isEscape c <;>
    cases afterSigil && d.isVariableStart c <;> simp

theorem scan_cons_eq_none_iff : scan d afterSigil (c :: v) = none ↔
    ruleAt d afterSigil c = none ∧ scan d (d.isSigil c) v = none := by
  rw [scan, Option.or_eq_none_iff]

/-- A scan that comes to the end has found no rule broken on the way. -/
theorem exists_ruleAt_eq_none (h : scan d afterSigil v = none) :
    ∀ c ∈ v, ∃ s, ruleAt d s c = none := by
  induction v generalizing afterSigil with
  | nil => exact fun c hc => absurd hc List.not_mem_nil
  | cons a v ih =>
    obtain ⟨ha, hv⟩ := scan_cons_eq_none_iff.mp h
    intro c hc
    rcases List.mem_cons.mp hc with rfl | hc
    · exact ⟨afterSigil, ha⟩
    · exact ih hv c hc

theorem violation_cons (d : Dialect) (c : CodePoint) (v : Text) :
    violation d (c :: v) =
      if d.barewordFirst.contains c then some .firstChar
      else if opensRedirection d (c :: v) then some .redirection
      else scan d false (c :: v) := rfl

theorem scan_of_violation_eq_none (h : violation d v = none) :
    scan d false v = none := by
  cases v with
  | nil => rfl
  | cons a v =>
    rw [violation_cons] at h
    split_ifs at h
    exact h

/-- There is no quote in a bareword. -/
theorem isQuote_eq_false_of_violation (h : violation d v = none) :
    ∀ c ∈ v, d.isQuote c = false := by
  intro c hc
  obtain ⟨_, hrule⟩ := exists_ruleAt_eq_none (scan_of_violation_eq_none h) c hc
  exact (ruleAt_eq_none_iff.mp hrule).2.1

/-- There is no escape in a bareword. -/
theorem isEscape_eq_false_of_violation (h : violation d v = none) :
    ∀ c ∈ v, d.isEscape c = false := by
  intro c hc
  obtain ⟨_, hrule⟩ := exists_ruleAt_eq_none (scan_of_violation_eq_none h) c hc
  exact (ruleAt_eq_none_iff.mp hrule).2.2.1

end ScriptQuote.Bareword
