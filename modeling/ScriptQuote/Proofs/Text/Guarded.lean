import ScriptQuote.Text.Basic

/-!
# Escapes put before code points

`guarded p e t` is the text `t` with `e` before each code point that `p` picks.
Writers that put an escape before some code points are of this form, whether
they go through the text once or replace one code point after the other.

* `replaceAll_singleton` says that replacing a code point by itself with `e`
  before it is such a pass.
* `guarded_singleton_guarded` makes one pass of such a replacement and the pass
  before it, as long as the replacement meets neither an `e` nor anything that
  has one before it.
* `guarded_eq_self` and `not_picked_of_not_mem_guarded` say when a pass changes nothing.
-/

namespace ScriptQuote.Text

variable {p : CodePoint → Bool} {e c x : CodePoint} {t : Text}

/-- What becomes of one code point. -/
def guardPiece (p : CodePoint → Bool) (e c : CodePoint) : Text :=
  if p c then [e, c] else [c]

/-- Puts `e` before each code point that `p` picks. -/
def guarded (p : CodePoint → Bool) (e : CodePoint) (t : Text) : Text :=
  t.flatMap (guardPiece p e)

theorem guardPiece_cases (p : CodePoint → Bool) (e c : CodePoint) :
    guardPiece p e c = [e, c] ∧ p c = true ∨ guardPiece p e c = [c] ∧
      p c = false := by
  unfold guardPiece
  cases p c with
  | true => exact Or.inl ⟨rfl, rfl⟩
  | false => exact Or.inr ⟨rfl, rfl⟩

theorem guardPiece_ne_nil (p : CodePoint → Bool) (e c : CodePoint) :
    guardPiece p e c ≠ [] := by
  rcases guardPiece_cases p e c with ⟨hguard, -⟩ | ⟨hguard, -⟩ <;> rw [hguard] <;>
    exact List.cons_ne_nil _ _

theorem guarded_cons (c : CodePoint) (t : Text) :
    guarded p e (c :: t) = guardPiece p e c ++ guarded p e t :=
  List.flatMap_cons

/-! ## Passes that change nothing -/

theorem guarded_eq_self (h : ∀ c ∈ t, p c = false) : guarded p e t = t := by
  induction t with
  | nil => rfl
  | cons c t ih =>
    obtain ⟨hc, ht⟩ := List.forall_mem_cons.mp h
    rw [guarded_cons, ih ht, guardPiece, hc]
    rfl

theorem not_picked_of_not_mem_guarded (h : e ∉ guarded p e t) :
    ∀ c ∈ t, p c = false := by
  intro c hc
  rcases guardPiece_cases p e c with ⟨hguard, -⟩ | ⟨-, hplain⟩
  · refine absurd (List.mem_flatMap.mpr ⟨c, hc, ?_⟩) h
    rw [hguard]
    exact List.mem_cons_self
  · exact hplain

/-! ## Passes that are replacements -/

/-- Replacing a code point by itself with `e` before it is a pass that picks
this code point. -/
theorem replaceAll_singleton (t : Text) (x e : CodePoint) :
    replaceAll t [x] [e, x] = guarded (· == x) e t := by
  show replaceFrom [x] [e, x] 0 t = guarded (· == x) e t
  induction t with
  | nil => rfl
  | cons c t ih =>
    rw [replaceFrom, guarded_cons, guardPiece]
    by_cases hc : c = x
    · subst x
      rw [if_pos (by simp), if_pos (beq_self_eq_true c)]
      exact congrArg ([e, c] ++ ·) ih
    · rw [if_neg (by simpa using fun h : x = c => hc h.symm),
        if_neg (by simpa using hc)]
      exact congrArg (c :: ·) ih

/-- A further pass that picks `x` can be made together with the one before, if
that has not written `x` as an escape and has not picked it. -/
theorem guarded_singleton_guarded (hx : x ≠ e) (hp : p x = false) (t : Text) :
    guarded (· == x) e (guarded p e t) = guarded (fun c => p c || c == x) e t := by
  have hpiece : ∀ c, guarded (· == x) e (guardPiece p e c) =
      guardPiece (fun c => p c || c == x) e c := by
    intro c
    rcases guardPiece_cases p e c with ⟨hguard, hc⟩ | ⟨hguard, hc⟩ <;> rw [hguard]
    · have hcx : c ≠ x := by
        rintro rfl
        rw [hp] at hc
        cases hc
      simp [guarded, guardPiece, hc, hcx, hx.symm]
    · simp [guarded, guardPiece, hc]
  rw [guarded, guarded, List.flatMap_assoc, guarded]
  exact congrArg t.flatMap (funext hpiece)

end ScriptQuote.Text
