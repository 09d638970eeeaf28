import ScriptQuote.Proofs.Text.Doubled
import Mathlib.Algebra.Ring.Parity

/-!
# Runs of one code point

A text that was written by doubling has each picked code point an even number of
times in a row, and this is all there is to it.  A run is of one and the same
code point here, so two quotes that differ are two runs, however the reader
pairs them.

There are two groups.

* Runs at the front of a text.  `isRun_cons_of_ne` says what one more code point
  of another kind does to the runs of a text, and `IsRun.cons_cons` and
  `IsRun.of_cons_cons` what two more of the same do.
* Texts with even runs.  `doubled_collapsed` says that such a text is written
  for its own reading, and `evenRuns_doubled` that every written text is one.
-/

namespace ScriptQuote.Text

variable {p : CodePoint → Bool} {r : CodePoint → CodePoint → Bool}
  {a c : CodePoint} {t : Text} {n : Nat}

/-- Somewhere in the text `c` stands `n` times in a row, at least once, with no
further `c` next to that on either side. -/
def IsRun (t : Text) (c : CodePoint) (n : Nat) : Prop :=
  0 < n ∧ ∃ before after, t = before ++ List.replicate n c ++ after ∧
    c ∉ before.getLast? ∧ c ∉ after.head?

/-- Each run of a code point that `p` picks has even length. -/
def EvenRuns (p : CodePoint → Bool) (t : Text) : Prop :=
  ∀ c n, p c = true → IsRun t c n → Even n

/-! ## Runs at the front of a text -/

theorem not_isRun_nil : ¬ IsRun [] c n := by
  rintro ⟨hn, before, after, ht, -⟩
  have hlength := congrArg List.length ht
  simp only [List.length_nil, List.length_append, List.length_replicate] at hlength
  omega

/-- What stands before the last code point of a text does not change what the
last one is. -/
theorem not_mem_getLast?_cons (hne : a ≠ c) (h : c ∉ t.getLast?) :
    c ∉ (a :: t).getLast? := by
  cases t with
  | nil => simpa using hne
  | cons b t => rwa [List.getLast?_cons_cons]

theorem not_mem_getLast?_of_cons (h : c ∉ (a :: t).getLast?) : c ∉ t.getLast? := by
  cases t with
  | nil => simp
  | cons b t => rwa [List.getLast?_cons_cons] at h

/-- A run of `c` does not reach another code point at the front. -/
theorem isRun_cons_of_ne (hne : a ≠ c) : IsRun (a :: t) c n ↔ IsRun t c n := by
  constructor
  · rintro ⟨hn, before, after, ht, hbefore, hafter⟩
    cases before with
    | nil =>
      obtain ⟨m, rfl⟩ := Nat.exists_eq_add_one.mpr hn
      rw [List.nil_append, List.replicate_succ, List.cons_append] at ht
      exact absurd (List.cons.inj ht).1 hne
    | cons b before =>
      exact ⟨hn, before, after, (List.cons.inj ht).2,
        not_mem_getLast?_of_cons hbefore, hafter⟩
  · rintro ⟨hn, before, after, rfl, hbefore, hafter⟩
    exact ⟨hn, a :: before, after, rfl, not_mem_getLast?_cons hne hbefore, hafter⟩

/-- Two more `c` at the front make the first run longer by two, or leave a run
as it was. -/
theorem IsRun.cons_cons (h : IsRun t c n) :
    IsRun (c :: c :: t) c (n + 2) ∨ IsRun (c :: c :: t) c n := by
  obtain ⟨hn, before, after, rfl, hbefore, hafter⟩ := h
  cases before with
  | nil => exact Or.inl ⟨by omega, [], after, rfl, by simp, hafter⟩
  | cons b before =>
    refine Or.inr ⟨hn, c :: c :: b :: before, after, rfl, ?_, hafter⟩
    rwa [List.getLast?_cons_cons, List.getLast?_cons_cons]

/-- A run of `c` behind two more `c` at the front is those two and a run of `t`
behind them, if there is one, or a run of `t`. -/
theorem IsRun.of_cons_cons (h : IsRun (c :: c :: t) c n) :
    n = 2 ∨ (∃ m, n = m + 2 ∧ IsRun t c m) ∨ IsRun t c n := by
  obtain ⟨hn, before, after, ht, hbefore, hafter⟩ := h
  match before with
  | [] =>
    match n with
    | 1 =>
      -- One `c` alone is no run: the other one stands behind it.
      have htail : c :: t = after := (List.cons.inj ht).2
      exact absurd (htail ▸ rfl) hafter
    | 2 => exact Or.inl rfl
    | m + 3 =>
      have htail : t = List.replicate (m + 1) c ++ after :=
        (List.cons.inj (List.cons.inj ht).2).2
      exact Or.inr (Or.inl ⟨m + 1, rfl, by omega, [], after, htail, by simp, hafter⟩)
  | [b] =>
    have hb : c = b := (List.cons.inj ht).1
    exact absurd (hb ▸ rfl) hbefore
  | b :: b' :: before =>
    have htail : t = before ++ List.replicate n c ++ after :=
      (List.cons.inj (List.cons.inj ht).2).2
    exact Or.inr (Or.inr ⟨hn, before, after, htail,
      not_mem_getLast?_of_cons (not_mem_getLast?_of_cons hbefore), hafter⟩)

/-! ## Texts with even runs -/

theorem evenRuns_nil (p : CodePoint → Bool) : EvenRuns p [] :=
  fun _ _ _ h => absurd h not_isRun_nil

/-- A code point that is not picked makes no difference. -/
theorem evenRuns_cons (ha : p a = false) : EvenRuns p (a :: t) ↔ EvenRuns p t := by
  have hne : ∀ c, p c = true → a ≠ c := by
    rintro c hc rfl
    rw [ha] at hc
    cases hc
  constructor
  · intro h c n hc hrun
    exact h c n hc ((isRun_cons_of_ne (hne c hc)).mpr hrun)
  · intro h c n hc hrun
    exact h c n hc ((isRun_cons_of_ne (hne c hc)).mp hrun)

/-- Nor does one that stands there twice. -/
theorem evenRuns_cons_cons : EvenRuns p (c :: c :: t) ↔ EvenRuns p t := by
  constructor
  · intro h x n hx hrun
    by_cases hxc : c = x
    · subst x
      rcases hrun.cons_cons with hlonger | hsame
      · have heven := h c (n + 2) hx hlonger
        rwa [Nat.even_add, iff_true_right even_two] at heven
      · exact h c n hx hsame
    · exact h x n hx ((isRun_cons_of_ne hxc).mpr ((isRun_cons_of_ne hxc).mpr hrun))
  · intro h x n hx hrun
    by_cases hxc : c = x
    · subst x
      rcases hrun.of_cons_cons with rfl | ⟨m, rfl, hrest⟩ | hrest
      · exact even_two
      · exact (h c m hx hrest).add even_two
      · exact h c n hx hrest
    · exact h x n hx ((isRun_cons_of_ne hxc).mp ((isRun_cons_of_ne hxc).mp hrun))

/-- A picked code point at the front that is alone is a run of one. -/
theorem not_evenRuns_cons (hc : p c = true) (ht : c ∉ t.head?) :
    ¬ EvenRuns p (c :: t) := by
  intro h
  have hrun : IsRun (c :: t) c 1 := ⟨Nat.one_pos, [], t, rfl, by simp, ht⟩
  exact Nat.not_even_one (h c 1 hc hrun)

/-- A written text has even runs. -/
theorem evenRuns_doubled (p : CodePoint → Bool) (v : Text) :
    EvenRuns p (doubled p v) := by
  induction v with
  | nil => exact evenRuns_nil p
  | cons c v ih =>
    rw [doubled, List.flatMap_cons]
    rcases doublePiece_cases p c with ⟨hpiece, -⟩ | ⟨hpiece, hc⟩ <;> rw [hpiece]
    · exact evenRuns_cons_cons.mpr ih
    · exact (evenRuns_cons hc).mpr ih

/-- A text with even runs is what is written for its reading.  The reader may
join two picked code points that differ, but then the first of them is a run of
one. -/
theorem doubled_collapsed (hjoins : Joins p r) (h : EvenRuns p t) :
    doubled p (collapsed r t) = t := by
  fun_induction collapsed r t with
  | case1 => rfl
  | case2 c =>
    have hc : p c = false := by
      rw [Bool.eq_false_iff]
      exact fun hc => not_evenRuns_cons hc (by simp) h
    simp [doubled, doublePiece, hc]
  | case3 c n rest hjoined ih =>
    have hc := hjoins.picked c n hjoined
    have hn : c = n := by
      by_contra hne
      exact not_evenRuns_cons hc (by simpa using Ne.symm hne) h
    subst n
    rw [doubled, List.flatMap_cons, ← doubled, ih (evenRuns_cons_cons.mp h),
      doublePiece, hc]
    rfl
  | case4 c n rest hapart ih =>
    have hc : p c = false := by
      rw [Bool.eq_false_iff]
      intro hc
      refine not_evenRuns_cons hc ?_ h
      intro hn
      cases hn
      exact hapart (hjoins.self c hc)
    rw [doubled, List.flatMap_cons, ← doubled, ih ((evenRuns_cons hc).mp h),
      doublePiece, hc]
    rfl

/-- The texts with even runs are those that come back as they were, and those
that are written for any value at all. -/
theorem evenRuns_iff (hjoins : Joins p r) :
    (doubled p (collapsed r t) = t ↔ EvenRuns p t) ∧
      ((∃ v, doubled p v = t) ↔ EvenRuns p t) := by
  refine ⟨⟨?_, doubled_collapsed hjoins⟩, ⟨?_, ?_⟩⟩
  · intro h
    exact h ▸ evenRuns_doubled p _
  · rintro ⟨v, rfl⟩
    exact evenRuns_doubled p v
  · intro h
    exact ⟨_, doubled_collapsed hjoins h⟩

end ScriptQuote.Text
