import ScriptQuote.Proofs.Json.ReadBack

/-!
# Whole numbers read back

A whole number is written by its digits, and the reader of numbers takes as many
of them as there are.  It goes on to a point and to an exponent, so what stands
behind the number has to be none of these (`EndsNumeral`); a comma and a closing
brace will do.

* The digits.  They make the number again, and only zero starts with a zero
  (`eq_nil_of_toDigits`).
* The readers.  `readUnsigned_digits` takes the digits, and `readsBack_int` adds
  the sign.  A number with too many digits is refused and has to be left out.
-/

namespace ScriptQuote.Json

variable {n : Nat} {c d : Char} {ds s rest : List Char}

/-! ## The digits -/

theorem isDigit_of_mem_toDigits (h : d ∈ Nat.toDigits 10 n) :
    Decimal.isDigit d = true := by
  have hdigit := Nat.isDigit_of_mem_toDigits (by decide) (by decide) h
  simpa [Decimal.isDigit, Char.isDigit, Char.le_def,
    UInt32.le_iff_toNat_le] using hdigit

theorem ofDigits_toDigits (n : Nat) : Decimal.ofDigits (Nat.toDigits 10 n) = n :=
  Nat.ofDigitChars_toDigits (by decide) (by decide)

theorem head?_toDigits_ne (hn : 0 < n) : (Nat.toDigits 10 n).head? ≠ some '0' := by
  induction n using Nat.strongRecOn with
  | ind n ih =>
    rw [Nat.toDigits_eq_if (by decide)]
    by_cases hlt : n < 10
    · rw [if_pos hlt]
      clear ih
      revert hn
      revert hlt n
      decide
    · rw [if_neg hlt, List.head?_append]
      have hhead := ih (n / 10) (by omega) (by omega)
      cases hd : Nat.toDigits 10 (n / 10) with
      | nil => exact absurd hd Nat.toDigits_ne_nil
      | cons d ds =>
        rw [hd] at hhead
        exact hhead

/-- A zero in front is the only digit. -/
theorem eq_nil_of_toDigits (h : Nat.toDigits 10 n = '0' :: ds) : ds = [] := by
  by_cases hn : 0 < n
  · have hhead := head?_toDigits_ne hn
    rw [h] at hhead
    exact absurd rfl hhead
  · have hzero : n = 0 := by omega
    rw [hzero, Nat.toDigits_zero] at h
    exact (List.cons.inj h).2.symm

theorem ne_of_isDigit (hd : Decimal.isDigit d = true)
    (hc : Decimal.isDigit c = false) : d ≠ c := by
  intro h
  rw [h, hc] at hd
  cases hd

/-! ## The readers -/

/-- The reader of numbers does not go on at the character. -/
structure EndsNumeral (c : Char) : Prop where
  notDigit : Decimal.isDigit c = false
  notPoint : c ≠ '.'
  notSmallMark : c ≠ 'e'
  notMark : c ≠ 'E'

theorem spanDigits_append (hds : ∀ a ∈ ds, Decimal.isDigit a = true)
    (hc : EndsNumeral c) : spanDigits (ds ++ c :: rest) = (ds, c :: rest) := by
  rw [spanDigits, List.takeWhile_append_of_pos hds, List.dropWhile_append_of_pos hds]
  simp [hc.notDigit]

theorem fraction_of_endsNumeral (hc : EndsNumeral c) :
    fraction (c :: rest) = ([], c :: rest) := by
  unfold fraction
  split
  · rename_i h
    exact absurd (List.cons.inj h).1 hc.notPoint
  · rfl

theorem scale_of_endsNumeral (hc : EndsNumeral c) :
    scale (c :: rest) = (none, c :: rest) := by
  simp [scale, hc.notSmallMark, hc.notMark]

theorem number_whole (negative : Bool) {whole : List Char}
    (hshort : whole.length ≤ Decimal.maxDigits) :
    number negative whole [] none =
      .ok (.int (if negative then -(Decimal.ofDigits whole : Int)
        else Decimal.ofDigits whole)) := by
  have hlt : ¬ Decimal.maxDigits < whole.length := Nat.not_lt.mpr hshort
  simp only [number, List.isEmpty_nil, Option.isNone_none, Bool.and_self,
    if_true, if_neg hlt]

theorem readUnsigned_digits (negative : Bool) (left : Nat)
    (hd : Nat.toDigits 10 n = d :: ds) (hc : EndsNumeral c)
    (hshort : (Nat.toDigits 10 n).length ≤ Decimal.maxDigits) :
    Takes (readUnsigned negative (d :: (ds ++ c :: rest)) left)
      (.int (if negative then -(n : Int) else n)) (c :: rest) := by
  have hnumber := number_whole negative hshort
  rw [ofDigits_toDigits, hd] at hnumber
  have hdigits : ∀ a ∈ d :: ds, Decimal.isDigit a = true := by
    intro a ha
    rw [← hd] at ha
    exact isDigit_of_mem_toDigits ha
  have hspan : spanDigits (ds ++ c :: rest) = (ds, c :: rest) :=
    spanDigits_append (fun a ha => hdigits a (List.mem_cons_of_mem d ha)) hc
  have hzero : (d == '0') = true → ds = [] := by
    intro hzero
    rw [eq_of_beq hzero] at hd
    exact eq_nil_of_toDigits hd
  have hwhole : (if d == '0' then [] else (spanDigits (ds ++ c :: rest)).1) = ds := by
    rw [hspan]
    split
    · exact (hzero ‹_›).symm
    · rfl
  have hafter :
      (if d == '0' then ds ++ c :: rest else (spanDigits (ds ++ c :: rest)).2) =
      c :: rest := by
    rw [hspan]
    split
    · rw [hzero ‹_›, List.nil_append]
    · rfl
  rw [readUnsigned, if_pos (hdigits d List.mem_cons_self)]
  simp only [hwhole, hafter, fraction_of_endsNumeral hc,
    scale_of_endsNumeral hc, hnumber]
  exact ⟨_, rfl⟩

/-- A digit opens a number and nothing else. -/
theorem readValue_of_isDigit (hd : Decimal.isDigit d = true) :
    readValue (d :: s) = readUnsigned false (d :: s) (s.length + 1) := by
  have hnumber : readNumber (d :: s) = readUnsigned false (d :: s)
      (s.length + 1) := by
    rw [readNumber]
    · rfl
    all_goals
      intros
      rename_i h
      exact ne_of_isDigit hd rfl (List.cons.inj h).1
  rw [← hnumber, readValue]
  all_goals
    intros
    rename_i h
    exact ne_of_isDigit hd rfl (List.cons.inj h).1

/-- So does a minus sign in front of a digit. -/
theorem readValue_negative (hd : Decimal.isDigit d = true) :
    readValue ('-' :: d :: s) =
      (readUnsigned true (d :: s) (s.length + 2)).map fun t =>
        t.widen (Nat.le_succ _) := by
  have hnumber : readNumber ('-' :: d :: s) =
      (readUnsigned true (d :: s) (s.length + 2)).map fun t =>
        t.widen (Nat.le_succ _) := by
    rw [readNumber]
    · rfl
    · intro _ h
      exact ne_of_isDigit hd rfl (List.cons.inj h).1
  rw [← hnumber, readValue]
  all_goals
    intros
    rename_i h
    exact absurd (List.cons.inj h).1 (by decide)

theorem skipBlank_of_isDigit (hd : Decimal.isDigit d = true) :
    skipBlank (' ' :: d :: s) = d :: s := by
  have hspace := ne_of_isDigit hd (c := ' ') rfl
  have htab := ne_of_isDigit hd (c := '\t') rfl
  have hfeed := ne_of_isDigit hd (c := '\n') rfl
  have hreturn := ne_of_isDigit hd (c := '\r') rfl
  simp [skipBlank, hspace, htab, hfeed, hreturn]

/-- The number has no more digits than the reader takes. -/
def IsShort (n : Int) : Prop := (Nat.toDigits 10 n.natAbs).length ≤ Decimal.maxDigits

theorem readsBack_int {n : Int} (hshort : IsShort n) : ReadsBack (.int n) := by
  have hends : ∀ c, c = ',' ∨ c = '\x7d' → EndsNumeral c := by
    intro c hc
    rcases hc with rfl | rfl <;> exact ⟨rfl, by decide, by decide, by decide⟩
  have hdigits : ∀ n, ∃ d ds, Nat.toDigits 10 n = d :: ds ∧
      Decimal.isDigit d = true := by
    intro n
    obtain ⟨d, ds, hd⟩ :=
      List.exists_cons_of_ne_nil (Nat.toDigits_ne_nil (b := 10) (n := n))
    exact ⟨d, ds, hd, isDigit_of_mem_toDigits (n := n) (hd ▸ List.mem_cons_self)⟩
  cases n with
  | ofNat n =>
    refine ⟨Nat.toDigits 10 n, rfl, ?_⟩
    intro c rest hc
    obtain ⟨d, ds, hd, hdigit⟩ := hdigits n
    rw [hd, List.cons_append, skipBlank_of_isDigit hdigit,
      readValue_of_isDigit hdigit]
    exact readUnsigned_digits false _ hd (hends c hc) hshort
  | negSucc n =>
    refine ⟨'-' :: Nat.toDigits 10 (n + 1), rfl, ?_⟩
    intro c rest hc
    obtain ⟨d, ds, hd, hdigit⟩ := hdigits (n + 1)
    obtain ⟨_, hread⟩ :=
      readUnsigned_digits true ((ds ++ c :: rest).length + 2) hd (hends c hc) hshort
    rw [hd]
    change Takes (readValue ('-' :: d :: (ds ++ c :: rest))) _ _
    rw [readValue_negative hdigit, hread]
    exact ⟨_, rfl⟩

end ScriptQuote.Json
