import ScriptQuote.Proofs.Context.Unreadable
import Mathlib

/-!
# Code points asked for by number

In double quotes the letter `u` behind an escape asks for a code point by its
number, which follows in braces.  The number is meant to be hexadecimal digits.
This module says what else is taken for one, by the grammar of numerals, and
what comes of an escape in each case.

* Braces in a text.  `BracedAt` says by positions what stands between the braces
  from one place to another; `bracedAt_iff` cuts the text there.
* Numbers in braces.  `DigitsAt` adds that it is at most six hexadecimal digits,
  as it is meant to be, and `NumberAt` that it is any numeral of that length.
  `readBraced_eq_some_iff` says that the latter is what is read, and
  `reads_digits_only_iff` where that makes no difference.
* The reader at an escape.  `ComesTo` is any number of steps of the reader, with
  what they give.  `unescape_of_comesTo` says that the rest is read as it would
  be alone, and `numbers_by_grammar` what that is at an escape that asks for a
  number.
-/

namespace ScriptQuote.DoubleQuoted

open Hexadecimal (Numeral DigitsOnly DigitOf)

variable {d : Dialect} {t t' rest before value w w' tail : Text} {a c x : CodePoint}
  {start next next' n : ℕ} {i : ℤ}

/-! ## Braces in a text -/

/-- The text between a brace that opens at `start` and the first closing brace
behind it, which stands right before `next`. -/
structure BracedAt (value : Text) (start next : ℕ) (w : Text) : Prop where
  opening : value[start]? = some (CodePoint.ofChar '\x7b')
  closing : value[next - 1]? = some (CodePoint.ofChar '\x7d')
  behind : start + 1 < next
  first : ∀ i, start < i → i < next - 1 → value[i]? ≠ some (CodePoint.ofChar '\x7d')
  between : w = (value.drop (start + 1)).take (next - 1 - (start + 1))

theorem drop_of_getElem? {i : ℕ} (h : value[i]? = some c) :
    value.drop i = c :: value.drop (i + 1) := by
  obtain ⟨hi, rfl⟩ := List.getElem?_eq_some_iff.mp h
  exact List.drop_eq_getElem_cons hi

theorem bracedAt_iff :
    BracedAt value start next w ↔
      value.drop start =
          CodePoint.ofChar '\x7b' ::
            (w ++ CodePoint.ofChar '\x7d' :: value.drop next) ∧
        CodePoint.ofChar '\x7d' ∉ w ∧ next = start + w.length + 2 := by
  constructor
  · intro h
    have hbehind := h.behind
    have hlast := (List.getElem?_eq_some_iff.mp h.closing).choose
    have hskip : start + 1 + (next - 1 - (start + 1)) = next - 1 := by omega
    have hnext : next - 1 + 1 = next := by omega
    have hcut := List.take_append_drop (next - 1 - (start + 1))
      (value.drop (start + 1))
    rw [List.drop_drop, hskip, ← h.between, drop_of_getElem? h.closing, hnext] at hcut
    refine ⟨?_, ?_, ?_⟩
    · rw [drop_of_getElem? h.opening, hcut]
    · intro hmem
      rw [h.between] at hmem
      obtain ⟨j, hj⟩ := List.mem_iff_getElem?.mp hmem
      rw [List.getElem?_take] at hj
      obtain ⟨hlt, hj⟩ := Option.ite_none_right_eq_some.mp hj
      rw [List.getElem?_drop] at hj
      exact h.first (start + 1 + j) (by omega) (by omega) hj
    · rw [h.between, List.length_take, List.length_drop]
      omega
  · rintro ⟨hdrop, hfirst, rfl⟩
    have hat : ∀ j, value[start + j]? =
        (CodePoint.ofChar '\x7b' ::
          (w ++ CodePoint.ofChar '\x7d' ::
            value.drop (start + w.length + 2)))[j]? := by
      intro j
      rw [← hdrop, List.getElem?_drop]
    have hinside : ∀ j, j < w.length → value[start + (j + 1)]? = w[j]? := by
      intro j hj
      rw [hat, List.getElem?_cons_succ, List.getElem?_append_left hj]
    refine ⟨hat 0, ?_, by omega, ?_, ?_⟩
    · have hlast : start + w.length + 2 - 1 = start + (w.length + 1) := by omega
      rw [hlast, hat, List.getElem?_cons_succ,
        List.getElem?_append_right (Nat.le_refl _), Nat.sub_self]
      rfl
    · intro i hlt hi hclosing
      obtain ⟨j, rfl⟩ := Nat.exists_eq_add_of_lt hlt
      rw [Nat.add_assoc, hinside j (by omega)] at hclosing
      exact hfirst (List.mem_of_getElem? hclosing)
    · have hlength : start + w.length + 2 - 1 - (start + 1) = w.length := by omega
      rw [hlength, ← List.drop_drop, hdrop]
      simp

/-- Braces that open at one place have one text between them. -/
theorem BracedAt.unique (h : BracedAt value start next w)
    (h' : BracedAt value start next' w') : w = w' := by
  obtain ⟨hdrop, hclosing, -⟩ := bracedAt_iff.mp h
  obtain ⟨hdrop', hclosing', -⟩ := bracedAt_iff.mp h'
  have hsame : w ++ CodePoint.ofChar '\x7d' :: value.drop next =
      w' ++ CodePoint.ofChar '\x7d' :: value.drop next' :=
    List.tail_eq_of_cons_eq (hdrop.symm.trans hdrop')
  rw [← (span_closing hclosing (value.drop next)).1, hsame,
    (span_closing hclosing' _).1]

/-! ## Numbers in braces -/

/-- One to six hexadecimal digits in braces, from `start` to right before
`next`, and their number. -/
structure DigitsAt (value : Text) (start next : ℕ) (w : Text) (n : ℕ) : Prop
    extends BracedAt value start next w where
  pos : 1 ≤ w.length
  length_le : w.length ≤ 6
  digits : DigitsOnly w n

/-- One to six code points in braces, from `start` to right before `next`, that
are a numeral. -/
structure NumberAt (value : Text) (start next : ℕ) (w : Text) (i : ℤ) : Prop
    extends BracedAt value start next w where
  pos : 1 ≤ w.length
  length_le : w.length ≤ 6
  numeral : Numeral w i

/-- Cutting a text at braces, and putting one together of its parts. -/
theorem exists_numberAt_iff :
    (∃ next, NumberAt value start next w i ∧ tail = value.drop next) ↔
      value.drop start = CodePoint.ofChar '\x7b' ::
        (w ++ CodePoint.ofChar '\x7d' :: tail) ∧
        CodePoint.ofChar '\x7d' ∉ w ∧ 1 ≤ w.length ∧ w.length ≤ 6 ∧ Numeral w i := by
  constructor
  · rintro ⟨next, h, rfl⟩
    obtain ⟨hdrop, hclosing, -⟩ := bracedAt_iff.mp h.toBracedAt
    exact ⟨hdrop, hclosing, h.pos, h.length_le, h.numeral⟩
  · rintro ⟨hdrop, hclosing, hpos, hlength, hnumeral⟩
    have htail : tail = value.drop (start + w.length + 2) := by
      have hskip : start + w.length + 2 = start + (w.length + 2) := by omega
      rw [hskip, ← List.drop_drop, hdrop]
      simp [List.drop_append]
    refine ⟨_, ⟨bracedAt_iff.mpr ⟨?_, hclosing, rfl⟩, hpos, hlength, hnumeral⟩, htail⟩
    rw [hdrop, ← htail]

/-- What is read is a numeral in braces, for the code point with its number. -/
theorem readBraced_eq_some_iff :
    readBraced (value.drop start) = .ok (some (c, tail)) ↔
      ∃ w next, NumberAt value start next w c.val ∧ tail = value.drop next := by
  simp only [exists_numberAt_iff]
  constructor
  · intro h
    rcases readBraced_cases (value.drop start) with
      hnone | ⟨w, tail', hdrop, hclosing, hpos, hlength⟩
    · rw [hnone] at h
      cases h
    · rw [hdrop, readBraced_braces hclosing hpos hlength] at h
      split at h
      · cases h
      · cases h
      · rename_i n hn
        simp only [Except.ok.injEq, Option.map_eq_some_iff, Prod.mk.injEq] at h
        obtain ⟨_, hc, rfl, rfl⟩ := h
        obtain rfl := CodePoint.ofNat?_eq_some.mp hc
        exact ⟨w, hdrop, hclosing, hpos, hlength,
          Hexadecimal.ofText?_eq_some_iff.mp hn⟩
  · rintro ⟨w, hdrop, hclosing, hpos, hlength, hnumeral⟩
    have hread : Hexadecimal.ofText? w = some (.ofNat c.val) :=
      Hexadecimal.ofText?_eq_some_iff.mpr hnumeral
    rw [hdrop, readBraced_braces hclosing hpos hlength, hread]
    simp [CodePoint.ofNat?_eq_some.mpr rfl]

/-- What cannot be read is a numeral below zero. -/
theorem negativeGroup_drop_iff :
    NegativeGroup (value.drop start) ↔
      ∃ w next i, NumberAt value start next w i ∧ i < 0 := by
  constructor
  · rintro ⟨w, tail, n, hdrop, hclosing, hpos, hlength, hn⟩
    have hnumeral := Hexadecimal.ofText?_eq_some_iff.mp hn
    obtain ⟨next, h, -⟩ :=
      exists_numberAt_iff.mpr ⟨hdrop, hclosing, hpos, hlength, hnumeral⟩
    exact ⟨w, next, _, h, Int.negSucc_lt_zero n⟩
  · rintro ⟨w, next, i, h, hi⟩
    obtain ⟨n, rfl⟩ := Int.eq_negSucc_of_lt_zero hi
    obtain ⟨hdrop, hclosing, hpos, hlength, hnumeral⟩ :=
      exists_numberAt_iff.mp ⟨next, h, rfl⟩
    exact ⟨w, _, n, hdrop, hclosing, hpos, hlength,
      Hexadecimal.ofText?_eq_some_iff.mpr hnumeral⟩

theorem NumberAt.ne_nil (h : NumberAt value start next w i) : w ≠ [] :=
  List.ne_nil_of_length_pos h.pos

theorem DigitsAt.numberAt (h : DigitsAt value start next w n) :
    NumberAt value start next w n :=
  ⟨h.toBracedAt, h.pos, h.length_le,
    Hexadecimal.numeral_of_digitsOnly h.digits (List.ne_nil_of_length_pos h.pos)⟩

theorem NumberAt.digitsAt (h : NumberAt value start next w n)
    (hw : ∀ x ∈ w, ∃ v, DigitOf x.val v) : DigitsAt value start next w n :=
  ⟨h.toBracedAt, h.pos, h.length_le, (h.numeral.digitsOnly_iff h.ne_nil).mpr hw⟩

/-- Digits are all that is read exactly where every numeral that is read has
nothing else in it. -/
theorem reads_digits_only_iff :
    (∀ c tail, readBraced (value.drop start) = .ok (some (c, tail)) ↔
        ∃ w next, DigitsAt value start next w c.val ∧ tail = value.drop next) ↔
      ∀ (w : Text) (next : ℕ) (c : CodePoint), NumberAt value start next w c.val →
        ∀ x ∈ w, ∃ v, DigitOf x.val v := by
  constructor
  · intro honly w next c hnumber
    have hread := readBraced_eq_some_iff.mpr ⟨w, next, hnumber, rfl⟩
    obtain ⟨w', next', hdigits, -⟩ := (honly c (value.drop next)).mp hread
    rw [hnumber.toBracedAt.unique hdigits.toBracedAt]
    exact Hexadecimal.exists_digitsOnly_iff.mp ⟨_, hdigits.digits⟩
  · intro hdigits c tail
    rw [readBraced_eq_some_iff]
    constructor
    · rintro ⟨w, next, hnumber, htail⟩
      exact ⟨w, next, hnumber.digitsAt (hdigits w next c hnumber), htail⟩
    · rintro ⟨w, next, hat, htail⟩
      exact ⟨w, next, hat.numberAt, htail⟩

/-! ## The reader at an escape -/

/-- The reader gives some code points for the front of a text and comes to the rest. -/
inductive ComesTo (d : Dialect) : Text → Text → Text → Prop
  | here (t : Text) : ComesTo d t [] t
  | later {t t' before rest : Text} {x : CodePoint} (h : Step d t x t')
      (hrest : ComesTo d t' before rest) : ComesTo d t (x :: before) rest

/-- Behind what the reader has given, it reads the rest as if that were all. -/
theorem unescape_of_comesTo (h : ComesTo d t before rest) :
    unescape d t = (unescape d rest).map (before ++ ·) := by
  induction h with
  | here t => cases unescape d t <;> rfl
  | later hstep _ ih =>
    rw [unescape_of_step hstep, ih]
    cases unescape d _ <;> rfl

theorem unescape_of_numberAt
    (h : ComesTo d t before (a :: CodePoint.ofChar 'u' :: rest))
    (ha : d.isEscape a = true) (hnumber : NumberAt rest 0 next w c.val) :
    unescape d t = (unescape d (rest.drop next)).map (before ++ c :: ·) := by
  have hread : readBraced (rest.drop 0) = .ok (some (c, rest.drop next)) :=
    readBraced_eq_some_iff.mpr ⟨w, next, hnumber, rfl⟩
  have hstep : Step d (a :: CodePoint.ofChar 'u' :: rest) c (rest.drop next) :=
    .numbered ha hread
  rw [unescape_of_comesTo h, unescape_of_step hstep]
  cases unescape d (rest.drop next) <;> rfl

theorem unescape_of_negativeAt
    (h : ComesTo d t before (a :: CodePoint.ofChar 'u' :: rest))
    (ha : d.isEscape a = true) (hnumber : NumberAt rest 0 next w i) (hi : i < 0) :
    unescape d t = .error .negativeCodePoint := by
  have hgroup : NegativeGroup (rest.drop 0) :=
    negativeGroup_drop_iff.mpr ⟨w, next, i, hnumber, hi⟩
  rw [unescape_of_comesTo h, unescape_of_stuck ⟨a, rest, rfl, ha, hgroup⟩]
  rfl

/-- Without a number in braces that is small enough for a code point, the letter
means itself. -/
theorem unescape_of_no_numberAt
    (h : ComesTo d t before (a :: CodePoint.ofChar 'u' :: rest))
    (ha : d.isEscape a = true)
    (hnone : ∀ w next i, NumberAt rest 0 next w i → 0x10FFFF < i) :
    unescape d t = (unescape d rest).map (before ++ CodePoint.ofChar 'u' :: ·) := by
  have hread : readBraced rest = .ok none := by
    cases hread : readBraced rest with
    | error f =>
      have hgroup : NegativeGroup (rest.drop 0) := readBraced_eq_error_iff.mp hread
      obtain ⟨w, next, i, hnumber, hi⟩ := negativeGroup_drop_iff.mp hgroup
      have := hnone w next i hnumber
      omega
    | ok o =>
      cases o with
      | none => rfl
      | some p =>
        have hdrop : readBraced (rest.drop 0) = .ok (some p) := hread
        obtain ⟨w, next, hnumber, -⟩ := readBraced_eq_some_iff.mp hdrop
        have := hnone w next _ hnumber
        have := p.1.isLt
        omega
  rw [unescape_of_comesTo h, unescape_of_step (.unnumbered ha hread)]
  cases unescape d rest <;> rfl

/-- One to six hexadecimal digits in braces are read as the code point with
their number, if there is one.  What is read at all is a numeral in braces of
that length, so that digits are all that is read exactly where such a numeral
has nothing else in it.  An escape that asks for a number gives the code point
of such a numeral and goes on behind the braces, cannot be read if the numeral
is below zero, and otherwise gives its letter and goes on right behind it. -/
theorem numbers_by_grammar (d : Dialect) (value : Text) (start : ℕ) :
    (∀ (w : Text) (next : ℕ) (c : CodePoint), DigitsAt value start next w c.val →
      readBraced (value.drop start) = .ok (some (c, value.drop next))) ∧
    (∀ (c : CodePoint) (tail : Text),
      readBraced (value.drop start) = .ok (some (c, tail)) ↔
        ∃ w next, NumberAt value start next w c.val ∧ tail = value.drop next) ∧
    ((∀ (c : CodePoint) (tail : Text),
        readBraced (value.drop start) = .ok (some (c, tail)) ↔
          ∃ w next, DigitsAt value start next w c.val ∧ tail = value.drop next) ↔
      ∀ (w : Text) (next : ℕ) (c : CodePoint), NumberAt value start next w c.val →
        ∀ x ∈ w, ∃ v, DigitOf x.val v) ∧
    ∀ (before : Text) (a : CodePoint) (rest : Text),
      ComesTo d value before (a :: CodePoint.ofChar 'u' :: rest) →
      d.isEscape a = true →
        (∀ w next (c : CodePoint), NumberAt rest 0 next w c.val →
          unescape d value = (unescape d (rest.drop next)).map (before ++ c :: ·)) ∧
        (∀ w next i, NumberAt rest 0 next w i → i < 0 →
          unescape d value = .error .negativeCodePoint) ∧
        ((∀ w next i, NumberAt rest 0 next w i → 0x10FFFF < i) →
          unescape d value =
            (unescape d rest).map (before ++ CodePoint.ofChar 'u' :: ·)) := by
  refine ⟨?_, fun _ _ => readBraced_eq_some_iff, reads_digits_only_iff, ?_⟩
  · intro w next c hdigits
    exact readBraced_eq_some_iff.mpr ⟨w, next, hdigits.numberAt, rfl⟩
  · intro before a rest hcomes ha
    exact ⟨fun _ _ _ => unescape_of_numberAt hcomes ha,
      fun _ _ _ => unescape_of_negativeAt hcomes ha,
      unescape_of_no_numberAt hcomes ha⟩

/-- The largest code point by its number, behind one that stands for itself. -/
theorem numbers_by_grammar_largest :
    DigitsAt "\x7b10FFFF\x7d!" 0 8 "10FFFF" 0x10FFFF ∧
      readBraced "\x7b10FFFF\x7d!" = .ok (some (⟨0x10FFFF, by decide⟩, ['!'])) ∧
      ComesTo .powerShell "a\x60u\x7b10FFFF\x7d!" ['a'] "\x60u\x7b10FFFF\x7d!" ∧
      unescape .powerShell "a\x60u\x7b10FFFF\x7d!" =
        .ok ['a', ⟨0x10FFFF, by decide⟩, '!'] := by
  have hdigits : DigitsAt "\x7b10FFFF\x7d!" 0 8 "10FFFF" 0x10FFFF :=
    ⟨bracedAt_iff.mpr ⟨rfl, by decide, rfl⟩, by decide, by decide,
      [1, 0, 15, 15, 15, 15], by decide, by decide⟩
  have hcomes : ComesTo .powerShell "a\x60u\x7b10FFFF\x7d!" ['a']
      "\x60u\x7b10FFFF\x7d!" :=
    .later (.plain (by decide) (by decide)) (.here _)
  have hread := numbers_by_grammar .powerShell "\x7b10FFFF\x7d!" 0
  have hescape := numbers_by_grammar .powerShell "a\x60u\x7b10FFFF\x7d!" 0
  refine ⟨hdigits, ?_, hcomes, ?_⟩
  · exact hread.1 _ 8 ⟨0x10FFFF, by decide⟩ hdigits
  · have hrest : unescape .powerShell ['!'] = .ok ['!'] := by
      rw [unescape_of_step (.last _), unescape]
      rfl
    calc unescape .powerShell "a\x60u\x7b10FFFF\x7d!"
        = (unescape .powerShell ['!']).map
            ((['a'] : Text) ++ ⟨0x10FFFF, by decide⟩ :: ·) :=
          (hescape.2.2.2 _ _ _ hcomes (by decide)).1 _ 8 ⟨0x10FFFF, by decide⟩
            hdigits.numberAt
      _ = .ok ['a', ⟨0x10FFFF, by decide⟩, '!'] := by
        rw [hrest]
        rfl

/-- A sign, which is no digit, in front of one: it is read all the same. -/
theorem readBraced_signed :
    BracedAt "\x7b+41\x7d" 0 5 "+41" ∧ (¬ ∃ n, DigitsOnly "+41" n) ∧
      readBraced "\x7b+41\x7d" = .ok (some (CodePoint.ofChar 'A', [])) ∧
      unescape .powerShell "\x60u\x7b+41\x7d" = .ok "A" := by
  refine ⟨bracedAt_iff.mpr ⟨rfl, by decide, rfl⟩, ?_, by cbv, by cbv⟩
  rw [Hexadecimal.exists_digitsOnly_iff]
  intro h
  obtain ⟨v, hv⟩ := h '+' (by decide)
  exact absurd hv.le (by decide)

end ScriptQuote.DoubleQuoted
