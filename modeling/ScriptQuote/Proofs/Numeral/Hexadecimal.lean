import ScriptQuote.Numeral.Hexadecimal
import Mathlib

/-!
# The grammar of hexadecimal numerals

What the reader of base-16 numerals takes, as a grammar.  The reader scans from
the left and says at the end what it has read; here a numeral is put together
from its parts.

There are three groups.

* Characters.  `CountsAs` says which ASCII character a code point stands for in
  a numeral, and `DigitOf` which of these characters are digits.
* Digits.  `DigitsFrom` is a run of digits with single underscores in it.
  `digits?_eq_some` and `digits?_append` say that the scan takes such a run, as
  long as it can be.
* Numerals.  `Magnitude` adds the prefix and the blanks behind, `Spells` the
  blanks in front and the sign, and `Numeral` goes from characters to code
  points.  `ofText?_eq_some_iff` says that the reader takes exactly the
  numerals, `Numeral.minus_mem` is about those below zero, and
  `Numeral.digitsOnly_iff` about those in which nothing else is than digits in
  ASCII.
-/

namespace ScriptQuote.Hexadecimal

open Unicode

variable {c : CodePoint} {a : Char} {cs ds rest after : List Char} {acc n v : ℕ}
  {i : ℤ} {t : Text}

/-! ## Characters -/

/-- The ASCII character that a code point counts as in a numeral: it is one
itself, or it is a blank outside ASCII or a decimal digit of another script. -/
inductive CountsAs : CodePoint → Char → Prop
  | itself {a : Char} (h : a.toNat < 0x80) : CountsAs (CodePoint.ofChar a) a
  | blank {c : CodePoint} (h : isWideBlank c = true) : CountsAs c ' '
  | digit {c : CodePoint} {v : ℕ} (hascii : c.isAscii = false)
      (hblank : isWideBlank c = false)
      (h : decimalValue? c = some v) : CountsAs c (Char.ofNat (0x30 + v))

theorem plain?_eq_some_iff : plain? c = some a ↔ CountsAs c a := by
  constructor
  · intro h
    rw [plain?] at h
    split at h
    · rename_i hascii
      obtain rfl := CodePoint.toChar?_eq_some_iff.mp h
      exact .itself (of_decide_eq_true hascii)
    · rename_i hascii
      split at h
      · rename_i hblank
        cases h
        exact .blank hblank
      · rename_i hblank
        obtain ⟨v, hv, rfl⟩ := Option.map_eq_some_iff.mp h
        exact .digit (by simpa using hascii) (by simpa using hblank) hv
  · intro h
    cases h with
    | itself h =>
      have hascii : (CodePoint.ofChar a).isAscii = true := decide_eq_true h
      rw [plain?, if_pos hascii, CodePoint.toChar?_eq_some_iff]
    | blank h =>
      have hascii : c.isAscii = false := by
        rw [isWideBlank, Bool.and_eq_true, Bool.not_eq_true'] at h
        exact h.1
      simp [plain?, hascii, h]
    | digit hascii hblank h => simp [plain?, hascii, hblank, h]

theorem mapM_plain?_eq_some_iff :
    t.mapM plain? = some cs ↔ List.Forall₂ CountsAs t cs := by
  induction t generalizing cs with
  | nil => simp [eq_comm]
  | cons c t ih =>
    simp only [List.mapM_cons, bind, Option.bind_eq_some_iff, pure, Option.some.injEq,
      List.forall₂_cons_left_iff, plain?_eq_some_iff, ih]
    constructor
    · rintro ⟨a, ha, cs', hcs', rfl⟩
      exact ⟨a, cs', ha, hcs', rfl⟩
    · rintro ⟨a, cs', ha, hcs', rfl⟩
      exact ⟨a, ha, cs', hcs', rfl⟩

/-- The value of a hexadecimal digit, by the number of the character: an ASCII
digit, or one of six letters of either case. -/
def DigitOf (number v : ℕ) : Prop :=
  v < 10 ∧ number = 0x30 + v ∨ 10 ≤ v ∧ v < 16 ∧
    (number = 0x57 + v ∨ number = 0x37 + v)

instance (number v : ℕ) : Decidable (DigitOf number v) :=
  inferInstanceAs (Decidable (_ ∨ _))

theorem digitValue?_eq_some_iff : digitValue? a = some v ↔ DigitOf a.toNat v := by
  have hle : ∀ x y : Char, x ≤ y ↔ x.toNat ≤ y.toNat := fun _ _ => Iff.rfl
  have h0 : ('0').toNat = 0x30 := rfl
  have h9 : ('9').toNat = 0x39 := rfl
  have ha : ('a').toNat = 0x61 := rfl
  have hf : ('f').toNat = 0x66 := rfl
  have hA : ('A').toNat = 0x41 := rfl
  have hF : ('F').toNat = 0x46 := rfl
  simp only [digitValue?, DigitOf, hle, h0, h9, ha, hf, hA, hF]
  split
  · rw [Option.some.injEq]
    omega
  · split
    · rw [Option.some.injEq]
      omega
    · split
      · rw [Option.some.injEq]
        omega
      · simp only [reduceCtorEq, false_iff]
        omega

theorem digitValue?_eq_none (h : ∀ v, ¬ DigitOf a.toNat v) :
    digitValue? a = none := by
  rw [Option.eq_none_iff_forall_ne_some]
  intro v hv
  exact h v (digitValue?_eq_some_iff.mp hv)

/-! ## Digits -/

/-- Digits that follow others worth `acc`, and what all of them are worth.
Before each there may be an underscore. -/
inductive DigitsFrom : ℕ → List Char → ℕ → Prop
  | done {acc : ℕ} : DigitsFrom acc [] acc
  | digit {acc v n : ℕ} {a : Char} {ds : List Char} (ha : DigitOf a.toNat v)
      (h : DigitsFrom (16 * acc + v) ds n) : DigitsFrom acc (a :: ds) n
  | parted {acc v n : ℕ} {a : Char} {ds : List Char} (ha : DigitOf a.toNat v)
      (h : DigitsFrom (16 * acc + v) ds n) : DigitsFrom acc ('_' :: a :: ds) n

/-- No digit comes next, nor an underscore. -/
def EndsDigits (rest : List Char) : Prop :=
  ∀ a ∈ rest.head?, a ≠ '_' ∧ ∀ v, ¬ DigitOf a.toNat v

theorem digits?_cons_of_digit (b : Bool) (ha : DigitOf a.toNat v) :
    digits? b acc (a :: cs) = digits? true (16 * acc + v) cs := by
  rw [digits?, digitValue?_eq_some_iff.mpr ha]

theorem digits?_cons_underscore :
    digits? true acc ('_' :: cs) = digits? false acc cs := by
  have hnone : digitValue? '_' = none := by decide
  rw [digits?, hnone]
  rfl

/-- The scan takes all digits that come next. -/
theorem digits?_append (h : DigitsFrom acc ds n) (hrest : EndsDigits rest) :
    digits? true acc (ds ++ rest) = some (n, rest) := by
  induction h with
  | done =>
    cases rest with
    | nil => rfl
    | cons a rest =>
      obtain ⟨hne, hdigit⟩ := hrest a rfl
      have hnone := digitValue?_eq_none hdigit
      simp [digits?, hnone, hne]
  | digit ha _ ih => rw [List.cons_append, digits?_cons_of_digit true ha, ih]
  | parted ha _ ih =>
    rw [List.cons_append, List.cons_append, digits?_cons_underscore,
      digits?_cons_of_digit false ha, ih]

/-- What the scan takes are digits; where one is due, the first thing is a digit. -/
theorem digits?_eq_some (cs : List Char) (acc : ℕ) :
    (digits? true acc cs = some (n, rest) →
      ∃ ds, cs = ds ++ rest ∧ DigitsFrom acc ds n ∧ EndsDigits rest) ∧
    (digits? false acc cs = some (n, rest) →
      ∃ a v ds, cs = a :: (ds ++ rest) ∧ DigitOf a.toNat v ∧
        DigitsFrom (16 * acc + v) ds n ∧
        EndsDigits rest) := by
  induction cs generalizing acc with
  | nil =>
    constructor
    · intro h
      cases h
      exact ⟨[], rfl, .done, fun a ha => by cases ha⟩
    · intro h
      cases h
  | cons a cs ih =>
    by_cases hdigit : ∃ v, DigitOf a.toNat v
    · obtain ⟨v, ha⟩ := hdigit
      obtain ⟨hmore, -⟩ := ih (16 * acc + v)
      rw [digits?_cons_of_digit true ha, digits?_cons_of_digit false ha]
      constructor
      · intro h
        obtain ⟨ds, rfl, hds, hrest⟩ := hmore h
        exact ⟨a :: ds, rfl, .digit ha hds, hrest⟩
      · intro h
        obtain ⟨ds, rfl, hds, hrest⟩ := hmore h
        exact ⟨a, v, ds, rfl, ha, hds, hrest⟩
    · rw [not_exists] at hdigit
      have hnone := digitValue?_eq_none hdigit
      constructor
      · intro h
        by_cases hunderscore : a = '_'
        · subst hunderscore
          rw [digits?_cons_underscore] at h
          obtain ⟨a, v, ds, rfl, ha, hds, hrest⟩ := (ih acc).2 h
          exact ⟨'_' :: a :: ds, rfl, .parted ha hds, hrest⟩
        · have hstop : digits? true acc (a :: cs) = some (acc, a :: cs) := by
            simp [digits?, hnone, hunderscore]
          rw [hstop] at h
          cases h
          refine ⟨[], rfl, .done, ?_⟩
          intro b hb
          cases hb
          exact ⟨hunderscore, hdigit⟩
      · intro h
        simp [digits?, hnone] at h

/-! ## Numerals -/

/-- The prefix of a numeral, and one underscore that may follow it. -/
inductive Lead : List Char → Prop
  | absent : Lead []
  | marked {x : Char} (hx : x = 'x' ∨ x = 'X') : Lead ['0', x]
  | parted {x : Char} (hx : x = 'x' ∨ x = 'X') : Lead ['0', x, '_']

/-- A numeral without sign that blanks may follow, and its number. -/
inductive Magnitude : List Char → ℕ → Prop
  | mk {lead ds after : List Char} {a : Char} {v n : ℕ} (hlead : Lead lead)
      (ha : DigitOf a.toNat v) (hds : DigitsFrom v ds n)
      (hafter : ∀ b ∈ after, isBlank b = true) :
      Magnitude (lead ++ a :: (ds ++ after)) n

/-- The sign of a numeral. -/
inductive Sign : List Char → ℤ → Prop
  | absent : Sign [] 1
  | plus : Sign ['+'] 1
  | minus : Sign ['-'] (-1)

/-- A numeral in ASCII, and its number. -/
inductive Spells : List Char → ℤ → Prop
  | mk {before sign cs : List Char} {s : ℤ} {n : ℕ}
      (hbefore : ∀ b ∈ before, isBlank b = true)
      (hsign : Sign sign s) (h : Magnitude cs n) :
      Spells (before ++ (sign ++ cs)) (s * n)

/-- A text that counts as a numeral, and its number. -/
def Numeral (t : Text) (i : ℤ) : Prop :=
  ∃ cs, List.Forall₂ CountsAs t cs ∧ Spells cs i

theorem DigitOf.le {number : ℕ} (h : DigitOf number v) : 0x30 ≤ number := by
  unfold DigitOf at h
  omega

/-- No blank is a digit, a sign, an underscore or the letter of the prefix. -/
theorem toNat_le_of_isBlank (h : isBlank a = true) : a.toNat ≤ 0x20 := by
  simp only [isBlank, Bool.or_eq_true, beq_iff_eq] at h
  rcases h with ((((rfl | rfl) | rfl) | rfl) | rfl) | rfl <;> decide

theorem isBlank_eq_false (h : 0x20 < a.toNat) : isBlank a = false := by
  rw [Bool.eq_false_iff]
  intro hblank
  have := toNat_le_of_isBlank hblank
  omega

/-- Blanks end a run of digits. -/
theorem endsDigits_of_blank (h : ∀ b ∈ after, isBlank b = true) :
    EndsDigits after := by
  intro a ha
  have hle := toNat_le_of_isBlank (h a (List.mem_of_mem_head? ha))
  constructor
  · rintro rfl
    exact absurd hle (by decide)
  · intro v hdigit
    have := hdigit.le
    omega

theorem exists_lead (cs : List Char) :
    ∃ lead, Lead lead ∧ cs = lead ++ dropPrefix cs := by
  unfold dropPrefix
  split
  · exact ⟨_, .parted (Or.inl rfl), rfl⟩
  · exact ⟨_, .parted (Or.inr rfl), rfl⟩
  · exact ⟨_, .marked (Or.inl rfl), rfl⟩
  · exact ⟨_, .marked (Or.inr rfl), rfl⟩
  · exact ⟨[], .absent, rfl⟩

theorem ne_of_digitOf {p : Char} (ha : DigitOf a.toNat v)
    (hp : digitValue? p = none) : a ≠ p := by
  rintro rfl
  rw [digitValue?_eq_some_iff.mpr ha] at hp
  cases hp

theorem dropPrefix_cons (h : ∀ x ∈ cs.head?, x ≠ 'x' ∧ x ≠ 'X') :
    dropPrefix (a :: cs) = a :: cs := by
  cases cs with
  | nil =>
    unfold dropPrefix
    split <;> simp_all
  | cons b cs =>
    obtain ⟨hx, hX⟩ := h b rfl
    unfold dropPrefix
    split <;> simp_all

/-- Behind a digit there is no letter of a prefix. -/
theorem head?_digits_ne {x : Char} (hds : DigitsFrom acc ds n)
    (hafter : ∀ b ∈ after, isBlank b = true)
    (h : x ∈ (ds ++ after).head?) : x ≠ 'x' ∧ x ≠ 'X' := by
  cases hds with
  | done =>
    have hle := toNat_le_of_isBlank (hafter x (List.mem_of_mem_head? h))
    constructor <;> rintro rfl <;> exact absurd hle (by decide)
  | digit ha =>
    cases h
    exact ⟨ne_of_digitOf ha (by decide), ne_of_digitOf ha (by decide)⟩
  | parted =>
    cases h
    decide

/-- The prefix goes, whatever digits follow. -/
theorem dropPrefix_append {lead : List Char} (hlead : Lead lead)
    (ha : DigitOf a.toNat v)
    (hds : DigitsFrom acc ds n) (hafter : ∀ b ∈ after, isBlank b = true) :
    dropPrefix (lead ++ a :: (ds ++ after)) = a :: (ds ++ after) := by
  have hne : a ≠ '_' := ne_of_digitOf ha (by decide)
  cases hlead with
  | absent =>
    exact dropPrefix_cons fun _ hx => head?_digits_ne hds hafter hx
  | marked hx =>
    rcases hx with rfl | rfl <;> simp [dropPrefix, hne]
  | parted hx =>
    rcases hx with rfl | rfl <;> rfl

theorem magnitude?_eq_some_iff : magnitude? cs = some n ↔ Magnitude cs n := by
  constructor
  · intro h
    rw [magnitude?] at h
    split at h
    · rename_i m rest hread
      obtain ⟨hafter, hm⟩ := Option.ite_none_right_eq_some.mp h
      cases hm
      obtain ⟨lead, hlead, hcs⟩ := exists_lead cs
      obtain ⟨a, v, ds, hdigits, ha, hds, -⟩ := (digits?_eq_some _ 0).2 hread
      rw [hcs, hdigits]
      rw [Nat.mul_zero, Nat.zero_add] at hds
      exact .mk hlead ha hds (List.all_eq_true.mp hafter)
    · cases h
  · intro h
    cases h with
    | @mk lead ds after a v n hlead ha hds hafter =>
      have hscan : digits? false 0 (a :: (ds ++ after)) = some (n, after) := by
        rw [digits?_cons_of_digit false ha, Nat.mul_zero, Nat.zero_add,
          digits?_append hds (endsDigits_of_blank hafter)]
      rw [magnitude?, dropPrefix_append hlead ha hds hafter, hscan]
      exact if_pos (List.all_eq_true.mpr hafter)

/-- A numeral without sign begins with a digit. -/
theorem Magnitude.head (h : Magnitude cs n) :
    ∃ a v rest, cs = a :: rest ∧ DigitOf a.toNat v := by
  cases h with
  | mk hlead ha hds hafter =>
    cases hlead with
    | absent => exact ⟨_, _, _, rfl, ha⟩
    | marked => exact ⟨_, 0, _, rfl, by decide⟩
    | parted => exact ⟨_, 0, _, rfl, by decide⟩

theorem exists_blanks (cs : List Char) :
    ∃ before, (∀ b ∈ before, isBlank b = true) ∧
      cs = before ++ cs.dropWhile isBlank :=
  ⟨cs.takeWhile isBlank, fun _ hb => List.mem_takeWhile_imp hb,
    List.takeWhile_append_dropWhile.symm⟩

/-- A magnitude that is made a whole number before its sign. -/
theorem map_magnitude?_eq_some_iff {f : ℤ → ℤ} :
    (do let n ← magnitude? cs; pure (n : ℤ)).map f = some i ↔
      ∃ n : ℕ, Magnitude cs n ∧ f n = i := by
  simp only [← magnitude?_eq_some_iff]
  cases magnitude? cs <;> simp

theorem ofChars?_eq_some_iff : ofChars? cs = some i ↔ Spells cs i := by
  constructor
  · intro h
    obtain ⟨before, hbefore, hcs⟩ := exists_blanks cs
    rw [ofChars?] at h
    split at h
    · rename_i rest hdrop
      obtain ⟨n, hn, rfl⟩ := map_magnitude?_eq_some_iff.mp h
      rw [hcs, hdrop, ← neg_one_mul]
      exact .mk hbefore .minus hn
    · rename_i rest hdrop
      obtain ⟨n, hn, rfl⟩ := map_magnitude?_eq_some_iff.mp h
      rw [hcs, hdrop, ← one_mul (n : ℤ)]
      exact .mk hbefore .plus hn
    · obtain ⟨n, hn, rfl⟩ := map_magnitude?_eq_some_iff.mp h
      rw [hcs, ← one_mul (n : ℤ)]
      exact .mk hbefore .absent hn
  · intro h
    cases h with
    | @mk before sign cs s n hbefore hsign hm =>
      have hdrop : ∀ {p rest}, isBlank p = false →
          (before ++ p :: rest).dropWhile isBlank = p :: rest := by
        intro p rest hp
        rw [List.dropWhile_append_of_pos hbefore,
          List.dropWhile_cons_of_neg (by simp [hp])]
      cases hsign with
      | absent =>
        obtain ⟨a, v, rest, rfl, ha⟩ := hm.head
        have hfirst : isBlank a = false :=
          isBlank_eq_false (Nat.lt_of_lt_of_le (by decide) ha.le)
        have hminus : a ≠ '-' := ne_of_digitOf ha (by decide)
        have hplus : a ≠ '+' := ne_of_digitOf ha (by decide)
        rw [List.nil_append, ofChars?, hdrop hfirst]
        split
        · simp_all
        · simp_all
        · exact map_magnitude?_eq_some_iff.mpr ⟨n, hm, (one_mul _).symm⟩
      | plus =>
        rw [List.singleton_append, ofChars?, hdrop (by decide)]
        exact map_magnitude?_eq_some_iff.mpr ⟨n, hm, (one_mul _).symm⟩
      | minus =>
        rw [List.singleton_append, ofChars?, hdrop (by decide)]
        exact map_magnitude?_eq_some_iff.mpr ⟨n, hm, (neg_one_mul _).symm⟩

/-- The reader takes exactly the numerals. -/
theorem ofText?_eq_some_iff : ofText? t = some i ↔ Numeral t i := by
  simp only [ofText?, Option.bind_eq_some_iff, mapM_plain?_eq_some_iff,
    ofChars?_eq_some_iff, Numeral]

/-! ## Negative numerals -/

/-- Only the minus sign counts as one. -/
theorem CountsAs.eq_minus (h : CountsAs c '-') : c = CodePoint.ofChar '-' := by
  generalize ha : '-' = a at h
  cases h with
  | itself => rfl
  | blank => exact absurd ha (by decide)
  | @digit c v =>
    have hnumber : 0x2D = (Char.ofNat (0x30 + v)).toNat := congrArg Char.toNat ha
    rw [Char.toNat_ofNat] at hnumber
    split at hnumber <;> omega

theorem exists_of_mem_counted (h : List.Forall₂ CountsAs t cs) (ha : a ∈ cs) :
    ∃ c ∈ t, CountsAs c a := by
  induction h with
  | nil => cases ha
  | cons hc _ ih =>
    rcases List.mem_cons.mp ha with rfl | ha
    · exact ⟨_, List.mem_cons_self, hc⟩
    · obtain ⟨c, hmem, hcounts⟩ := ih ha
      exact ⟨c, List.mem_cons_of_mem _ hmem, hcounts⟩

theorem Spells.minus_mem (h : Spells cs i) (hi : i < 0) : '-' ∈ cs := by
  cases h with
  | mk _ hsign _ =>
    cases hsign with
    | absent => omega
    | plus => omega
    | minus => simp

/-- A numeral below zero has a minus sign in it. -/
theorem Numeral.minus_mem (h : Numeral t i) (hi : i < 0) :
    CodePoint.ofChar '-' ∈ t := by
  obtain ⟨cs, hcs, hspells⟩ := h
  obtain ⟨c, hc, hcounts⟩ := exists_of_mem_counted hcs (hspells.minus_mem hi)
  rwa [hcounts.eq_minus] at hc

/-! ## Digits alone -/

/-- A text of hexadecimal digits in ASCII and nothing else, and its number in
base 16. -/
def DigitsOnly (t : Text) (n : ℕ) : Prop :=
  ∃ vs, List.Forall₂ (fun c v => DigitOf c.val v) t vs ∧
    Nat.ofDigits 16 vs.reverse = n

theorem ofDigits_reverse (vs : List ℕ) :
    Nat.ofDigits 16 vs.reverse = vs.foldl (fun n v => 16 * n + v) 0 := by
  rw [Nat.ofDigits_eq_foldr, List.foldr_reverse]
  simp only [Nat.cast_id, Nat.add_comm]

theorem exists_digitsOnly_iff :
    (∃ n, DigitsOnly t n) ↔ ∀ c ∈ t, ∃ v, DigitOf c.val v := by
  calc (∃ n, DigitsOnly t n)
      ↔ ∃ vs, List.Forall₂ (fun c v => DigitOf c.val v) t vs := by
        constructor
        · rintro ⟨_, vs, hvs, -⟩
          exact ⟨vs, hvs⟩
        · rintro ⟨vs, hvs⟩
          exact ⟨_, vs, hvs, rfl⟩
    _ ↔ ∀ c ∈ t, ∃ v, DigitOf c.val v := by
        induction t with
        | nil => simp
        | cons c t ih =>
          rw [List.forall_mem_cons, ← ih]
          simp only [List.forall₂_cons_left_iff]
          constructor
          · rintro ⟨_, v, vs, hc, hvs, -⟩
            exact ⟨⟨v, hc⟩, vs, hvs⟩
          · rintro ⟨⟨v, hc⟩, vs, hvs⟩
            exact ⟨_, v, vs, hc, hvs, rfl⟩

theorem countsAs_of_digitOf (h : DigitOf c.val v) :
    ∃ a, CountsAs c a ∧ a.toNat = c.val := by
  have hlt : c.val < 0x80 := by
    unfold DigitOf at h
    omega
  have hchar : (Char.ofNat c.val).toNat = c.val := by
    rw [Char.toNat_ofNat, if_pos (Or.inl (by omega))]
  have hc : CodePoint.ofChar (Char.ofNat c.val) = c := CodePoint.ext hchar
  refine ⟨Char.ofNat c.val, ?_, hchar⟩
  have hitself := CountsAs.itself (a := Char.ofNat c.val) (by rwa [hchar])
  rwa [hc] at hitself

theorem exists_digitsFrom {vs : List ℕ}
    (h : List.Forall₂ (fun c v => DigitOf c.val v) t vs) :
    ∃ ds, List.Forall₂ CountsAs t ds ∧
      ∀ acc, DigitsFrom acc ds (vs.foldl (fun n v => 16 * n + v) acc) := by
  induction h with
  | nil => exact ⟨[], .nil, fun _ => .done⟩
  | cons hc _ ih =>
    obtain ⟨ds, hds, hrun⟩ := ih
    obtain ⟨a, ha, hnumber⟩ := countsAs_of_digitOf hc
    exact ⟨a :: ds, .cons ha hds, fun acc => .digit (hnumber ▸ hc) (hrun _)⟩

/-- Digits alone are a numeral, and their number is what it is in base 16. -/
theorem numeral_of_digitsOnly (h : DigitsOnly t n) (ht : t ≠ []) : Numeral t n := by
  obtain ⟨vs, hvs, rfl⟩ := h
  rw [ofDigits_reverse]
  cases hvs with
  | nil => exact absurd rfl ht
  | @cons c v t vs hc hvs =>
    obtain ⟨a, ha, hnumber⟩ := countsAs_of_digitOf hc
    obtain ⟨ds, hds, hrun⟩ := exists_digitsFrom hvs
    refine ⟨a :: ds, .cons ha hds, ?_⟩
    have hblank : ∀ b ∈ ([] : List Char), isBlank b = true :=
      fun _ hb => absurd hb List.not_mem_nil
    have hmagnitude := Magnitude.mk .absent (hnumber ▸ hc) (hrun v) hblank
    simpa using Spells.mk hblank .absent hmagnitude

theorem Numeral.unique {j : ℤ} (h : Numeral t i) (h' : Numeral t j) : i = j := by
  rw [← ofText?_eq_some_iff] at h h'
  exact Option.some.inj (h.symm.trans h')

/-- A numeral is digits alone, for its number, exactly if there is nothing else
in it. -/
theorem Numeral.digitsOnly_iff (h : Numeral t n) (ht : t ≠ []) :
    DigitsOnly t n ↔ ∀ c ∈ t, ∃ v, DigitOf c.val v := by
  rw [← exists_digitsOnly_iff]
  constructor
  · intro hdigits
    exact ⟨n, hdigits⟩
  · rintro ⟨m, hdigits⟩
    have hsame := h.unique (numeral_of_digitsOnly hdigits ht)
    rwa [Nat.cast_inj.mp hsame]

end ScriptQuote.Hexadecimal
