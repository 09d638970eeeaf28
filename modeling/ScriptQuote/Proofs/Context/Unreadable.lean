import ScriptQuote.Argument.Quoting
import ScriptQuote.Proofs.Config.Dialect
import ScriptQuote.Proofs.Numeral.Hexadecimal
import Mathlib

/-!
# Texts that cannot be read

Reading is meant for any text, also for one that nobody wrote with this library.
Single quotes, format strings, variable names and patterns can be read whatever
they are.  In double quotes there is one thing that cannot: a code point asked
for by a negative number.

There are three groups.

* Numbers in braces.  `readBraced_cases` and `readBraced_braces` say what is
  read of them at all.  `NegativeGroup` is the shape that fails, and
  `readBraced_eq_error_iff` says that there is no other.
* The way of the reader.  `Step` is one step of it; `MeetsNegative` says that it
  comes to such a group, and `unescape_eq_error_iff` that this is when reading
  fails.
* Arguments and configured dialects.  No dialect that can be configured is free of such
  texts.
-/

namespace ScriptQuote

namespace DoubleQuoted

open Dialect

variable {d : Dialect} {t rest : Text} {x : CodePoint}

/-! ## Numbers in braces -/

/-- The text opens with a negative number in braces, of one to six code points. -/
def NegativeGroup (t : Text) : Prop :=
  ∃ digits tail n,
    t = CodePoint.ofChar '\x7b' :: (digits ++ CodePoint.ofChar '\x7d' :: tail) ∧
    CodePoint.ofChar '\x7d' ∉ digits ∧ 1 ≤ digits.length ∧ digits.length ≤ 6 ∧
    Hexadecimal.ofText? digits = some (.negSucc n)

/-- Cutting a text at the first closing brace. -/
theorem span_closing {digits : Text} (h : CodePoint.ofChar '\x7d' ∉ digits)
    (tail : Text) :
    (digits ++ CodePoint.ofChar '\x7d' :: tail).takeWhile
      (· != CodePoint.ofChar '\x7d') = digits ∧
      (digits ++ CodePoint.ofChar '\x7d' :: tail).dropWhile
        (· != CodePoint.ofChar '\x7d') =
        CodePoint.ofChar '\x7d' :: tail := by
  have hne : ∀ c ∈ digits, (c != CodePoint.ofChar '\x7d') = true := by
    intro c hc
    rw [bne_iff_ne]
    rintro rfl
    exact h hc
  rw [List.takeWhile_append_of_pos hne, List.dropWhile_append_of_pos hne,
    List.takeWhile_cons_of_neg (by simp), List.dropWhile_cons_of_neg (by simp),
      List.append_nil]
  exact ⟨rfl, rfl⟩

/-- Nothing is read unless one to six code points in braces come next. -/
theorem readBraced_cases (t : Text) :
    readBraced t = .ok none ∨
      ∃ w tail, t = CodePoint.ofChar '\x7b' ::
        (w ++ CodePoint.ofChar '\x7d' :: tail) ∧
        CodePoint.ofChar '\x7d' ∉ w ∧ 1 ≤ w.length ∧ w.length ≤ 6 := by
  cases t with
  | nil => exact Or.inl rfl
  | cons c rest =>
    by_cases hc : c = CodePoint.ofChar '\x7b'
    · subst hc
      have hsplit := List.takeWhile_append_dropWhile (l := rest)
        (p := fun a => a != CodePoint.ofChar '\x7d')
      have hnot := List.head_dropWhile_not (l := rest)
        (fun a => a != CodePoint.ofChar '\x7d')
      rw [readBraced, if_pos (beq_self_eq_true _)]
      generalize hw : rest.takeWhile
        (fun a => a != CodePoint.ofChar '\x7d') = w at hsplit ⊢
      generalize hdrop : rest.dropWhile
        (fun a => a != CodePoint.ofChar '\x7d') = r at hsplit hnot ⊢
      cases r with
      | nil => exact Or.inl rfl
      | cons b tail =>
        have hb : b = CodePoint.ofChar '\x7d' := by
          simpa using hnot (List.cons_ne_nil b tail)
        by_cases hlength : 1 ≤ w.length ∧ w.length ≤ 6
        · refine Or.inr ⟨w, tail, by rw [← hsplit, hb], ?_, hlength⟩
          rw [← hw]
          intro hmem
          simpa using List.mem_takeWhile_imp hmem
        · exact Or.inl (if_neg hlength)
    · exact Or.inl (if_neg (by simpa using hc))

/-- What is in the braces is read as a numeral. -/
theorem readBraced_braces {w : Text} (hclosing : CodePoint.ofChar '\x7d' ∉ w)
    (hpos : 1 ≤ w.length) (hlength : w.length ≤ 6) (tail : Text) :
    readBraced (CodePoint.ofChar '\x7b' :: (w ++ CodePoint.ofChar '\x7d' :: tail)) =
      match Hexadecimal.ofText? w with
      | none => .ok none
      | some (.negSucc _) => .error .negativeCodePoint
      | some (.ofNat n) => .ok ((CodePoint.ofNat? n).map fun x => (x, tail)) := by
  obtain ⟨htake, hdrop⟩ := span_closing hclosing tail
  simp only [readBraced, beq_self_eq_true, if_true, htake, hdrop]
  exact if_pos ⟨hpos, hlength⟩

theorem readBraced_eq_error_iff {f : Fault} :
    readBraced t = .error f ↔ NegativeGroup t := by
  constructor
  · intro h
    rcases readBraced_cases t with hnone | ⟨w, tail, rfl, hclosing, hpos, hlength⟩
    · rw [hnone] at h
      cases h
    · rw [readBraced_braces hclosing hpos hlength] at h
      split at h
      · cases h
      · rename_i n hn
        exact ⟨w, tail, n, rfl, hclosing, hpos, hlength, hn⟩
      · cases h
  · rintro ⟨w, tail, n, rfl, hclosing, hpos, hlength, hn⟩
    rw [readBraced_braces hclosing hpos hlength, hn]

theorem suffix_of_readBraced {tail : Text} (h : readBraced t = .ok (some (x, tail))) :
    tail <:+ t := by
  rcases readBraced_cases t with hnone | ⟨w, tail', rfl, hclosing, hpos, hlength⟩
  · rw [hnone] at h
    cases h
  · rw [readBraced_braces hclosing hpos hlength] at h
    split at h
    · cases h
    · cases h
    · simp only [Except.ok.injEq, Option.map_eq_some_iff, Prod.mk.injEq] at h
      obtain ⟨_, -, -, rfl⟩ := h
      have hrest := (List.suffix_cons (CodePoint.ofChar '\x7d') tail').trans
        (List.suffix_append w (CodePoint.ofChar '\x7d' :: tail'))
      exact hrest.trans (List.suffix_cons _ _)

/-! ## The way of the reader -/

/-- The reader gives `x` for the front of a text and goes on with the rest. -/
inductive Step (d : Dialect) : Text → CodePoint → Text → Prop
  | last (c : CodePoint) : Step d [c] c []
  | numbered {a x : CodePoint} {rest tail : Text} (ha : d.isEscape a = true)
      (hx : readBraced rest = .ok (some (x, tail))) :
      Step d (a :: CodePoint.ofChar 'u' :: rest) x tail
  | unnumbered {a : CodePoint} {rest : Text} (ha : d.isEscape a = true)
      (hx : readBraced rest = .ok none) :
      Step d (a :: CodePoint.ofChar 'u' :: rest) (CodePoint.ofChar 'u') rest
  | escaped {a n : CodePoint} {rest : Text} (ha : d.isEscape a = true)
      (hn : n ≠ CodePoint.ofChar 'u') : Step d (a :: n :: rest) (escaped n) rest
  | quotes {a b : CodePoint} {rest : Text} (ha : d.isEscape a = false)
      (hq : (d.isDoubleQuote a && d.isDoubleQuote b) = true) :
      Step d (a :: b :: rest) a rest
  | plain {a b : CodePoint} {rest : Text} (ha : d.isEscape a = false)
      (hq : (d.isDoubleQuote a && d.isDoubleQuote b) = false) :
      Step d (a :: b :: rest) a (b :: rest)

/-- The reader stands at an escape that asks for a negative number. -/
def Stuck (d : Dialect) (t : Text) : Prop :=
  ∃ a rest, t = a :: CodePoint.ofChar 'u' :: rest ∧ d.isEscape a = true ∧
    NegativeGroup rest

/-- The reader comes to a place where it is stuck. -/
inductive MeetsNegative (d : Dialect) : Text → Prop
  | here {t : Text} (h : Stuck d t) : MeetsNegative d t
  | later {t rest : Text} {x : CodePoint} (h : Step d t x rest)
      (hrest : MeetsNegative d rest) : MeetsNegative d t

/-- At an escape with the letter behind it that asks for a number. -/
theorem unescape_numeric {a : CodePoint} (ha : d.isEscape a = true) (rest : Text) :
    unescape d (a :: CodePoint.ofChar 'u' :: rest) =
      match readBraced rest with
      | .error e => .error e
      | .ok (some (x, tail)) => (unescape d tail).map (x :: ·)
      | .ok none => (unescape d rest).map (CodePoint.ofChar 'u' :: ·) := by
  rw [unescape, if_pos ha, if_pos (beq_self_eq_true _)]
  split <;> rename_i hread <;> rw [hread]

theorem unescape_of_step (h : Step d t x rest) :
    unescape d t = (unescape d rest).map (x :: ·) := by
  cases h with
  | last =>
    rw [unescape, unescape]
    rfl
  | numbered ha hx => rw [unescape_numeric ha, hx]
  | unnumbered ha hx => rw [unescape_numeric ha, hx]
  | escaped ha hn => rw [unescape, if_pos ha, if_neg (by simpa using hn)]
  | quotes ha hq => rw [unescape, if_neg (by simpa using ha), if_pos hq]
  | plain ha hq =>
    rw [unescape, if_neg (by simpa using ha), if_neg (by simpa using hq)]

theorem unescape_of_stuck (h : Stuck d t) :
    unescape d t = .error .negativeCodePoint := by
  obtain ⟨a, rest, rfl, ha, hgroup⟩ := h
  have hread := readBraced_eq_error_iff (f := .negativeCodePoint).mpr hgroup
  rw [unescape_numeric ha, hread]

/-- Unless it is stuck, the reader can take a step. -/
theorem exists_step (h : ¬ Stuck d t) (ht : t ≠ []) : ∃ x rest, Step d t x rest := by
  match t with
  | [] => exact absurd rfl ht
  | [c] => exact ⟨c, [], .last c⟩
  | a :: b :: rest =>
    cases ha : d.isEscape a with
    | true =>
      by_cases hb : b = CodePoint.ofChar 'u'
      · subst hb
        cases hread : readBraced rest with
        | error e =>
          exact absurd ⟨a, rest, rfl, ha, readBraced_eq_error_iff.mp hread⟩ h
        | ok o =>
          cases o with
          | none => exact ⟨_, _, .unnumbered ha hread⟩
          | some p => exact ⟨_, _, .numbered ha hread⟩
      · exact ⟨_, _, .escaped ha hb⟩
    | false =>
      cases hq : d.isDoubleQuote a && d.isDoubleQuote b with
      | true => exact ⟨_, _, .quotes ha hq⟩
      | false => exact ⟨_, _, .plain ha hq⟩

theorem Step.length_lt (h : Step d t x rest) : rest.length < t.length := by
  cases h with
  | numbered ha hx =>
    have := lt_of_readBraced hx
    simp only [List.length_cons]
    omega
  | _ =>
    simp only [List.length_cons]
    omega

/-- Reading fails exactly if the reader comes to an escape that asks for a
negative number. -/
theorem unescape_eq_error_iff {f : Fault} :
    unescape d t = .error f ↔ MeetsNegative d t := by
  cases f
  constructor
  · intro h
    induction hn : t.length using Nat.strong_induction_on generalizing t with
    | _ n ih =>
      by_cases hstuck : Stuck d t
      · exact .here hstuck
      · have ht : t ≠ [] := by
          rintro rfl
          rw [unescape] at h
          cases h
        obtain ⟨x, rest, hstep⟩ := exists_step hstuck ht
        rw [unescape_of_step hstep] at h
        refine .later hstep (ih rest.length (hn ▸ hstep.length_lt) ?_ rfl)
        cases hrest : unescape d rest with
        | error f => rfl
        | ok v =>
          rw [hrest] at h
          cases h
  · intro h
    induction h with
    | here h => exact unescape_of_stuck h
    | later hstep _ ih =>
      rw [unescape_of_step hstep, ih]
      rfl

theorem Step.suffix (h : Step d t x rest) : rest <:+ t := by
  cases h with
  | last c => exact List.nil_suffix
  | numbered ha hx =>
    exact ((suffix_of_readBraced hx).trans (List.suffix_cons _ _)).trans
      (List.suffix_cons _ _)
  | plain ha hq => exact List.suffix_cons _ _
  | _ => exact (List.suffix_cons _ _).trans (List.suffix_cons _ _)

/-- Such a text has a minus sign in it. -/
theorem MeetsNegative.minus_mem (h : MeetsNegative d t) :
    CodePoint.ofChar '-' ∈ t := by
  induction h with
  | here h =>
    obtain ⟨a, rest, rfl, -, digits, tail, n, rfl, -, -, -, hn⟩ := h
    have hminus :=
      (Hexadecimal.ofText?_eq_some_iff.mp hn).minus_mem (Int.negSucc_lt_zero n)
    simp only [List.mem_cons, List.mem_append]
    exact Or.inr (Or.inr (Or.inr (Or.inl hminus)))
  | later hstep _ ih => exact hstep.suffix.subset ih

end DoubleQuoted

/-! ## Arguments and configured dialects -/

open DoubleQuoted

variable {d : Dialect} {t : Text}

theorem Argument.unquote_eq_error_iff {literal : Bool} {f : DoubleQuoted.Fault} :
    Argument.unquote d t literal = .error f ↔
      Argument.body? d.isSingleQuote t = none ∧
        ∃ b, Argument.body? d.isDoubleQuote t = some b ∧ MeetsNegative d b := by
  have hmap : Argument.unquote d t literal = .error f ↔
      Argument.unwrap d t = .error f := by
    rw [Argument.unquote]
    cases Argument.unwrap d t <;> simp [Except.map]
  rw [hmap, Argument.unwrap]
  cases Argument.body? d.isSingleQuote t with
  | some b => simp
  | none =>
    cases Argument.body? d.isDoubleQuote t with
    | none => simp
    | some b => simp [unescape_eq_error_iff]

/-- An escape of one code point is enough for a text that cannot be read. -/
theorem DoubleQuoted.unescape_negative {e : CodePoint} (he : d.escape = [e]) :
    unescape d (e :: Text.ofString "u\x7b-1\x7d") = .error .negativeCodePoint :=
  unescape_of_stuck ⟨e, _, rfl, Dialect.isEscape_self he, ['-', '1'], [], 0,
    rfl, by decide, by decide, by decide, by cbv⟩

/-- Reading a double-quoted string fails exactly where it comes to a negative
number, and reading an argument where that stands between double quotes.  A text
without a minus sign is safe; but each dialect that a document can configure has
a text that cannot be read. -/
theorem reading_fails_iff (d : Dialect) (t : Text) (literal : Bool) :
    ((∃ f, DoubleQuoted.unescape d t = .error f) ↔ MeetsNegative d t) ∧
    ((∃ f, Argument.unquote d t literal = .error f) ↔
      Argument.body? d.isSingleQuote t = none ∧
        ∃ b, Argument.body? d.isDoubleQuote t = some b ∧ MeetsNegative d b) ∧
    (MeetsNegative d t → CodePoint.ofChar '-' ∈ t) ∧
    ∀ (homes : Path.Homes) (document : List Char) (c : Config),
      Config.ofDocument homes document = .ok c → c.dialect = .ok d →
        ∃ u, DoubleQuoted.unescape d u = .error .negativeCodePoint := by
  refine ⟨?_, ?_, MeetsNegative.minus_mem, ?_⟩
  · constructor
    · rintro ⟨f, hf⟩
      exact unescape_eq_error_iff.mp hf
    · intro h
      exact ⟨.negativeCodePoint, unescape_eq_error_iff.mpr h⟩
  · constructor
    · rintro ⟨f, hf⟩
      exact Argument.unquote_eq_error_iff.mp hf
    · intro h
      exact ⟨.negativeCodePoint, Argument.unquote_eq_error_iff.mpr h⟩
  · intro homes document c hc hd
    rw [Config.ofDocument] at hc
    split at hc
    · have hlength := Config.length_get_of_wellFormed
        (Config.says_of_ofTable hc).wellFormed hd (f := .escape) rfl
      obtain ⟨e, he⟩ := List.length_eq_one_iff.mp hlength
      exact ⟨_, unescape_negative he⟩
    · cases hc

/-- A document that says nothing configures the PowerShell dialect. -/
theorem reading_fails_iff_empty :
    Config.ofDocument ⟨[], []⟩ [] = .ok .empty ∧
      Config.empty.dialect = .ok Dialect.powerShell ∧
      ∃ u, DoubleQuoted.unescape Dialect.powerShell u =
        .error .negativeCodePoint := by
  have hdocument : Config.ofDocument ⟨[], []⟩ [] = .ok .empty := by cbv
  exact ⟨hdocument, rfl,
    (reading_fails_iff Dialect.powerShell [] false).2.2.2 ⟨[], []⟩ [] .empty
      hdocument rfl⟩

/-- A negative number after an escape cannot be read there, nor in an argument. -/
theorem unescape_negative_powerShell :
    Config.ofDocument ⟨[], []⟩ [] = .ok .empty ∧
      Config.empty.dialect = .ok Dialect.powerShell ∧
      DoubleQuoted.unescape Dialect.powerShell "\x60u\x7b-1\x7d" =
        .error .negativeCodePoint ∧
      ∀ literal, Argument.unquote Dialect.powerShell
        "\x22\x60u\x7b-1\x7d\x22" literal = .error .negativeCodePoint := by
  have hbody : DoubleQuoted.unescape Dialect.powerShell "\x60u\x7b-1\x7d" =
      .error .negativeCodePoint := DoubleQuoted.unescape_negative rfl
  refine ⟨by cbv, rfl, hbody, ?_⟩
  intro literal
  exact Argument.unquote_eq_error_iff.mpr ⟨rfl, _, rfl,
    unescape_eq_error_iff.mp hbody⟩

end ScriptQuote
