import ScriptQuote.Context.DoubleQuoted
import ScriptQuote.Proofs.Text.Pieces

/-!
# Double-quoted strings, written and met again

Writing tests each code point three times, for the sigil, the double quotes and the
escape, and the three classes may overlap.  There are two ways to meet the output again:
the reader that gives the text back, and the grammar, which looks for the closing quote
and fills in variables on the way.

There are three groups.

* What is written.  `SigilApart` says that the sigil is neither the escape nor a double
  quote.  `emit_cases` then gives the three pieces that are written.
* Reading back.  `unescape_escape_append` is the round trip in front of any string, and
  `unescape_escape_iff` gives the dialects in which every text comes back.
* The extent of the literal.  `extent` is the scan that the grammar makes.
  `extent_escape_append` says that it passes what was written, meets no sigil in it that
  would start a variable, and stops at the quote behind it.
-/

namespace ScriptQuote.DoubleQuoted

open Dialect

variable {d : Dialect} {e s c : CodePoint}

/-! ## What is written -/

/-- The escape and the sigil are one code point each, and the sigil is neither
the escape nor a double quote.  The escape may be a double quote. -/
structure SigilApart (d : Dialect) (e s : CodePoint) : Prop where
  escape_eq : d.escape = [e]
  sigil_eq : d.sigil = [s]
  ne_escape : s ≠ e
  not_quote : d.isDoubleQuote s = false

theorem emit_of_sigil (he : d.escape = [e]) (hc : d.isSigil c = true) :
    emit d c = e :: if d.isDoubleQuote c || d.isEscape c then [c, c] else [c] := by
  rw [emit, if_pos hc, he]
  rfl

theorem emit_of_not_sigil (hc : d.isSigil c = false) :
    emit d c = if d.isDoubleQuote c || d.isEscape c then [c, c] else [c] := by
  rw [emit, hc]
  rfl

theorem emit_ne_nil (d : Dialect) (c : CodePoint) : emit d c ≠ [] := by
  apply List.append_ne_nil_of_right_ne_nil
  split <;> exact List.cons_ne_nil _ _

/-- Three pieces are written: an escape with the escape or the sigil behind it,
a double quote twice, and any other code point as it is. -/
theorem emit_cases (h : SigilApart d e s) (c : CodePoint) :
    emit d c = [e, c] ∧ (c = e ∨ c = s) ∨
      (c ≠ e ∧ c ≠ s) ∧
        (emit d c = [c, c] ∧ d.isDoubleQuote c = true ∨
          emit d c = [c] ∧ d.isDoubleQuote c = false) := by
  by_cases hcs : c = s
  · subst c
    have hplain : (d.isDoubleQuote s || d.isEscape s) = false := by
      rw [h.not_quote, isEscape_eq_false h.escape_eq h.ne_escape, Bool.or_false]
    rw [emit_of_sigil h.escape_eq (isSigil_self h.sigil_eq), hplain]
    exact Or.inl ⟨rfl, Or.inr rfl⟩
  · rw [emit_of_not_sigil (isSigil_eq_false h.sigil_eq hcs)]
    by_cases hce : c = e
    · subst c
      rw [isEscape_self h.escape_eq, Bool.or_true]
      exact Or.inl ⟨rfl, Or.inl rfl⟩
    · rw [isEscape_eq_false h.escape_eq hce, Bool.or_false]
      refine Or.inr ⟨⟨hce, hcs⟩, ?_⟩
      cases d.isDoubleQuote c with
      | true => exact Or.inl ⟨rfl, rfl⟩
      | false => exact Or.inr ⟨rfl, rfl⟩

/-! ## Reading back -/

/-- The letters of the escape table. -/
def tableLetters : Text := ['0', 'a', 'b', 'e', 'f', 'n', 'r', 't', 'v']

/-- The letters that mean something else behind an escape: those of the table,
and the one that a number in braces may follow. -/
def escapeLetters : Text := tableLetters ++ (['u'] : Text)

theorem not_mem_escapeLetters_iff :
    c ∉ escapeLetters ↔ c ≠ 'u' ∧ c ∉ tableLetters := by
  rw [escapeLetters, List.mem_append, List.mem_singleton, not_or]
  exact And.comm

/-- Behind an escape a code point means itself exactly if the table does not have it. -/
theorem escaped_eq_self_iff : escaped c = c ↔ c ∉ tableLetters := by
  have htable : ∀ c ∈ tableLetters, escaped c ≠ c := by decide
  constructor
  · intro h hc
    exact htable c hc h
  · intro hc
    have hnone : escapeTable.find? (fun p => c == CodePoint.ofChar p.1) = none := by
      rw [List.find?_eq_none]
      intro p hp h
      rw [beq_iff_eq] at h
      exact hc (h ▸ List.mem_map_of_mem (f := fun p => CodePoint.ofChar p.1) hp)
    rw [escaped, hnone]

/-- The dialects in which every text comes back from double quotes: the sigil is
apart, and neither it nor the escape means something else behind an escape. -/
structure Invertible (d : Dialect) (e s : CodePoint) :
    Prop extends SigilApart d e s where
  escape_letter : e ∉ escapeLetters
  sigil_letter : s ∉ escapeLetters

theorem unescape_escaped {a n : CodePoint} (ha : d.isEscape a = true) (hn : n ≠ 'u')
    (tail : Text) :
    unescape d (a :: n :: tail) = (unescape d tail).map (escaped n :: ·) := by
  rw [unescape, if_pos ha, if_neg]
  rw [beq_iff_eq]
  exact hn

theorem unescape_quotes {a b : CodePoint} (hesc : d.isEscape a = false)
    (ha : d.isDoubleQuote a = true) (hb : d.isDoubleQuote b = true) (tail : Text) :
    unescape d (a :: b :: tail) = (unescape d tail).map (a :: ·) := by
  rw [unescape, hesc, ha, hb]
  rfl

theorem unescape_plain (hesc : d.isEscape c = false) (hc : d.isDoubleQuote c = false)
    (tail : Text) : unescape d (c :: tail) = (unescape d tail).map (c :: ·) := by
  cases tail with
  | nil =>
    rw [unescape, unescape]
    rfl
  | cons n rest =>
    rw [unescape, hesc, hc]
    rfl

/-- A piece in front of any string reads as its code point in front of that. -/
theorem unescape_emit_append (h : Invertible d e s) (c : CodePoint) (tail : Text) :
    unescape d (emit d c ++ tail) = (unescape d tail).map (c :: ·) := by
  rcases emit_cases h.toSigilApart c with
    ⟨hemit, hc⟩ | ⟨⟨hce, -⟩, ⟨hemit, hq⟩ | ⟨hemit, hq⟩⟩ <;> rw [hemit]
  · have hletter : c ∉ escapeLetters := by
      rcases hc with rfl | rfl
      · exact h.escape_letter
      · exact h.sigil_letter
    obtain ⟨hcu, hct⟩ := not_mem_escapeLetters_iff.mp hletter
    show unescape d (e :: c :: tail) = _
    rw [unescape_escaped (isEscape_self h.escape_eq) hcu, escaped_eq_self_iff.mpr hct]
  · exact unescape_quotes (isEscape_eq_false h.escape_eq hce) hq hq tail
  · exact unescape_plain (isEscape_eq_false h.escape_eq hce) hq tail

private theorem foldr_map_cons (v : Text) (r : Except Fault Text) :
    v.foldr (fun c r => r.map (c :: ·)) r = r.map (v ++ ·) := by
  induction v with
  | nil => cases r <;> rfl
  | cons c v ih =>
    rw [List.foldr_cons, ih]
    cases r <;> rfl

/-- A written text in front of any string reads as itself in front of that. -/
theorem unescape_escape_append (h : Invertible d e s) (v tail : Text) :
    unescape d (escape d v ++ tail) = (unescape d tail).map (v ++ ·) := by
  rw [escape, Text.read_flatMap_append (unescape_emit_append h), foldr_map_cons]

theorem unescape_escape (h : Invertible d e s) (v : Text) :
    unescape d (escape d v) = .ok v := by
  have happend := unescape_escape_append h v []
  rwa [unescape, List.append_nil, Except.map, List.append_nil] at happend

theorem escape_singleton (d : Dialect) (c : CodePoint) : escape d [c] = emit d c := by
  rw [escape, List.flatMap_singleton]

/-- A sigil that is the escape or a double quote is written as three code
points, and these read as two. -/
theorem unescape_escape_sigil_ne (he : d.escape = [e]) (hs : d.sigil = [s])
    (hsu : s ≠ 'u') (hclash : (d.isDoubleQuote s || d.isEscape s) = true) :
    unescape d (escape d [s]) ≠ .ok [s] := by
  rw [escape_singleton, emit_of_sigil he (isSigil_self hs), hclash]
  show unescape d (e :: s :: [s]) ≠ _
  rw [unescape_escaped (isEscape_self he) hsu, unescape]
  intro h
  have hlength := congrArg List.length (Except.ok.inj h)
  simp at hlength

/-- A code point that is written behind an escape has to mean itself there. -/
theorem not_mem_tableLetters_of_unescape (he : d.escape = [e]) (hcu : c ≠ 'u')
    (hemit : emit d c = [e, c]) (h : unescape d (escape d [c]) = .ok [c]) :
    c ∉ tableLetters := by
  rw [escape_singleton, hemit, unescape_escaped (isEscape_self he) hcu, unescape] at h
  exact escaped_eq_self_iff.mp (List.cons.inj (Except.ok.inj h)).1

/-- If every text comes back, the dialect is one of those. -/
theorem invertible_of_unescape_escape (he : d.escape = [e]) (hs : d.sigil = [s])
    (heu : e ≠ 'u') (hsu : s ≠ 'u')
    (h : ∀ v, unescape d (escape d v) = .ok v) :
    Invertible d e s := by
  have hclash : (d.isDoubleQuote s || d.isEscape s) = false := by
    rw [Bool.eq_false_iff]
    exact fun hclash => unescape_escape_sigil_ne he hs hsu hclash (h [s])
  obtain ⟨hquote, hescape⟩ := Bool.or_eq_false_iff.mp hclash
  have hse : s ≠ e := by
    rintro rfl
    rw [isEscape_self he] at hescape
    exact Bool.noConfusion hescape
  have hapart : SigilApart d e s := ⟨he, hs, hse, hquote⟩
  have hemit : ∀ c, c = e ∨ c = s → emit d c = [e, c] := by
    intro c hc
    rcases emit_cases hapart c with ⟨hemit, -⟩ | ⟨⟨hce, hcs⟩, -⟩
    · exact hemit
    · exact absurd hc (not_or.mpr ⟨hce, hcs⟩)
  refine ⟨hapart, not_mem_escapeLetters_iff.mpr ⟨heu, ?_⟩,
    not_mem_escapeLetters_iff.mpr ⟨hsu, ?_⟩⟩
  · exact not_mem_tableLetters_of_unescape he heu (hemit e (Or.inl rfl)) (h [e])
  · exact not_mem_tableLetters_of_unescape he hsu (hemit s (Or.inr rfl)) (h [s])

/-- Every text comes back from double quotes exactly if the sigil is neither the
escape nor a double quote and the table has neither of the two. -/
theorem unescape_escape_iff (he : d.escape = [e]) (hs : d.sigil = [s]) (heu : e ≠ 'u')
    (hsu : s ≠ 'u') :
    (∀ v, unescape d (escape d v) = .ok v) ↔
      s ≠ e ∧ d.isDoubleQuote s = false ∧ e ∉ tableLetters ∧ s ∉ tableLetters := by
  constructor
  · intro h
    have hd := invertible_of_unescape_escape he hs heu hsu h
    exact ⟨hd.ne_escape, hd.not_quote,
      (not_mem_escapeLetters_iff.mp hd.escape_letter).2,
      (not_mem_escapeLetters_iff.mp hd.sigil_letter).2⟩
  · rintro ⟨hse, hquote, het, hst⟩ v
    refine unescape_escape ⟨⟨he, hs, hse, hquote⟩, ?_, ?_⟩ v
    · exact not_mem_escapeLetters_iff.mpr ⟨heu, het⟩
    · exact not_mem_escapeLetters_iff.mpr ⟨hsu, hst⟩

/-- The escape is a double quote here, so quotes and escapes are the same pairs. -/
theorem unescape_escape_quoteEscape :
    (powerShell.set .escape ['\x22']).isDoubleQuote '\x22' = true ∧
      ∀ v, unescape (powerShell.set .escape ['\x22'])
        (escape (powerShell.set .escape ['\x22']) v) = .ok v :=
  ⟨by decide, (unescape_escape_iff (e := '\x22') (s := '$')
    rfl rfl (by decide) (by decide)).mpr (by decide)⟩

/-! ## The extent of the literal

The grammar finds the end of a literal without reading it: an escape hides what
is behind it, two double quotes side by side are one that is meant as text, and
a double quote alone closes.  Everything else is content, and a sigil there
starts a variable. -/

/-- What a scan of a literal comes to. -/
structure Extent where
  /-- Where the quote stands that closes the literal, if one does. -/
  closing : Option Nat
  /-- Where a sigil stands before that, other than behind an escape. -/
  sigils : List Nat
deriving DecidableEq

/-- Notes `c`, at position `i`, if it is a sigil. -/
def Extent.note (d : Dialect) (i : Nat) (c : CodePoint) (x : Extent) : Extent :=
  if d.isSigil c then { x with sigils := i :: x.sigils } else x

/-- Scans a text whose first code point is at position `i`. -/
def extentFrom (d : Dialect) (i : Nat) : Text → Extent
  | [] => ⟨none, []⟩
  | [c] => if d.isDoubleQuote c then ⟨some i, []⟩ else Extent.note d i c ⟨none, []⟩
  | c :: n :: rest =>
    if d.isEscape c then Extent.note d i c (extentFrom d (i + 2) rest)
    else if d.isDoubleQuote c && d.isDoubleQuote n then
      Extent.note d i c (Extent.note d (i + 1) n (extentFrom d (i + 2) rest))
    else if d.isDoubleQuote c then ⟨some i, []⟩
    else Extent.note d i c (extentFrom d (i + 1) (n :: rest))

/-- Scans what stands behind the quote that opens a literal. -/
def extent (d : Dialect) (t : Text) : Extent := extentFrom d 0 t

theorem Extent.note_of_ne (hs : d.sigil = [s]) (hc : c ≠ s) (i : Nat) (x : Extent) :
    x.note d i c = x := by
  rw [Extent.note, isSigil_eq_false hs hc]
  rfl

theorem extentFrom_escaped (h : SigilApart d e s) (i : Nat) (n : CodePoint)
    (tail : Text) :
    extentFrom d i (e :: n :: tail) = extentFrom d (i + 2) tail := by
  rw [extentFrom, if_pos (isEscape_self h.escape_eq),
    Extent.note_of_ne h.sigil_eq h.ne_escape.symm]

theorem extentFrom_quotes (h : SigilApart d e s) (hce : c ≠ e) (hcs : c ≠ s)
    (hq : d.isDoubleQuote c = true) (i : Nat) (tail : Text) :
    extentFrom d i (c :: c :: tail) = extentFrom d (i + 2) tail := by
  rw [extentFrom, isEscape_eq_false h.escape_eq hce, hq]
  show Extent.note d i c (Extent.note d (i + 1) c (extentFrom d (i + 2) tail)) = _
  rw [Extent.note_of_ne h.sigil_eq hcs, Extent.note_of_ne h.sigil_eq hcs]

theorem extentFrom_plain (h : SigilApart d e s) (hce : c ≠ e) (hcs : c ≠ s)
    (hq : d.isDoubleQuote c = false) (i : Nat) (tail : Text) :
    extentFrom d i (c :: tail) = extentFrom d (i + 1) tail := by
  cases tail with
  | nil =>
    show (if d.isDoubleQuote c then _ else Extent.note d i c ⟨none, []⟩) = ⟨none, []⟩
    rw [hq, Extent.note_of_ne h.sigil_eq hcs]
    rfl
  | cons n rest =>
    rw [extentFrom, isEscape_eq_false h.escape_eq hce, hq]
    show Extent.note d i c (extentFrom d (i + 1) (n :: rest)) = _
    rw [Extent.note_of_ne h.sigil_eq hcs]

/-- A piece that was written is passed as a whole, and no sigil is noted in it. -/
theorem extentFrom_emit_append (h : SigilApart d e s) (i : Nat) (c : CodePoint)
    (tail : Text) :
    extentFrom d i (emit d c ++ tail) =
      extentFrom d (i + (emit d c).length) tail := by
  rcases emit_cases h c with
    ⟨hemit, -⟩ | ⟨⟨hce, hcs⟩, ⟨hemit, hq⟩ | ⟨hemit, hq⟩⟩ <;> rw [hemit]
  · exact extentFrom_escaped h i c tail
  · exact extentFrom_quotes h hce hcs hq i tail
  · exact extentFrom_plain h hce hcs hq i tail

/-- A double quote other than the escape closes if no further one follows. -/
theorem extentFrom_closing {q : CodePoint} {rest : Text}
    (hesc : d.isEscape q = false) (hq : d.isDoubleQuote q = true)
    (hrest : ∀ c ∈ rest.head?, d.isDoubleQuote c = false) (i : Nat) :
    extentFrom d i (q :: rest) = ⟨some i, []⟩ := by
  cases rest with
  | nil => rw [extentFrom, if_pos hq]
  | cons n rest =>
    rw [extentFrom, hesc, hq, hrest n rfl]
    rfl

/-- A literal ends at the quote behind what was written, and no sigil in it
starts a variable, whatever the text is.  What follows the quote must not be a
double quote itself. -/
theorem extent_escape_append (he : d.escape = [e]) (hs : d.sigil = [s]) (hse : s ≠ e)
    (hquote : d.isDoubleQuote s = false) (v : Text) {q : CodePoint}
    (hq : d.isDoubleQuote q = true) (hqe : q ≠ e) {rest : Text}
    (hrest : ∀ c ∈ rest.head?, d.isDoubleQuote c = false) :
    extent d (escape d v ++ [q] ++ rest) = ⟨some (escape d v).length, []⟩ := by
  have hapart : SigilApart d e s := ⟨he, hs, hse, hquote⟩
  have hpass :=
    Text.scan_flatMap_append (extentFrom_emit_append hapart) 0 v ([q] ++ rest)
  rw [Nat.zero_add] at hpass
  rw [List.append_assoc, extent, escape, hpass]
  exact extentFrom_closing (isEscape_eq_false he hqe) hq hrest _

/-- A text that ends in an escape, closed by a curly quote, with a variable
behind the literal. -/
theorem extent_escape_append_powerShell :
    powerShell.isDoubleQuote '”' = true ∧
      extent powerShell
        (escape powerShell "$x“\x22\x60" ++ (['”'] : Text) ++
          Text.ofString "$y") = ⟨some 9, []⟩ :=
  ⟨by decide, extent_escape_append (e := '\x60') (s := '$')
    rfl rfl (by decide) (by decide) "$x“\x22\x60" (by decide) (by decide)
    (by decide)⟩

end ScriptQuote.DoubleQuoted
