import ScriptQuote.Context.Wildcard
import ScriptQuote.Proofs.Text.Guarded
import ScriptQuote.Proofs.Text.Pieces

/-!
# Reading wildcard patterns back

The writer puts the escape before wildcard characters and before itself, and the
reader drops each escape with something after it.  `unescape_guarded_append` is
about any writer that puts the escape before itself, whatever else it puts it
before: the reader comes out of what was written at its end, whatever follows.
`unescape_escape_append` is the writer of patterns.  The escape may itself be a
wildcard character.

`isLive_escape_append` is the same way through a text for the search for a
wildcard: in what the writer puts, each has an escape before it.

`behindEscapes` lists what the escapes of a text are there for.
`escape_unescape` says that a text is what the writer makes of its own reading,
if no wildcard is live in it and every escape is there for something special.
With the round trip, these are exactly the texts that are ever written.
-/

namespace ScriptQuote.Wildcard

open Text (guardPiece guarded guardPiece_cases)

variable {p : CodePoint → Bool} {e c : CodePoint} {v : Text}

/-! ## What is written -/

/-- Has the code point an escape before it in a pattern? -/
def isSpecial (e c : CodePoint) : Bool := isMeta c || c == e

theorem isSpecial_iff : isSpecial e c = true ↔ isMeta c = true ∨ c = e := by
  rw [isSpecial, Bool.or_eq_true, beq_iff_eq]

theorem isSpecial_eq_false_iff :
    isSpecial e c = false ↔ isMeta c = false ∧ c ≠ e := by
  rw [isSpecial, Bool.or_eq_false_iff, beq_eq_false_iff_ne]

theorem isSpecial_self (e : CodePoint) : isSpecial e e = true :=
  isSpecial_iff.mpr (Or.inr rfl)

/-- The writer puts the escape before what is special. -/
theorem escape_eq_guarded (e : CodePoint) (v : Text) :
    escape [e] v = guarded (isSpecial e) e v := by
  have hpiece : emit [e] = guardPiece (isSpecial e) e := by
    funext c
    simp [emit, guardPiece, isSpecial]
  rw [escape, guarded, hpiece]

/-! ## The reader -/

theorem unescape_escaped (e c : CodePoint) (tail : Text) :
    unescape [e] (e :: c :: tail) = c :: unescape [e] tail := by
  rw [unescape, if_pos (beq_self_eq_true _)]

theorem unescape_plain (hc : c ≠ e) (tail : Text) :
    unescape [e] (c :: tail) = c :: unescape [e] tail := by
  cases tail with
  | nil => rfl
  | cons n rest =>
    rw [unescape, if_neg]
    simp [hc]

theorem unescape_guardPiece_append (he : p e = true) (c : CodePoint) (tail : Text) :
    unescape [e] (guardPiece p e c ++ tail) = c :: unescape [e] tail := by
  rcases guardPiece_cases p e c with ⟨hguard, -⟩ | ⟨hguard, hc⟩ <;> rw [hguard]
  · exact unescape_escaped e c tail
  · refine unescape_plain ?_ tail
    rintro rfl
    rw [he] at hc
    cases hc

/-- A text with escapes put in, the escape before itself among them, reads as
itself in front of anything. -/
theorem unescape_guarded_append (he : p e = true) (v tail : Text) :
    unescape [e] (guarded p e v ++ tail) = v ++ unescape [e] tail := by
  rw [guarded, Text.read_flatMap_append (unescape_guardPiece_append he),
    List.foldr_cons_eq_append']

theorem unescape_guarded (he : p e = true) (v : Text) :
    unescape [e] (guarded p e v) = v := by
  have happend := unescape_guarded_append he v []
  rwa [unescape, List.append_nil, List.append_nil] at happend

/-- A written text in front of any pattern reads as itself in front of that. -/
theorem unescape_escape_append (e : CodePoint) (v tail : Text) :
    unescape [e] (escape [e] v ++ tail) = v ++ unescape [e] tail := by
  rw [escape_eq_guarded, unescape_guarded_append (isSpecial_self e)]

theorem unescape_escape (e : CodePoint) (v : Text) :
    unescape [e] (escape [e] v) = v := by
  rw [escape_eq_guarded, unescape_guarded (isSpecial_self e)]

/-! ## The search for a wildcard -/

theorem isLive_escaped (e c : CodePoint) (tail : Text) :
    isLive [e] (e :: c :: tail) = isLive [e] tail := by
  rw [isLive, if_pos (beq_self_eq_true _)]

theorem isLive_plain (hc : c ≠ e) (hmeta : isMeta c = false) (tail : Text) :
    isLive [e] (c :: tail) = isLive [e] tail := by
  cases tail with
  | nil => simp [isLive, hmeta]
  | cons n rest =>
    rw [isLive, if_neg (by simp [hc]), hmeta]
    exact Bool.false_or _

/-- A written text adds no wildcard that is live, and takes the life of none
behind it. -/
theorem isLive_escape_append (e : CodePoint) (v tail : Text) :
    isLive [e] (escape [e] v ++ tail) = isLive [e] tail := by
  rw [escape_eq_guarded]
  induction v with
  | nil => rfl
  | cons c v ih =>
    rw [Text.guarded_cons, List.append_assoc]
    rcases guardPiece_cases (isSpecial e) e c with
      ⟨hguard, -⟩ | ⟨hguard, hc⟩ <;> rw [hguard]
    · exact (isLive_escaped e c _).trans ih
    · obtain ⟨hmeta, hne⟩ := isSpecial_eq_false_iff.mp hc
      exact (isLive_plain hne hmeta _).trans ih

theorem isLive_escape (e : CodePoint) (v : Text) :
    isLive [e] (escape [e] v) = false := by
  have happend := isLive_escape_append e v []
  rwa [List.append_nil] at happend

theorem isLive_cons_eq_false_iff (hc : c ≠ e) {tail : Text} :
    isLive [e] (c :: tail) = false ↔ isMeta c = false ∧ isLive [e] tail = false := by
  cases tail <;> simp [isLive, hc]

/-! ## What can be written -/

/-- What stands behind each escape of a text, if anything does.  From the left,
an escape is taken together with the code point behind it. -/
def behindEscapes (e : CodePoint) : Text → List (Option CodePoint)
  | [] => []
  | [c] => if c = e then [none] else []
  | c :: n :: rest =>
    if c = e then some n :: behindEscapes e rest else behindEscapes e (n :: rest)

theorem behindEscapes_escaped (e c : CodePoint) (tail : Text) :
    behindEscapes e (e :: c :: tail) = some c :: behindEscapes e tail := by
  simp [behindEscapes]

theorem behindEscapes_plain (hc : c ≠ e) (tail : Text) :
    behindEscapes e (c :: tail) = behindEscapes e tail := by
  cases tail <;> simp [behindEscapes, hc]

/-- The escapes of a written text are there for what is special in the value. -/
theorem behindEscapes_escape (e : CodePoint) (v : Text) :
    behindEscapes e (escape [e] v) = (v.filter (isSpecial e)).map some := by
  rw [escape_eq_guarded]
  induction v with
  | nil => rfl
  | cons c v ih =>
    rw [Text.guarded_cons]
    rcases guardPiece_cases (isSpecial e) e c with
      ⟨hguard, hc⟩ | ⟨hguard, hc⟩ <;> rw [hguard]
    · simpa [hc] using (behindEscapes_escaped e c _).trans (congrArg (some c :: ·) ih)
    · obtain ⟨-, hne⟩ := isSpecial_eq_false_iff.mp hc
      simpa [hc] using (behindEscapes_plain hne _).trans ih

theorem escape_cons (e c : CodePoint) (v : Text) :
    escape [e] (c :: v) = guardPiece (isSpecial e) e c ++ escape [e] v := by
  rw [escape_eq_guarded, escape_eq_guarded, Text.guarded_cons]

/-- A text without a live wildcard, whose escapes are all there for something
special, is what the writer makes of its reading. -/
theorem escape_unescape {w : Text} (hlive : isLive [e] w = false)
    (hbehind : ∀ n ∈ behindEscapes e w, ∃ c ∈ n, isSpecial e c = true) :
    escape [e] (unescape [e] w) = w := by
  fun_induction unescape [e] w with
  | case1 => rfl
  | case2 c =>
    have hne : c ≠ e := by
      rintro rfl
      simp [behindEscapes] at hbehind
    have hmeta := ((isLive_cons_eq_false_iff hne).mp hlive).1
    rw [escape_cons, guardPiece, isSpecial_eq_false_iff.mpr ⟨hmeta, hne⟩]
    rfl
  | case3 c n rest hescape ih =>
    have he : c = e := by simpa using hescape
    subst c
    rw [behindEscapes_escaped, List.forall_mem_cons] at hbehind
    have hn : isSpecial e n = true := by simpa using hbehind.1
    rw [isLive_escaped] at hlive
    rw [escape_cons, guardPiece, hn, ih hlive hbehind.2]
    rfl
  | case4 c n rest hescape ih =>
    have hne : c ≠ e := by simpa using hescape
    rw [behindEscapes_plain hne] at hbehind
    obtain ⟨hmeta, hrest⟩ := (isLive_cons_eq_false_iff hne).mp hlive
    rw [escape_cons, guardPiece, isSpecial_eq_false_iff.mpr ⟨hmeta, hne⟩,
      ih hrest hbehind]
    rfl

/-- The texts that are written for some value. -/
theorem escape_unescape_eq_self_iff {w : Text} :
    escape [e] (unescape [e] w) = w ↔ ∃ v, escape [e] v = w := by
  constructor
  · intro h
    exact ⟨_, h⟩
  · rintro ⟨v, rfl⟩
    rw [unescape_escape]

/-- A written text reads as its value in front of anything and has no live
wildcard.  A text is the one that is written for its reading, or for any value
at all, exactly if no wildcard is live in it and each of its escapes has a
wildcard or an escape behind it.  The escape may be a wildcard itself. -/
theorem escape_exact (e : CodePoint) :
    (∀ v w : Text, unescape [e] (escape [e] v ++ w) = v ++ unescape [e] w) ∧
    (∀ v : Text, isLive [e] (escape [e] v) = false) ∧
    ∀ w : Text,
      (escape [e] (unescape [e] w) = w ↔ isLive [e] w = false ∧
        ∀ n ∈ behindEscapes e w, ∃ c ∈ n, isMeta c = true ∨ c = e) ∧
      (escape [e] (unescape [e] w) = w ↔ ∃ v, escape [e] v = w) := by
  refine ⟨unescape_escape_append e, isLive_escape e, ?_⟩
  intro w
  refine ⟨⟨?_, ?_⟩, escape_unescape_eq_self_iff⟩
  · intro h
    rw [← h]
    refine ⟨isLive_escape e _, ?_⟩
    rw [behindEscapes_escape]
    intro n hn
    obtain ⟨c, hc, rfl⟩ := List.mem_map.mp hn
    exact ⟨c, rfl, isSpecial_iff.mp (List.mem_filter.mp hc).2⟩
  · intro h
    obtain ⟨hlive, hbehind⟩ := h
    refine escape_unescape hlive ?_
    intro n hn
    obtain ⟨c, hc, hspecial⟩ := hbehind n hn
    exact ⟨c, hc, isSpecial_iff.mpr hspecial⟩

/-- The escape is a wildcard here.  A question mark and two escapes are written
with an escape before each; three escapes in a row are never written. -/
theorem escape_exact_wildcardEscape :
    escape ['*'] (unescape ['*'] "*?****") = "*?****" ∧
      ¬ ∃ v, escape ['*'] v = Text.ofString "***" :=
  ⟨((escape_exact '*').2.2 "*?****").1.mpr (by decide), fun h =>
    absurd (((escape_exact '*').2.2 "***").2.mpr h) (by decide)⟩

end ScriptQuote.Wildcard
