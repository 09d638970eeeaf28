import ScriptQuote.Proofs.Text.Pieces

/-!
# Code points written twice

Where a character closes or opens something, it is meant as text when it is
written twice, and the reader takes two neighbours for one.  `doubled p` writes
the code points that `p` picks twice.  `collapsed r` takes two neighbours for
the first of them where `r` joins them; it may join more than a code point with
itself.

* `collapsed_doubled_append` says that the reader is back in step behind what
  was written, whatever stands there.
* `firstUnpaired?_doubled_append` says the same of a scan that goes from pair to
  pair: it passes what was written and stops at the picked code point behind it,
  if that one is alone.

What both come to is one step: the reader and the scan always meet a pair at its
first half.
-/

namespace ScriptQuote.Text

variable {p : CodePoint → Bool} {r : CodePoint → CodePoint → Bool}
  {a b c q : CodePoint} {i : Nat} {rest : Text}

/-! ## The writer -/

/-- What becomes of one code point. -/
def doublePiece (p : CodePoint → Bool) (c : CodePoint) : Text :=
  if p c then [c, c] else [c]

/-- Writes each code point that `p` picks twice. -/
def doubled (p : CodePoint → Bool) (t : Text) : Text := t.flatMap (doublePiece p)

theorem doublePiece_cases (p : CodePoint → Bool) (c : CodePoint) :
    doublePiece p c = [c, c] ∧ p c = true ∨ doublePiece p c = [c] ∧ p c = false := by
  unfold doublePiece
  cases p c with
  | true => exact Or.inl ⟨rfl, rfl⟩
  | false => exact Or.inr ⟨rfl, rfl⟩

theorem doublePiece_ne_nil (p : CodePoint → Bool) (c : CodePoint) :
    doublePiece p c ≠ [] := by
  rcases doublePiece_cases p c with ⟨hpiece, -⟩ | ⟨hpiece, -⟩ <;> simp [hpiece]

/-! ## The reader -/

/-- Takes two neighbours for the first of them if `r` joins them, from the left. -/
def collapsed (r : CodePoint → CodePoint → Bool) : Text → Text
  | [] => []
  | [c] => [c]
  | c :: n :: rest =>
    if r c n then c :: collapsed r rest else c :: collapsed r (n :: rest)

/-- The reader joins each picked code point with itself, and joins nothing to
the right of another one. -/
structure Joins (p : CodePoint → Bool) (r : CodePoint → CodePoint → Bool) : Prop where
  self : ∀ c, p c = true → r c c = true
  picked : ∀ a b, r a b = true → p a = true

theorem collapsed_joined (h : r a b = true) (tail : Text) :
    collapsed r (a :: b :: tail) = a :: collapsed r tail := by
  simp [collapsed, h]

theorem collapsed_plain (hjoins : Joins p r) (hc : p c = false) (tail : Text) :
    collapsed r (c :: tail) = c :: collapsed r tail := by
  cases tail with
  | nil => rfl
  | cons n rest =>
    have hr : r c n = false := by
      rw [Bool.eq_false_iff]
      intro hr
      simp [hjoins.picked c n hr] at hc
    simp [collapsed, hr]

theorem collapsed_doublePiece_append (hjoins : Joins p r) (c : CodePoint)
    (tail : Text) :
    collapsed r (doublePiece p c ++ tail) = c :: collapsed r tail := by
  rcases doublePiece_cases p c with ⟨hpiece, hc⟩ | ⟨hpiece, hc⟩ <;> rw [hpiece]
  · exact collapsed_joined (hjoins.self c hc) tail
  · exact collapsed_plain hjoins hc tail

/-- A written text in front of any string reads as itself in front of that. -/
theorem collapsed_doubled_append (hjoins : Joins p r) (v tail : Text) :
    collapsed r (doubled p v ++ tail) = v ++ collapsed r tail := by
  rw [doubled, read_flatMap_append (collapsed_doublePiece_append hjoins),
    List.foldr_cons_eq_append']

theorem collapsed_doubled (hjoins : Joins p r) (v : Text) :
    collapsed r (doubled p v) = v := by
  have happend := collapsed_doubled_append hjoins v []
  simpa [collapsed] using happend

/-! ## The scan -/

/-- Where the first picked code point stands that has no other one to pair with,
in a text that begins at position `i`.  Two picked neighbours are a pair, from
the left. -/
def firstUnpairedFrom? (p : CodePoint → Bool) (i : Nat) : Text → Option Nat
  | [] => none
  | [c] => if p c then some i else none
  | c :: n :: rest =>
    if p c then
      if p n then firstUnpairedFrom? p (i + 2) rest else some i
    else firstUnpairedFrom? p (i + 1) (n :: rest)

/-- Where the first picked code point stands that has no other one to pair with. -/
def firstUnpaired? (p : CodePoint → Bool) (t : Text) : Option Nat :=
  firstUnpairedFrom? p 0 t

theorem firstUnpairedFrom?_pair (ha : p a = true) (hb : p b = true) (i : Nat)
    (tail : Text) :
    firstUnpairedFrom? p i (a :: b :: tail) = firstUnpairedFrom? p (i + 2) tail := by
  simp [firstUnpairedFrom?, ha, hb]

theorem firstUnpairedFrom?_plain (hc : p c = false) (i : Nat) (tail : Text) :
    firstUnpairedFrom? p i (c :: tail) = firstUnpairedFrom? p (i + 1) tail := by
  cases tail <;> simp [firstUnpairedFrom?, hc]

/-- A picked code point with no other one behind it is where the scan stops. -/
theorem firstUnpairedFrom?_alone (hq : p q = true)
    (hrest : ∀ c ∈ rest.head?, p c = false) :
    firstUnpairedFrom? p i (q :: rest) = some i := by
  cases rest with
  | nil => simp [firstUnpairedFrom?, hq]
  | cons n rest => simp [firstUnpairedFrom?, hq, hrest n rfl]

/-- A piece that was written is passed as a whole. -/
theorem firstUnpairedFrom?_doublePiece_append (i : Nat) (c : CodePoint)
    (tail : Text) :
    firstUnpairedFrom? p i (doublePiece p c ++ tail) =
      firstUnpairedFrom? p (i + (doublePiece p c).length) tail := by
  rcases doublePiece_cases p c with ⟨hpiece, hc⟩ | ⟨hpiece, hc⟩ <;> rw [hpiece]
  · exact firstUnpairedFrom?_pair hc hc i tail
  · exact firstUnpairedFrom?_plain hc i tail

/-- The scan passes what was written and stops behind it, at a picked code point
that is alone. -/
theorem firstUnpaired?_doubled_append (v : Text) (hq : p q = true)
    (hrest : ∀ c ∈ rest.head?, p c = false) :
    firstUnpaired? p (doubled p v ++ [q] ++ rest) = some (doubled p v).length := by
  have hpass :=
    scan_flatMap_append (firstUnpairedFrom?_doublePiece_append (p := p)) 0 v
    ([q] ++ rest)
  rw [Nat.zero_add] at hpass
  rw [List.append_assoc, firstUnpaired?, doubled, hpass]
  exact firstUnpairedFrom?_alone hq hrest

end ScriptQuote.Text
