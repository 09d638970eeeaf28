/-!
# What a reader takes

A reader works on a list of characters and takes a value off its front.  What is
left is shorter (`Taken`) or no longer (`Left`), and the reader's answer carries
the proof, so that readers which call each other end.

The operations put such answers together, so that readers need no proofs of their own
for what they give back.
-/

namespace ScriptQuote

/-- What is left of `s` when possibly nothing is taken. -/
abbrev Left (s : List Char) := { r : List Char // r.length ≤ s.length }

namespace Left

variable {s : List Char} {c : Char}

/-- Nothing is taken. -/
def whole (s : List Char) : Left s := ⟨s, Nat.le_refl _⟩

/-- One more character is taken before. -/
def cons (l : Left s) : Left (c :: s) := ⟨l.1, Nat.le_succ_of_le l.2⟩

/-- More is taken. -/
def andThen (l : Left s) (m : Left l.1) : Left s := ⟨m.1, Nat.le_trans m.2 l.2⟩

/-- The characters up to the first one that fails a test are taken. -/
def dropWhile (p : Char → Bool) (s : List Char) : Left s :=
  ⟨s.dropWhile p, (List.dropWhile_suffix p).length_le⟩

/-- Some characters are taken, or all if there are not that many. -/
def drop (count : Nat) (s : List Char) : Left s :=
  ⟨s.drop count, by simp⟩

end Left

/-- A value taken off the front of `s`. -/
structure Taken (α : Type) (s : List Char) where
  /-- The value. -/
  value : α
  /-- What is left of `s`. -/
  rest : List Char
  /-- Something was taken. -/
  rest_lt : rest.length < s.length

namespace Taken

variable {α β : Type} {s s' : List Char} {c : Char}

/-- The same value, taken off a list that is no shorter. -/
def widen (t : Taken α s) (h : s.length ≤ s'.length) : Taken α s' :=
  ⟨t.value, t.rest, Nat.lt_of_lt_of_le t.rest_lt h⟩

/-- Changes the value. -/
def map (f : α → β) (t : Taken α s) : Taken β s := ⟨f t.value, t.rest, t.rest_lt⟩

/-- A value taken off the first character and what follows it. -/
def upTo (value : α) (l : Left s) : Taken α (c :: s) :=
  ⟨value, l.1, Nat.lt_succ_of_le l.2⟩

/-- A value taken off the first character. -/
def first (value : α) : Taken α (c :: s) := upTo value (Left.whole s)

/-- One more character is taken before. -/
def cons (t : Taken α s) : Taken α (c :: s) :=
  ⟨t.value, t.rest, Nat.lt_succ_of_lt t.rest_lt⟩

/-- What is left. -/
def left (t : Taken α s) : Left s := ⟨t.rest, Nat.le_of_lt t.rest_lt⟩

/-- A value is taken off what something else has left. -/
def within (l : Left s) (t : Taken α l.1) : Taken α s := t.widen l.2

/-- More is taken behind the value. -/
def andDrop (t : Taken α s) (l : Left t.rest) : Taken α s :=
  ⟨t.value, l.1, Nat.lt_of_le_of_lt l.2 t.rest_lt⟩

/-- Another value is taken behind the first one, and given instead of it. -/
def andThen (t : Taken α s) (u : Taken β t.rest) : Taken β s :=
  ⟨u.value, u.rest, Nat.lt_trans u.rest_lt t.rest_lt⟩

end Taken

/-- A character that may come next is taken, if it does come next. -/
def Left.take? {s : List Char} (c : Char) (l : Left s) : Option (Taken Unit s) :=
  match l with
  | ⟨[], _⟩ => none
  | ⟨a :: rest, h⟩ => if a == c then some ⟨(), rest, h⟩ else none

end ScriptQuote
