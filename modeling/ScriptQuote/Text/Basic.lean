import ScriptQuote.Text.CodePoint

/-!
# Texts

A text is a list of code points; its length, its order and its positions are
counted in code points.  Next to the list operations it has the two that look
at more than one code point at a time: whether one text occurs inside another,
and the replacement of every occurrence of a text.

`occursIn_iff` says that the search finds exactly the contiguous parts, and
`occursIn_singleton` that for one code point it is membership.
-/

namespace ScriptQuote

/-- A sequence of code points. -/
abbrev Text := List CodePoint

namespace Text

/-- The text of a character string. -/
def ofString (s : String) : Text := s.toList.map CodePoint.ofChar

instance : Coe String Text := ⟨ofString⟩

/-- The characters of a text, unless it holds a surrogate. -/
def toChars? (t : Text) : Option (List Char) := t.mapM CodePoint.toChar?

/-- The character string of a text, unless it holds a surrogate. -/
def toString? (t : Text) : Option String := t.toChars?.map String.ofList

/-- Does `piece` occur in `whole` as a contiguous part?  The empty text occurs
in every text. -/
def occursIn (piece : Text) : Text → Bool
  | [] => piece.isEmpty
  | c :: rest => piece.isPrefixOf (c :: rest) || occursIn piece rest

theorem occursIn_iff {piece whole : Text} :
    piece.occursIn whole = true ↔ piece <:+: whole := by
  induction whole with
  | nil => simp [occursIn]
  | cons c rest ih => simp [occursIn, ih, List.infix_cons_iff]

@[simp] theorem occursIn_singleton {c : CodePoint} {whole : Text} :
    occursIn [c] whole = whole.contains c := by
  induction whole with
  | nil => rfl
  | cons a rest ih => by_cases h : c = a <;> simp [occursIn, ih, h]

/-- Replaces occurrences of `old` from the left, without overlap.  `skip` counts
the code points that still belong to the occurrence replaced last. -/
def replaceFrom (old new : Text) (skip : Nat) : Text → Text
  | [] => []
  | c :: rest =>
    match skip with
    | skip + 1 => replaceFrom old new skip rest
    | 0 =>
      if old.isPrefixOf (c :: rest) then
        new ++ replaceFrom old new (old.length - 1) rest
      else c :: replaceFrom old new 0 rest

/-- Replaces every occurrence of `old` in `t`.  An empty `old` occurs before
every code point and at the end. -/
def replaceAll (t old new : Text) : Text :=
  if old.isEmpty then t.flatMap (fun c => new ++ [c]) ++ new
  else replaceFrom old new 0 t

/-- Puts `sep` between the texts. -/
def join (sep : Text) (ts : List Text) : Text := (ts.intersperse sep).flatten

/-- Cuts a text at every `sep`; the pieces joined by `sep` give the text back. -/
def split (sep : CodePoint) : Text → List Text
  | [] => [[]]
  | c :: rest =>
    if c = sep then [] :: split sep rest
    else
      match split sep rest with
      | [] => [[c]]
      | piece :: pieces => (c :: piece) :: pieces

/-- Order by the first code point that differs; a text comes after its own
beginnings. -/
def le : Text → Text → Bool
  | [], _ => true
  | _ :: _, [] => false
  | a :: s, b :: t => if a.val = b.val then le s t else a.val < b.val

end Text

end ScriptQuote
