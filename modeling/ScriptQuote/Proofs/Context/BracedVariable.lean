import ScriptQuote.Context.BracedVariable
import ScriptQuote.Dialect.Classes
import ScriptQuote.Proofs.Context.Wildcard

/-!
# The name in a braced variable

Writing the name is three replacements, one after the other, and each works on
what the ones before it have put there.  `escape_eq_passes` says so for every
escape, and `escape_eq_guarded` makes one pass of the three: an escape that is
no brace is not looked for again once it is written.  The rest is about that one
pass.

* Reading back.  A name comes back from the one pass since escapes have an
  escape before them.  An escape that is a brace is put before the braces that
  are there for itself, and does not come back.
* The extent of the name.  `firstBrace?` is the way of the grammar through the
  braced form.  It passes what was written and stops at the brace behind it.
-/

namespace ScriptQuote.BracedVariable

open Dialect (isCurlyBracket)
open Text (guardPiece guarded guardPiece_cases)

variable {d : Dialect} {e c : CodePoint}

/-! ## One pass -/

/-- Has the code point an escape before it in a name? -/
def isSpecial (e c : CodePoint) : Bool := c == e || isCurlyBracket c

theorem isSpecial_self (e : CodePoint) : isSpecial e e = true := by
  rw [isSpecial, beq_self_eq_true, Bool.true_or]

theorem isSpecial_eq_false_iff :
    isSpecial e c = false ↔ c ≠ e ∧ isCurlyBracket c = false := by
  rw [isSpecial, Bool.or_eq_false_iff, beq_eq_false_iff_ne]

/-- Each replacement puts the escape before one code point. -/
theorem escape_eq_passes (hd : d.escape = [e]) (v : Text) :
    escape d v =
      guarded (· == CodePoint.ofChar '\x7b') e
        (guarded (· == CodePoint.ofChar '\x7d') e (guarded (· == e) e v)) := by
  rw [escape, hd]
  simp only [closing, opening, List.singleton_append, Text.replaceAll_singleton]

/-- The three passes are one, which puts the escape before escapes and braces. -/
theorem escape_eq_guarded (hd : d.escape = [e])
    (he : isCurlyBracket e = false) (v : Text) :
    escape d v = guarded (isSpecial e) e v := by
  rw [isCurlyBracket, Bool.or_eq_false_iff, beq_eq_false_iff_ne,
    beq_eq_false_iff_ne] at he
  obtain ⟨hopening, hclosing⟩ := he
  rw [escape_eq_passes hd, Text.guarded_singleton_guarded hclosing.symm,
    Text.guarded_singleton_guarded hopening.symm]
  · congr 1
    funext c
    rw [isSpecial, isCurlyBracket, Bool.or_assoc,
      Bool.or_comm (c == CodePoint.ofChar '\x7d')]
  · rw [Bool.or_eq_false_iff, beq_eq_false_iff_ne]
    exact ⟨hopening.symm, by decide⟩
  · rw [beq_eq_false_iff_ne]
    exact hclosing.symm

/-! ## Reading back -/

theorem unescape_escape (hd : d.escape = [e])
    (he : isCurlyBracket e = false) (v : Text) :
    unescape d (escape d v) = v := by
  rw [escape_eq_guarded hd he, unescape, hd,
    Wildcard.unescape_guarded (isSpecial_self e)]

/-- An escape that is a brace does not come back as a name. -/
theorem unescape_escape_brace_ne (hd : d.escape = [e])
    (he : isCurlyBracket e = true) : unescape d (escape d [e]) ≠ [e] := by
  rw [isCurlyBracket, Bool.or_eq_true, beq_iff_eq, beq_iff_eq] at he
  rw [unescape, escape, hd]
  rcases he with rfl | rfl <;> decide

/-! ## The extent of the name -/

/-- Where the first brace stands that no escape hides, in a text that begins at
position `i`.  An escape hides the code point behind it. -/
def firstBraceFrom? (d : Dialect) (i : Nat) : Text → Option Nat
  | [] => none
  | [c] => if isCurlyBracket c then some i else none
  | c :: n :: rest =>
    if d.isEscape c then firstBraceFrom? d (i + 2) rest
    else if isCurlyBracket c then some i
    else firstBraceFrom? d (i + 1) (n :: rest)

/-- Where the first brace stands that no escape hides. -/
def firstBrace? (d : Dialect) (t : Text) : Option Nat := firstBraceFrom? d 0 t

theorem firstBraceFrom?_escaped (hd : d.escape = [e]) (i : Nat) (c : CodePoint)
    (tail : Text) :
    firstBraceFrom? d i (e :: c :: tail) = firstBraceFrom? d (i + 2) tail := by
  rw [firstBraceFrom?, if_pos (Dialect.isEscape_self hd)]

theorem firstBraceFrom?_plain (hd : d.escape = [e]) (hne : c ≠ e)
    (hc : isCurlyBracket c = false) (i : Nat) (tail : Text) :
    firstBraceFrom? d i (c :: tail) = firstBraceFrom? d (i + 1) tail := by
  cases tail with
  | nil =>
    show (if isCurlyBracket c then some i else none) = none
    rw [hc]
    rfl
  | cons n rest =>
    rw [firstBraceFrom?, Dialect.isEscape_eq_false hd hne, hc]
    rfl

theorem firstBraceFrom?_brace (hd : d.escape = [e]) (hne : c ≠ e)
    (hc : isCurlyBracket c = true)
    (i : Nat) (tail : Text) : firstBraceFrom? d i (c :: tail) = some i := by
  cases tail with
  | nil => rw [firstBraceFrom?, if_pos hc]
  | cons n rest =>
    rw [firstBraceFrom?, Dialect.isEscape_eq_false hd hne, hc]
    rfl

/-- A piece that was written is passed as a whole. -/
theorem firstBraceFrom?_guardPiece_append (hd : d.escape = [e]) (i : Nat)
    (c : CodePoint) (tail : Text) :
    firstBraceFrom? d i (guardPiece (isSpecial e) e c ++ tail) =
      firstBraceFrom? d (i + (guardPiece (isSpecial e) e c).length) tail := by
  rcases guardPiece_cases (isSpecial e) e c with
    ⟨hguard, -⟩ | ⟨hguard, hc⟩ <;> rw [hguard]
  · exact firstBraceFrom?_escaped hd i c tail
  · obtain ⟨hne, hbrace⟩ := isSpecial_eq_false_iff.mp hc
    exact firstBraceFrom?_plain hd hne hbrace i tail

/-- The braced form ends at the brace behind the name, whatever the name is and
whatever follows. -/
theorem firstBrace?_escape_append (hd : d.escape = [e])
    (he : isCurlyBracket e = false) (v rest : Text) :
    firstBrace? d (escape d v ++ closing ++ rest) = some (escape d v).length := by
  have hne : CodePoint.ofChar '\x7d' ≠ e := by
    rintro rfl
    exact absurd he (by decide)
  have hpass := Text.scan_flatMap_append (firstBraceFrom?_guardPiece_append hd) 0 v
    (closing ++ rest)
  rw [Nat.zero_add] at hpass
  rw [escape_eq_guarded hd he, List.append_assoc, firstBrace?, guarded, hpass]
  exact firstBraceFrom?_brace hd hne (by decide) _ rest

/-- Every name comes back from the braced form exactly if the escape is not a
brace.  Then the three replacements are one pass that puts the escape before
escapes and braces, and the form ends at the brace that closes it. -/
theorem unescape_escape_iff_not_brace (hd : d.escape = [e]) :
    ((∀ v, unescape d (escape d v) = v) ↔ isCurlyBracket e = false) ∧
    (isCurlyBracket e = false → ∀ v,
      escape d v = guarded (fun c => c == e || isCurlyBracket c) e v ∧
      ∀ rest, firstBrace? d (escape d v ++ closing ++ rest) =
        some (escape d v).length) := by
  refine ⟨⟨?_, unescape_escape hd⟩, ?_⟩
  · intro h
    rw [Bool.eq_false_iff]
    intro he
    exact unescape_escape_brace_ne hd he (h [e])
  · intro he v
    exact ⟨escape_eq_guarded hd he v, firstBrace?_escape_append hd he v⟩

/-- A name with both braces that ends in an escape, and a brace behind the form. -/
theorem unescape_escape_iff_not_brace_powerShell :
    Dialect.powerShell.escape = (['\x60'] : Text) ∧ isCurlyBracket '\x60' = false ∧
      firstBrace? .powerShell (escape .powerShell "\x7d\x60\x7b\x60" ++ closing ++
        Text.ofString "\x7d") = some 8 :=
  ⟨rfl, by decide,
    ((unescape_escape_iff_not_brace rfl).2 (by decide) "\x7d\x60\x7b\x60").2
    "\x7d"⟩

end ScriptQuote.BracedVariable
