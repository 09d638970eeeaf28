import ScriptQuote.Dialect.Classes
import ScriptQuote.Numeral.Hexadecimal

/-!
# Double-quoted strings

Inside double quotes variables are filled in and escapes are read.  Writing puts an
escape before a sigil and doubles quotes and escapes, each code point on its own.
Reading knows more than writing uses: the letters of a table, code points by number,
and pairs of two different quotes.

The number of a code point goes through the liberal reader of `Hexadecimal`, so a
negative one can be written, which no code point has; it is the only thing that makes
reading fail.  `lt_of_readBraced` says that reading a number moves forward.
-/

namespace ScriptQuote.DoubleQuoted

/-- What is written for one code point. -/
def emit (d : Dialect) (c : CodePoint) : Text :=
  (if d.isSigil c then d.escape else []) ++
    if d.isDoubleQuote c || d.isEscape c then [c, c] else [c]

/-- The body of a double-quoted string that reads as `v`. -/
def escape (d : Dialect) (v : Text) : Text := v.flatMap (emit d)

/-- The string with its delimiters, which are the straight quotes. -/
def enclose (d : Dialect) (v : Text) : Text :=
  (['\x22'] : Text) ++ escape d v ++ (['\x22'] : Text)

/-- The letters that mean something else after an escape. -/
def escapeTable : List (Char × Char) :=
  [('0', '\x00'), ('a', '\x07'), ('b', '\x08'), ('e', '\x1b'), ('f', '\x0c'),
    ('n', '\n'), ('r', '\r'), ('t', '\t'), ('v', '\x0b')]

/-- The code point that an escape before `c` stands for. -/
def escaped (c : CodePoint) : CodePoint :=
  match escapeTable.find? fun p => c == CodePoint.ofChar p.1 with
  | some p => p.2
  | none => c

/-- Why reading a string can fail. -/
inductive Fault
  /-- A code point was asked for by a negative number. -/
  | negativeCodePoint
deriving DecidableEq

/-- What is said about a fault. -/
def Fault.message : Fault → Text
  | .negativeCodePoint => "chr() arg not in range(0x110000)"

/-- Reads a number in braces: one to six code points up to the first closing
brace.  Answers the code point with that number and what follows the brace, or
nothing if that is no code point. -/
def readBraced (t : Text) : Except Fault (Option (CodePoint × Text)) :=
  match t with
  | [] => .ok none
  | c :: rest =>
    if c == '\x7b' then
      let digits := rest.takeWhile fun a : CodePoint => a != '\x7d'
      match rest.dropWhile fun a : CodePoint => a != '\x7d' with
      | [] => .ok none
      | _ :: tail =>
        if 1 ≤ digits.length ∧ digits.length ≤ 6 then
          match Hexadecimal.ofText? digits with
          | none => .ok none
          | some (.negSucc _) => .error .negativeCodePoint
          | some (.ofNat n) => .ok ((CodePoint.ofNat? n).map fun x => (x, tail))
        else .ok none
    else .ok none

theorem lt_of_readBraced {t tail : Text} {x : CodePoint}
    (h : readBraced t = .ok (some (x, tail))) : tail.length < t.length := by
  cases t with
  | nil => simp [readBraced] at h
  | cons c rest =>
    have hdrop : (rest.dropWhile fun a : CodePoint => a != '\x7d').length ≤
        rest.length :=
      (List.dropWhile_suffix _).length_le
    simp only [readBraced] at h
    split at h
    · split at h
      · simp at h
      · rename_i e
        rw [e] at hdrop
        split at h
        · split at h
          · simp at h
          · simp at h
          · simp only [Except.ok.injEq, Option.map_eq_some_iff, Prod.mk.injEq] at h
            obtain ⟨_, _, _, rfl⟩ := h
            simp only [List.length_cons] at hdrop ⊢
            omega
        · simp at h
    · simp at h

/-- The text that the body of a double-quoted string reads as, with no variable
filled in. -/
def unescape (d : Dialect) (t : Text) : Except Fault Text :=
  match t with
  | [] => .ok []
  | [c] => .ok [c]
  | c :: n :: rest =>
    if d.isEscape c then
      if n == 'u' then
        match _h : readBraced rest with
        | .error e => .error e
        | .ok (some (x, tail)) => (unescape d tail).map (x :: ·)
        | .ok none => (unescape d rest).map (n :: ·)
      else (unescape d rest).map (escaped n :: ·)
    else if d.isDoubleQuote c && d.isDoubleQuote n then (unescape d rest).map (c :: ·)
    else (unescape d (n :: rest)).map (c :: ·)
termination_by t.length
decreasing_by
  all_goals simp only [List.length_cons]
  · have := lt_of_readBraced _h
    omega
  all_goals omega

end ScriptQuote.DoubleQuoted
