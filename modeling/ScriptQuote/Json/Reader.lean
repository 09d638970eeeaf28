import ScriptQuote.Json.Value
import ScriptQuote.Numeral.Decimal
import ScriptQuote.Text.Taken

/-!
# Reading JSON

The reader takes values off the front of a list of characters.  Besides standard JSON
it accepts three names for numbers that are not finite, and an escaped surrogate with
no partner.  The first fault ends the reading, and it is told with its place.

A place is kept as the number of characters from there to the end of the document,
which needs no counting on the way; `Fault.message` turns it into lines and columns.
-/

namespace ScriptQuote.Json

/-- What can be wrong with a document. -/
inductive Defect
  | expectingValue
  | expectingName
  | expectingColon
  | expectingComma
  | extraData
  | unterminatedString
  | controlCharacter
  | badEscape
  | badUnicodeEscape
  | byteOrderMark
deriving DecidableEq

/-- What is said about a defect. -/
def Defect.message : Defect → Text
  | expectingValue => "Expecting value"
  | expectingName => "Expecting property name enclosed in double quotes"
  | expectingColon => "Expecting ':' delimiter"
  | expectingComma => "Expecting ',' delimiter"
  | extraData => "Extra data"
  | unterminatedString => "Unterminated string starting at"
  | controlCharacter => "Invalid control character at"
  | badEscape => "Invalid \\escape"
  | badUnicodeEscape => "Invalid \\uXXXX escape"
  | byteOrderMark => "Unexpected UTF-8 BOM (decode using utf-8-sig)"

/-- Why a document has no value. -/
inductive Fault
  /-- The document breaks the grammar; `left` characters run from the place to
  the end. -/
  | malformed (defect : Defect) (left : Nat)
  /-- A whole number has too many digits. -/
  | numeralTooLong (count : Nat)
deriving DecidableEq

/-- Drops blanks. -/
def skipBlank : List Char → List Char
  | [] => []
  | c :: rest =>
    if c == ' ' || c == '\t' || c == '\n' || c == '\r' then skipBlank rest
    else c :: rest

theorem length_skipBlank_le (s : List Char) : (skipBlank s).length ≤ s.length := by
  induction s with
  | nil => simp [skipBlank]
  | cons c rest ih =>
    unfold skipBlank
    split
    · exact Nat.le_trans ih (by simp)
    · exact Nat.le_refl _

/-- The value of a hexadecimal digit. -/
def hexDigit? (c : Char) : Option Nat :=
  if '0' ≤ c ∧ c ≤ '9' then some (c.toNat - 0x30)
  else if 'a' ≤ c ∧ c ≤ 'f' then some (c.toNat - 0x61 + 10)
  else if 'A' ≤ c ∧ c ≤ 'F' then some (c.toNat - 0x41 + 10)
  else none

/-- The number that four hexadecimal digits stand for. -/
def hexWord? (a b c d : Char) : Option Nat := do
  return ((((← hexDigit? a) * 16 + (← hexDigit? b)) * 16 +
    (← hexDigit? c)) * 16 + (← hexDigit? d))

/-- The code point of a number below 65536. -/
def codeUnit (n : Nat) : CodePoint := (CodePoint.ofNat? n).getD '?'

/-- The first half of a surrogate pair. -/
def isHighSurrogate (n : Nat) : Bool := 0xD800 ≤ n && n ≤ 0xDBFF

/-- The second half of a surrogate pair. -/
def isLowSurrogate (n : Nat) : Bool := 0xDC00 ≤ n && n ≤ 0xDFFF

/-- The code point of a surrogate pair. -/
def joinSurrogates (high low : Nat) : CodePoint :=
  codeUnit (0x10000 + (high - 0xD800) * 0x400 + (low - 0xDC00))

/-- What a one-letter escape stands for. -/
def simpleEscape? : Char → Option Char
  | '\x22' => some '\x22'
  | '\\' => some '\\'
  | '/' => some '/'
  | 'b' => some '\x08'
  | 'f' => some '\x0c'
  | 'n' => some '\n'
  | 'r' => some '\r'
  | 't' => some '\t'
  | _ => none

/-- Reads an escaped second half of a pair, if one comes first; it may not be
the last thing in the document. -/
def readLowHalf (s : List Char) : Except Fault (Option (Taken Nat s)) :=
  match s with
  | '\\' :: 'u' :: a :: b :: c :: d :: rest =>
    if rest.isEmpty then .ok none
    else
      match hexWord? a b c d with
      | none => .error (.malformed .badUnicodeEscape (rest.length + 5))
      | some low =>
        .ok (if isLowSurrogate low then some ⟨low, rest, by simp; omega⟩
          else none)
  | _ => .ok none

/-- Reads what follows the letter u of a numeric escape: four digits, and a
second escape if the two are halves of a pair.  The digits may not be the last
thing in the document. -/
def readUnicodeEscape (s : List Char) : Except Fault (Taken CodePoint s) :=
  match s with
  | a :: b :: c :: d :: rest =>
    if rest.isEmpty then .error (.malformed .badUnicodeEscape (s.length + 1))
    else
      match hexWord? a b c d with
      | none => .error (.malformed .badUnicodeEscape (s.length + 1))
      | some high => do
        let low ← if isHighSurrogate high then readLowHalf rest else .ok none
        match low with
        | some t =>
          return ⟨joinSurrogates high t.value, t.rest, by
            have := t.rest_lt
            simp
            omega⟩
        | none => return ⟨codeUnit high, rest, by simp; omega⟩
  | s => .error (.malformed .badUnicodeEscape (s.length + 1))

/-- Reads a string from after its opening quote, `start` being the place of that
quote. -/
def readString (start : Nat) (s : List Char) : Except Fault (Taken Text s) :=
  match s with
  | [] => .error (.malformed .unterminatedString start)
  | '\x22' :: rest => .ok ⟨[], rest, by simp⟩
  | '\\' :: [] => .error (.malformed .unterminatedString start)
  | '\\' :: 'u' :: rest => do
    let x ← readUnicodeEscape rest
    have hx := x.rest_lt
    let more ← readString start x.rest
    have hm := more.rest_lt
    return ⟨x.value :: more.value, more.rest, by simp; omega⟩
  | '\\' :: c :: rest =>
    match simpleEscape? c with
    | none => .error (.malformed .badEscape (rest.length + 2))
    | some x => do
      let more ← readString start rest
      have hm := more.rest_lt
      return ⟨CodePoint.ofChar x :: more.value, more.rest, by simp; omega⟩
  | c :: rest =>
    if c.toNat < 0x20 then .error (.malformed .controlCharacter (rest.length + 1))
    else do
      let more ← readString start rest
      have hm := more.rest_lt
      return ⟨CodePoint.ofChar c :: more.value, more.rest, by simp; omega⟩
termination_by s.length
decreasing_by
  all_goals
    simp only [List.length_cons]
    omega

/-- Splits a list after its leading digits. -/
def spanDigits (s : List Char) : List Char × List Char :=
  (s.takeWhile Decimal.isDigit, s.dropWhile Decimal.isDigit)

theorem length_spanDigits (s : List Char) :
    (spanDigits s).1.length + (spanDigits s).2.length = s.length := by
  rw [← List.length_append]
  exact congrArg List.length List.takeWhile_append_dropWhile

/-- The digits after a point, and what follows them; none without point and digit. -/
def fraction (s : List Char) : List Char × List Char :=
  match s with
  | '.' :: c :: rest => if Decimal.isDigit c then spanDigits (c :: rest) else ([], s)
  | _ => ([], s)

/-- Reads the digits of an exponent. -/
def exponentDigits (negative : Bool) (s : List Char) : Option (Int × List Char) :=
  if (spanDigits s).1.isEmpty then none
  else
    let n : Int := Decimal.ofDigits (spanDigits s).1
    some (if negative then -n else n, (spanDigits s).2)

/-- Reads a sign, if there is one, and the digits of an exponent. -/
def signedExponent : List Char → Option (Int × List Char)
  | '-' :: s => exponentDigits true s
  | '+' :: s => exponentDigits false s
  | s => exponentDigits false s

/-- The exponent, and what follows it; none without mark and digit. -/
def scale (s : List Char) : Option Int × List Char :=
  match s with
  | [] => (none, s)
  | m :: r =>
    if m == 'e' || m == 'E' then
      match signedExponent r with
      | some (x, rest) => (some x, rest)
      | none => (none, s)
    else (none, s)

theorem length_fraction_le (s : List Char) : (fraction s).2.length ≤ s.length := by
  unfold fraction
  split
  · rename_i c rest
    split
    · have := length_spanDigits (c :: rest)
      simp only [List.length_cons] at this ⊢
      omega
    · exact Nat.le_refl _
  · exact Nat.le_refl _

theorem length_exponentDigits_le {negative : Bool} {s rest : List Char} {x : Int}
    (h : exponentDigits negative s = some (x, rest)) : rest.length ≤ s.length := by
  unfold exponentDigits at h
  split at h
  · simp at h
  · have := length_spanDigits s
    simp only [Option.some.injEq, Prod.mk.injEq] at h
    rw [← h.2]
    omega

theorem length_signedExponent_le {s rest : List Char} {x : Int}
    (h : signedExponent s = some (x, rest)) : rest.length ≤ s.length := by
  unfold signedExponent at h
  split at h
  · exact Nat.le_trans (length_exponentDigits_le h) (by simp)
  · exact Nat.le_trans (length_exponentDigits_le h) (by simp)
  · exact length_exponentDigits_le h

theorem length_scale_le (s : List Char) : (scale s).2.length ≤ s.length := by
  unfold scale
  split
  · exact Nat.le_refl _
  · split
    · split
      · rename_i e
        exact Nat.le_trans (length_signedExponent_le e) (by simp)
      · exact Nat.le_refl _
    · exact Nat.le_refl _

/-- The number with the given parts. -/
def number (negative : Bool) (whole frac : List Char) (exponent : Option Int) :
    Except Fault Value :=
  if frac.isEmpty && exponent.isNone then
    if Decimal.maxDigits < whole.length then .error (.numeralTooLong whole.length)
    else
      let n : Int := Decimal.ofDigits whole
      .ok (.int (if negative then -n else n))
  else
    let digits := Decimal.ofDigits (whole ++ frac)
    .ok (.float (Binary64.ofDecimal negative digits (Decimal.digits digits).length
      (exponent.getD 0 - frac.length)))

/-- Reads the digits of a number, the sign being read. -/
def readUnsigned (negative : Bool) (s : List Char) (left : Nat) :
    Except Fault (Taken Value s) :=
  match s with
  | [] => .error (.malformed .expectingValue left)
  | c :: rest =>
    if Decimal.isDigit c then do
      let whole := if c == '0' then [] else (spanDigits rest).1
      let afterWhole := if c == '0' then rest else (spanDigits rest).2
      have h1 : afterWhole.length ≤ rest.length := by
        have := length_spanDigits rest
        show (if c == '0' then rest else (spanDigits rest).2).length ≤ rest.length
        split <;> omega
      have h2 := length_fraction_le afterWhole
      have h3 := length_scale_le (fraction afterWhole).2
      let v ← number negative (c :: whole) (fraction afterWhole).1
        (scale (fraction afterWhole).2).1
      return ⟨v, (scale (fraction afterWhole).2).2, by
        simp only [List.length_cons]; omega⟩
    else .error (.malformed .expectingValue left)

/-- Reads a number or one of the names for numbers that are not finite. -/
def readNumber (s : List Char) : Except Fault (Taken Value s) :=
  match s with
  | 'N' :: 'a' :: 'N' :: rest => .ok ⟨.float .nan, rest, by simp; omega⟩
  | 'I' :: 'n' :: 'f' :: 'i' :: 'n' :: 'i' :: 't' :: 'y' :: rest =>
    .ok ⟨.float (.infinity false), rest, by simp; omega⟩
  | '-' :: 'I' :: 'n' :: 'f' :: 'i' :: 'n' :: 'i' :: 't' :: 'y' :: rest =>
    .ok ⟨.float (.infinity true), rest, by simp; omega⟩
  | '-' :: rest => (readUnsigned true rest s.length).map fun t => t.widen (by simp)
  | s => readUnsigned false s s.length

mutual

/-- Reads a value. -/
def readValue (s : List Char) : Except Fault (Taken Value s) :=
  match s with
  | '\x22' :: rest => do
    let t ← readString s.length rest
    return (t.map .string).widen (by simp)
  | '\x7b' :: rest =>
    have h := length_skipBlank_le rest
    match e : skipBlank rest with
    | '\x7d' :: rest' => .ok ⟨.object [], rest', by simp [e] at h ⊢; omega⟩
    | _ => do
      let t ← readMembers (skipBlank rest)
      return (t.map fun ms => .object (Dictionary.ofPairs ms)).widen (by simp; omega)
  | '[' :: rest =>
    have h := length_skipBlank_le rest
    match e : skipBlank rest with
    | ']' :: rest' => .ok ⟨.array [], rest', by simp [e] at h ⊢; omega⟩
    | _ => do
      let t ← readItems (skipBlank rest)
      return (t.map .array).widen (by simp; omega)
  | 'n' :: 'u' :: 'l' :: 'l' :: rest => .ok ⟨.null, rest, by simp; omega⟩
  | 't' :: 'r' :: 'u' :: 'e' :: rest => .ok ⟨.bool true, rest, by simp; omega⟩
  | 'f' :: 'a' :: 'l' :: 's' :: 'e' :: rest => .ok ⟨.bool false, rest, by simp; omega⟩
  | s => readNumber s
termination_by (s.length, 0)
decreasing_by
  all_goals
    apply Prod.Lex.left
    simp only [List.length_cons]
    omega

/-- Reads the items of an array that has some, and the closing bracket. -/
def readItems (s : List Char) : Except Fault (Taken (List Value) s) := do
  let v ← readValue s
  have hv := v.rest_lt
  have h := length_skipBlank_le v.rest
  match e : skipBlank v.rest with
  | ']' :: rest => return ⟨[v.value], rest, by simp [e] at h; omega⟩
  | ',' :: rest =>
    have h' := length_skipBlank_le rest
    let more ← readItems (skipBlank rest)
    have hm := more.rest_lt
    return ⟨v.value :: more.value, more.rest, by simp [e] at h; omega⟩
  | r => throw (.malformed .expectingComma r.length)
termination_by (s.length, 1)
decreasing_by
  · exact Prod.Lex.right _ Nat.zero_lt_one
  · apply Prod.Lex.left
    simp only [e, List.length_cons] at h
    omega

/-- Reads the members of an object that has some, and the closing brace. -/
def readMembers (s : List Char) : Except Fault (Taken (List (Text × Value)) s) :=
  match s with
  | '\x22' :: rest => do
    let k ← readString s.length rest
    have hk := k.rest_lt
    have h := length_skipBlank_le k.rest
    match e : skipBlank k.rest with
    | ':' :: rest1 =>
      have h1 := length_skipBlank_le rest1
      let v ← readValue (skipBlank rest1)
      have hv := v.rest_lt
      have h2 := length_skipBlank_le v.rest
      match e2 : skipBlank v.rest with
      | '\x7d' :: rest2 =>
        return ⟨[(k.value, v.value)], rest2,
          by simp [e] at h; simp [e2] at h2; simp; omega⟩
      | ',' :: rest2 =>
        have h3 := length_skipBlank_le rest2
        let more ← readMembers (skipBlank rest2)
        have hm := more.rest_lt
        return ⟨(k.value, v.value) :: more.value, more.rest,
          by simp [e] at h; simp [e2] at h2; simp; omega⟩
      | r => throw (.malformed .expectingComma r.length)
    | r => throw (.malformed .expectingColon r.length)
  | s => .error (.malformed .expectingName s.length)
termination_by (s.length, 0)
decreasing_by
  · apply Prod.Lex.left
    simp only [e, List.length_cons] at h ⊢
    omega
  · apply Prod.Lex.left
    simp only [e, List.length_cons] at h ⊢
    simp only [e2, List.length_cons] at h2
    omega

end

/-- The value of a document. -/
def read (doc : List Char) : Except Fault Value :=
  match doc with
  | '\uFEFF' :: _ => .error (.malformed .byteOrderMark doc.length)
  | _ => do
    let t ← readValue (skipBlank doc)
    match skipBlank t.rest with
    | [] => return t.value
    | r => throw (.malformed .extraData r.length)

/-- The line and the column of a place, both from one. -/
def lineAndColumn (before : List Char) : Nat × Nat :=
  (before.count '\n' + 1, (before.reverse.takeWhile (· != '\n')).length + 1)

/-- What is said about a fault in a document. -/
def Fault.message (doc : List Char) : Fault → Text
  | .malformed defect left =>
    let position := doc.length - left
    let (line, column) := lineAndColumn (doc.take position)
    defect.message ++ Text.ofString ": line " ++ Decimal.digits line ++
      Text.ofString " column " ++ Decimal.digits column ++
      Text.ofString " (char " ++ Decimal.digits position ++ Text.ofString ")"
  | .numeralTooLong count => Decimal.tooLongMessage count

end ScriptQuote.Json
