import ScriptQuote.Numeral.Decimal
import ScriptQuote.Numeral.Hexadecimal

/-!
# UTF-8

Reading bytes as characters.  What is no UTF-8 is refused at the first place where that
shows; the fault names the bytes that cannot start or continue a character there.
-/

namespace ScriptQuote.Utf8

/-- What is wrong with a byte sequence. -/
inductive Defect
  | invalidStart
  | invalidContinuation
  | unexpectedEnd
deriving DecidableEq

/-- What is said about a defect. -/
def Defect.message : Defect → Text
  | invalidStart => "invalid start byte"
  | invalidContinuation => "invalid continuation byte"
  | unexpectedEnd => "unexpected end of data"

/-- Why bytes are not text: `count` bytes from `position` on, the first of which
is `byte`. -/
structure Fault where
  byte : UInt8
  position : Nat
  count : Nat
  defect : Defect
deriving DecidableEq

/-- What is said about a fault. -/
def Fault.message (f : Fault) : Text :=
  (if f.count = 1 then
    Text.ofString "'utf-8' codec can't decode byte 0x" ++
      Hexadecimal.padded 2 f.byte.toNat ++
      Text.ofString " in position " ++ Decimal.digits f.position
  else
    Text.ofString "'utf-8' codec can't decode bytes in position " ++
      Decimal.digits f.position ++ Text.ofString "-" ++
      Decimal.digits (f.position + f.count - 1)) ++
    Text.ofString ": " ++ f.defect.message

/-- May the byte continue a character? -/
def isContinuation (b : UInt8) : Bool := 0x80 ≤ b && b ≤ 0xBF

/-- May `b` be the second byte of a character whose first byte is `a`?  Overlong forms,
surrogates and numbers that are too large show here. -/
def isSecond (a b : UInt8) : Bool :=
  isContinuation b &&
    (a != 0xE0 || 0xA0 ≤ b) && (a != 0xED || b < 0xA0) && (a != 0xF0 || 0x90 ≤ b) &&
      (a != 0xF4 || b < 0x90)

/-- The number of bytes of a character that starts with a byte; none if no
character does. -/
def width? (a : UInt8) : Option Nat :=
  if a < 0x80 then some 1
  else if a < 0xC2 then none
  else if a < 0xE0 then some 2
  else if a < 0xF0 then some 3
  else if a < 0xF5 then some 4
  else none

/-- The bits that a continuation byte carries. -/
def payload (b : UInt8) : Nat := b.toNat - 0x80

/-- The first character of some bytes, with the bytes behind it, or what is
wrong and with how many bytes. -/
def step (a : UInt8) (rest : List UInt8) :
    Except (Defect × Nat) (Char × List UInt8) :=
  match width? a with
  | none => .error (.invalidStart, 1)
  | some 1 => .ok (Char.ofNat a.toNat, rest)
  | some 2 =>
    match rest with
    | [] => .error (.unexpectedEnd, 1)
    | b :: rest =>
      if isSecond a b then .ok (Char.ofNat ((a.toNat - 0xC0) * 64 + payload b), rest)
      else .error (.invalidContinuation, 1)
  | some 3 =>
    match rest with
    | [] => .error (.unexpectedEnd, 1)
    | b :: rest =>
      if isSecond a b then
        match rest with
        | [] => .error (.unexpectedEnd, 2)
        | c :: rest =>
          if isContinuation c then
            .ok (Char.ofNat (((a.toNat - 0xE0) * 64 + payload b) * 64 +
              payload c), rest)
          else .error (.invalidContinuation, 2)
      else .error (.invalidContinuation, 1)
  | some _ =>
    match rest with
    | [] => .error (.unexpectedEnd, 1)
    | b :: rest =>
      if isSecond a b then
        match rest with
        | [] => .error (.unexpectedEnd, 2)
        | c :: rest =>
          if isContinuation c then
            match rest with
            | [] => .error (.unexpectedEnd, 3)
            | d :: rest =>
              if isContinuation d then
                .ok (Char.ofNat
                  ((((a.toNat - 0xF0) * 64 + payload b) * 64 + payload c) * 64 +
                    payload d), rest)
              else .error (.invalidContinuation, 3)
          else .error (.invalidContinuation, 2)
      else .error (.invalidContinuation, 1)

theorem length_le_of_step {a : UInt8} {rest rest' : List UInt8} {c : Char}
    (h : step a rest = .ok (c, rest')) : rest'.length ≤ rest.length := by
  unfold step at h
  repeat' split at h
  all_goals
    simp only [reduceCtorEq, Except.ok.injEq, Prod.mk.injEq] at h
  all_goals
    obtain ⟨_, rfl⟩ := h
    grind

/-- The characters of some bytes that start at a position. -/
def decodeFrom (position : Nat) (bytes : List UInt8) : Except Fault (List Char) :=
  match bytes with
  | [] => .ok []
  | a :: rest =>
    match _h : step a rest with
    | .error (defect, count) => .error ⟨a, position, count, defect⟩
    | .ok (c, rest') =>
      (decodeFrom (position + (rest.length + 1 - rest'.length)) rest').map (c :: ·)
termination_by bytes.length
decreasing_by
  have := length_le_of_step _h
  simp only [List.length_cons]
  omega

/-- The characters of some bytes. -/
def decode (bytes : List UInt8) : Except Fault (List Char) := decodeFrom 0 bytes

/-- The bytes of some characters. -/
def encode (cs : List Char) : List UInt8 := cs.flatMap String.utf8EncodeChar

/-- Makes every line end a line feed: a carriage return counts as one, alone or
with the line feed behind it. -/
def unifyLineEnds : List Char → List Char
  | [] => []
  | [c] => [if c == '\r' then '\n' else c]
  | c :: c' :: rest =>
    if c == '\r' then
      if c' == '\n' then '\n' :: unifyLineEnds rest
      else '\n' :: unifyLineEnds (c' :: rest)
    else c :: unifyLineEnds (c' :: rest)

theorem length_unifyLineEnds_le (cs : List Char) :
    (unifyLineEnds cs).length ≤ cs.length := by
  fun_induction unifyLineEnds cs with
  | case1 => exact Nat.le_refl 0
  | case2 c => exact Nat.le_refl 1
  | case3 c c' rest _ _ ih =>
    simp only [List.length_cons]
    omega
  | case4 c c' rest _ _ ih => exact Nat.succ_le_succ ih
  | case5 c c' rest _ ih => exact Nat.succ_le_succ ih

end ScriptQuote.Utf8
