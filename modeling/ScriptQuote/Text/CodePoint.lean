/-!
# Code points

The unit of every text in this library.  A surrogate is a code point like any
other: reading an escape such as u{D800} makes one, and two of them that stand
side by side are never joined.
-/

namespace ScriptQuote

/-- A Unicode code point, surrogates included. -/
structure CodePoint where
  val : Nat
  isLt : val < 0x110000
deriving DecidableEq

namespace CodePoint

@[ext] theorem ext {a b : CodePoint} (h : a.val = b.val) : a = b := by
  cases a; cases b; cases h; rfl

/-- The code point of a character. -/
def ofChar (c : Char) : CodePoint where
  val := c.toNat
  isLt := by
    have h : c.val.toNat < 0xD800 ∨ 0xDFFF < c.val.toNat ∧
        c.val.toNat < 0x110000 := c.valid
    have e : c.toNat = c.val.toNat := rfl
    omega

instance : Coe Char CodePoint := ⟨ofChar⟩

instance : Inhabited CodePoint := ⟨'?'⟩

theorem ofChar_inj {a b : Char} : ofChar a = ofChar b ↔ a = b := by
  constructor
  · intro h
    have h' : a.toNat = b.toNat := congrArg val h
    exact Char.ext (UInt32.toNat_inj.mp h')
  · rintro rfl; rfl

/-- The code point with a given number, if there is one. -/
def ofNat? (n : Nat) : Option CodePoint :=
  if h : n < 0x110000 then some ⟨n, h⟩ else none

theorem ofNat?_eq_some {n : Nat} {c : CodePoint} : ofNat? n = some c ↔ c.val = n := by
  unfold ofNat?
  split
  · constructor
    · intro h; cases h; rfl
    · rintro rfl; rfl
  · rename_i h
    constructor
    · intro e; cases e
    · intro e; exact absurd (e ▸ c.isLt) h

/-- ASCII code points are those below 128. -/
def isAscii (c : CodePoint) : Bool := c.val < 0x80

/-- Surrogates stand for no character. -/
def isSurrogate (c : CodePoint) : Bool := 0xD800 ≤ c.val && c.val ≤ 0xDFFF

/-- The character of a code point; a surrogate has none. -/
def toChar? (c : CodePoint) : Option Char :=
  if h : c.val < 0xD800 ∨ 0xDFFF < c.val ∧ c.val < 0x110000 then
    some ⟨c.val.toUInt32, by
      have := c.isLt
      simp only [UInt32.isValidChar, Nat.isValidChar, Nat.toUInt32,
        UInt32.toNat_ofNat']
      omega⟩
  else none

theorem toChar?_eq_some_iff {c : CodePoint} {a : Char} :
    c.toChar? = some a ↔ c = ofChar a := by
  have hval : c.val.toUInt32.toNat = c.val := by
    have := c.isLt
    simp only [Nat.toUInt32, UInt32.toNat_ofNat']
    omega
  constructor
  · intro h
    unfold toChar? at h
    split at h
    · cases h
      exact ext hval.symm
    · cases h
  · rintro rfl
    have hvalid : (ofChar a).val < 0xD800 ∨ 0xDFFF < (ofChar a).val ∧
        (ofChar a).val < 0x110000 :=
      a.valid
    rw [toChar?, dif_pos hvalid]
    exact congrArg some (Char.ext (UInt32.toNat_inj.mp hval))

/-- An ASCII decimal digit. -/
def isAsciiDigit (c : CodePoint) : Bool := 0x30 ≤ c.val && c.val ≤ 0x39

/-- An ASCII letter of either case. -/
def isAsciiLetter (c : CodePoint) : Bool :=
  (0x41 ≤ c.val && c.val ≤ 0x5A) || (0x61 ≤ c.val && c.val ≤ 0x7A)

end CodePoint

end ScriptQuote
