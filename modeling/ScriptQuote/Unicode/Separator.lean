import ScriptQuote.Unicode.RangeTable

/-!
# Separators and blanks

The code points of general category Zs, Zl or Zp in Unicode 14.0, and the wider
set that counts as blank around a numeral.
-/

namespace ScriptQuote.Unicode

/-- Every separator, as ranges in ascending order. -/
def separators : RangeTable :=
  [(0x0020, 0x0020), (0x00A0, 0x00A0), (0x1680, 0x1680), (0x2000, 0x200A),
    (0x2028, 0x2029), (0x202F, 0x202F), (0x205F, 0x205F), (0x3000, 0x3000)]

/-- Is the code point a space, line or paragraph separator? -/
def isSeparator (c : CodePoint) : Bool := separators.contains c.val

/-- Blank outside ASCII: the separators, and the control that stands for "next line". -/
def isWideBlank (c : CodePoint) : Bool :=
  !c.isAscii && (c.val == 0x85 || isSeparator c)

end ScriptQuote.Unicode
