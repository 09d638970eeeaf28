import ScriptQuote.Unicode.RangeTable

/-!
# Compatibility forms of ASCII letters

Wide, mathematical, raised and lowered letters that compatibility normalisation of
Unicode 14.0 turns into one ASCII letter.
-/

namespace ScriptQuote.Unicode

/-- A part of the table. -/
def asciiFormsFrom00AA : List (Nat × Nat × Nat) :=
  [(0x00AA, 0x00AA, 0x0061), (0x00BA, 0x00BA, 0x006F), (0x017F, 0x017F, 0x0073),
    (0x02B0, 0x02B0, 0x0068), (0x02B2, 0x02B2, 0x006A), (0x02B3, 0x02B3, 0x0072),
    (0x02B7, 0x02B7, 0x0077), (0x02B8, 0x02B8, 0x0079), (0x02E1, 0x02E1, 0x006C),
    (0x02E2, 0x02E2, 0x0073), (0x02E3, 0x02E3, 0x0078), (0x1D2C, 0x1D2C, 0x0041),
    (0x1D2E, 0x1D2E, 0x0042), (0x1D30, 0x1D31, 0x0044), (0x1D33, 0x1D3A, 0x0047),
    (0x1D3C, 0x1D3C, 0x004F), (0x1D3E, 0x1D3E, 0x0050), (0x1D3F, 0x1D3F, 0x0052),
    (0x1D40, 0x1D41, 0x0054), (0x1D42, 0x1D42, 0x0057), (0x1D43, 0x1D43, 0x0061),
    (0x1D47, 0x1D47, 0x0062), (0x1D48, 0x1D49, 0x0064), (0x1D4D, 0x1D4D, 0x0067),
    (0x1D4F, 0x1D4F, 0x006B), (0x1D50, 0x1D50, 0x006D), (0x1D52, 0x1D52, 0x006F),
    (0x1D56, 0x1D56, 0x0070), (0x1D57, 0x1D58, 0x0074), (0x1D5B, 0x1D5B, 0x0076),
    (0x1D62, 0x1D62, 0x0069), (0x1D63, 0x1D63, 0x0072), (0x1D64, 0x1D65, 0x0075),
    (0x1D9C, 0x1D9C, 0x0063), (0x1DA0, 0x1DA0, 0x0066), (0x1DBB, 0x1DBB, 0x007A),
    (0x2071, 0x2071, 0x0069), (0x207F, 0x207F, 0x006E), (0x2090, 0x2090, 0x0061),
    (0x2091, 0x2091, 0x0065)]

/-- A part of the table. -/
def asciiFormsFrom2092 : List (Nat × Nat × Nat) :=
  [(0x2092, 0x2092, 0x006F), (0x2093, 0x2093, 0x0078), (0x2095, 0x2095, 0x0068),
    (0x2096, 0x2099, 0x006B), (0x209A, 0x209A, 0x0070), (0x209B, 0x209C, 0x0073),
    (0x2102, 0x2102, 0x0043), (0x210A, 0x210A, 0x0067), (0x210B, 0x210B, 0x0048),
    (0x210C, 0x210C, 0x0048), (0x210D, 0x210D, 0x0048), (0x210E, 0x210E, 0x0068),
    (0x2110, 0x2110, 0x0049), (0x2111, 0x2111, 0x0049), (0x2112, 0x2112, 0x004C),
    (0x2113, 0x2113, 0x006C), (0x2115, 0x2115, 0x004E), (0x2119, 0x211B, 0x0050),
    (0x211C, 0x211C, 0x0052), (0x211D, 0x211D, 0x0052), (0x2124, 0x2124, 0x005A),
    (0x2128, 0x2128, 0x005A), (0x212A, 0x212A, 0x004B), (0x212C, 0x212D, 0x0042),
    (0x212F, 0x212F, 0x0065), (0x2130, 0x2131, 0x0045), (0x2133, 0x2133, 0x004D),
    (0x2134, 0x2134, 0x006F), (0x2139, 0x2139, 0x0069), (0x2145, 0x2145, 0x0044),
    (0x2146, 0x2147, 0x0064), (0x2148, 0x2149, 0x0069), (0x2160, 0x2160, 0x0049),
    (0x2164, 0x2164, 0x0056), (0x2169, 0x2169, 0x0058), (0x216C, 0x216C, 0x004C),
    (0x216D, 0x216E, 0x0043), (0x216F, 0x216F, 0x004D), (0x2170, 0x2170, 0x0069),
    (0x2174, 0x2174, 0x0076)]

/-- A part of the table. -/
def asciiFormsFrom2179 : List (Nat × Nat × Nat) :=
  [(0x2179, 0x2179, 0x0078), (0x217C, 0x217C, 0x006C), (0x217D, 0x217E, 0x0063),
    (0x217F, 0x217F, 0x006D), (0x2C7C, 0x2C7C, 0x006A),
    (0x2C7D, 0x2C7D, 0x0056), (0xA7F2, 0xA7F2, 0x0043),
    (0xA7F3, 0xA7F3, 0x0046), (0xA7F4, 0xA7F4, 0x0051),
    (0xFF21, 0xFF3A, 0x0041), (0xFF41, 0xFF5A, 0x0061),
    (0x107A5, 0x107A5, 0x0071), (0x1D400, 0x1D419, 0x0041),
    (0x1D41A, 0x1D433, 0x0061), (0x1D434, 0x1D44D, 0x0041),
    (0x1D44E, 0x1D454, 0x0061), (0x1D456, 0x1D467, 0x0069),
    (0x1D468, 0x1D481, 0x0041), (0x1D482, 0x1D49B, 0x0061),
    (0x1D49C, 0x1D49C, 0x0041), (0x1D49E, 0x1D49F, 0x0043),
    (0x1D4A2, 0x1D4A2, 0x0047), (0x1D4A5, 0x1D4A6, 0x004A),
    (0x1D4A9, 0x1D4AC, 0x004E), (0x1D4AE, 0x1D4B5, 0x0053),
    (0x1D4B6, 0x1D4B9, 0x0061), (0x1D4BB, 0x1D4BB, 0x0066),
    (0x1D4BD, 0x1D4C3, 0x0068), (0x1D4C5, 0x1D4CF, 0x0070),
    (0x1D4D0, 0x1D4E9, 0x0041), (0x1D4EA, 0x1D503, 0x0061),
    (0x1D504, 0x1D505, 0x0041), (0x1D507, 0x1D50A, 0x0044),
    (0x1D50D, 0x1D514, 0x004A), (0x1D516, 0x1D51C, 0x0053),
    (0x1D51E, 0x1D537, 0x0061), (0x1D538, 0x1D539, 0x0041),
    (0x1D53B, 0x1D53E, 0x0044), (0x1D540, 0x1D544, 0x0049),
    (0x1D546, 0x1D546, 0x004F)]

/-- A part of the table. -/
def asciiFormsFrom1D54A : List (Nat × Nat × Nat) :=
  [(0x1D54A, 0x1D550, 0x0053), (0x1D552, 0x1D56B, 0x0061),
    (0x1D56C, 0x1D585, 0x0041), (0x1D586, 0x1D59F, 0x0061),
    (0x1D5A0, 0x1D5B9, 0x0041), (0x1D5BA, 0x1D5D3, 0x0061),
    (0x1D5D4, 0x1D5ED, 0x0041), (0x1D5EE, 0x1D607, 0x0061),
    (0x1D608, 0x1D621, 0x0041), (0x1D622, 0x1D63B, 0x0061),
    (0x1D63C, 0x1D655, 0x0041), (0x1D656, 0x1D66F, 0x0061),
    (0x1D670, 0x1D689, 0x0041), (0x1D68A, 0x1D6A3, 0x0061)]

/-- Ranges of code points, and the ASCII letter that the first one of each is a
form of; the letters go on with the range. -/
def asciiForms : List (Nat × Nat × Nat) :=
  asciiFormsFrom00AA ++ asciiFormsFrom2092 ++ asciiFormsFrom2179 ++
    asciiFormsFrom1D54A

/-- The ASCII letter that a code point is a compatibility form of; any other
code point stays. -/
def toAsciiForm (c : CodePoint) : CodePoint :=
  match asciiForms.find? fun r => Nat.ble r.1 c.val && Nat.ble c.val r.2.1 with
  | some r => (CodePoint.ofNat? (c.val - r.1 + r.2.2)).getD c
  | none => c

end ScriptQuote.Unicode
