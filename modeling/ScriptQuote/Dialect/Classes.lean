import ScriptQuote.Dialect.Basic
import ScriptQuote.Unicode.Letter
import ScriptQuote.Unicode.DecimalDigit
import ScriptQuote.Unicode.Separator

/-!
# Character classes of a dialect

What one code point means to the reader of a script.  ASCII is decided by the
dialect's own texts; beyond ASCII, token breaks, identifiers and variable names
follow the Unicode categories as well.
-/

namespace ScriptQuote.Dialect

open Unicode

/-- Does the grammar read `c` as a single quote? -/
def isSingleQuote (d : Dialect) (c : CodePoint) : Bool := d.singleQuotes.contains c

/-- Does the grammar read `c` as a double quote? -/
def isDoubleQuote (d : Dialect) (c : CodePoint) : Bool := d.doubleQuotes.contains c

/-- Does the grammar read `c` as a quote of either kind? -/
def isQuote (d : Dialect) (c : CodePoint) : Bool :=
  d.isSingleQuote c || d.isDoubleQuote c

/-- Curly brackets mean the same in every dialect. -/
def isCurlyBracket (c : CodePoint) : Bool := c == '\x7b' || c == '\x7d'

/-- Is `c` the escape? -/
def isEscape (d : Dialect) (c : CodePoint) : Bool := [c] == d.escape

/-- Is `c` the sigil? -/
def isSigil (d : Dialect) (c : CodePoint) : Bool := [c] == d.sigil

/-- Separators that end a token in any dialect. -/
def isBreakingSeparator (c : CodePoint) : Bool := c.val == 0x85 || isSeparator c

/-- Does `c` end a bare token wherever it stands? -/
def forcesNewToken (d : Dialect) (c : CodePoint) : Bool :=
  d.tokenBreaks.contains c || (!c.isAscii && isBreakingSeparator c)

/-- Does `c`, right after the sigil, begin a variable name? -/
def isVariableStart (d : Dialect) (c : CodePoint) : Bool :=
  if c.isAscii then d.variableStart.contains c else isLetter c || isDecimalDigit c

/-- May `c` open a member name that needs no quotes? -/
def isIdentifierStart (c : CodePoint) : Bool :=
  if c.isAscii then c == '_' || c.isAsciiLetter else isLetter c

/-- May `c` continue a member name that needs no quotes? -/
def isIdentifierFollow (c : CodePoint) : Bool :=
  if c.isAscii then c == '_' || c.isAsciiLetter || c.isAsciiDigit
  else isLetter c || isDecimalDigit c

theorem isEscape_iff {d : Dialect} {e c : CodePoint} (h : d.escape = [e]) :
    d.isEscape c = true ↔ c = e := by
  simp [isEscape, h]

theorem isSigil_iff {d : Dialect} {s c : CodePoint} (h : d.sigil = [s]) :
    d.isSigil c = true ↔ c = s := by
  simp [isSigil, h]

theorem isEscape_self {d : Dialect} {e : CodePoint} (h : d.escape = [e]) :
    d.isEscape e = true :=
  (isEscape_iff h).mpr rfl

theorem isSigil_self {d : Dialect} {s : CodePoint} (h : d.sigil = [s]) :
    d.isSigil s = true :=
  (isSigil_iff h).mpr rfl

theorem isEscape_eq_false {d : Dialect} {e c : CodePoint} (h : d.escape = [e])
    (hc : c ≠ e) : d.isEscape c = false := by
  rw [Bool.eq_false_iff, ne_eq, isEscape_iff h]
  exact hc

theorem isSigil_eq_false {d : Dialect} {s c : CodePoint} (h : d.sigil = [s])
    (hc : c ≠ s) : d.isSigil c = false := by
  rw [Bool.eq_false_iff, ne_eq, isSigil_iff h]
  exact hc

end ScriptQuote.Dialect
