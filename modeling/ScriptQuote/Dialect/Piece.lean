import ScriptQuote.Dialect.Classes

/-!
# Classes of whole texts

The same classes for a text of any length, which belongs to a class written as
a text when it occurs in that text as a contiguous part.  So the empty text is
in every such class.  Where the decision falls to a Unicode category, which only
a single code point has, a text of another length has no answer.

`isSingleQuoteText_singleton` and its neighbours say that on one code point these
are the classes of `Dialect.Classes`.
-/

namespace ScriptQuote.Dialect

open Unicode

/-- Is the text part of the single quotes? -/
def isSingleQuoteText (d : Dialect) (t : Text) : Bool := t.occursIn d.singleQuotes

/-- Is the text part of the double quotes? -/
def isDoubleQuoteText (d : Dialect) (t : Text) : Bool := t.occursIn d.doubleQuotes

@[simp] theorem isSingleQuoteText_singleton (d : Dialect) (c : CodePoint) :
    d.isSingleQuoteText [c] = d.isSingleQuote c := by
  simp [isSingleQuoteText, isSingleQuote]

@[simp] theorem isDoubleQuoteText_singleton (d : Dialect) (c : CodePoint) :
    d.isDoubleQuoteText [c] = d.isDoubleQuote c := by
  simp [isDoubleQuoteText, isDoubleQuote]

/-- The ten classes that a text is looked up in. -/
inductive CharClass
  | singleQuote | doubleQuote | quote | curlyBracket | escape | sigil
  | tokenBreak | variableStart | identifierStart | identifierFollow
deriving DecidableEq

/-- The classes, in the order in which a classification lists them. -/
def CharClass.all : List CharClass :=
  [singleQuote, doubleQuote, quote, curlyBracket, escape, sigil, tokenBreak,
    variableStart, identifierStart, identifierFollow]

/-- Answers `p` on a text of one code point; any other text has no Unicode category. -/
def byCategory (p : CodePoint → Bool) : Text → Option Bool
  | [c] => some (p c)
  | _ => none

/-- Are all code points of the text ASCII? -/
def isAsciiText (t : Text) : Bool := t.all CodePoint.isAscii

/-- Is the text in the class?  `none` if the answer hangs on a Unicode category
that the text does not have. -/
def classify (d : Dialect) (t : Text) : CharClass → Option Bool
  | .singleQuote => some (d.isSingleQuoteText t)
  | .doubleQuote => some (d.isDoubleQuoteText t)
  | .quote => some (d.isSingleQuoteText t || d.isDoubleQuoteText t)
  | .curlyBracket => some (t == (['\x7b'] : Text) || t == (['\x7d'] : Text))
  | .escape => some (t == d.escape)
  | .sigil => some (t == d.sigil)
  | .tokenBreak =>
    if t.occursIn d.tokenBreaks then some true
    else if isAsciiText t then some false
    else if t.occursIn ['\u0085', '\u00a0'] then some true
    else byCategory isSeparator t
  | .variableStart =>
    if isAsciiText t then some (t.occursIn d.variableStart)
    else byCategory (fun c => isLetter c || isDecimalDigit c) t
  | .identifierStart =>
    if isAsciiText t then some (t == (['_'] : Text) || t.occursIn asciiLetters)
    else byCategory isLetter t
  | .identifierFollow =>
    if isAsciiText t then
      some (t == (['_'] : Text) || t.occursIn asciiLetters || t.occursIn asciiDigits)
    else byCategory (fun c => isLetter c || isDecimalDigit c) t

end ScriptQuote.Dialect
