import ScriptQuote.Numeral.Hexadecimal
import ScriptQuote.Unicode.Printable

/-!
# Texts as messages show them

A message shows a text between quotes, with everything that could not be seen or
would be mistaken written as an escape.
-/

namespace ScriptQuote.Text

/-- The quote for a text: the single one, unless only that one occurs in the text. -/
def displayQuote (t : Text) : CodePoint :=
  if t.contains '\x27' && !t.contains '\x22' then '\x22' else '\x27'

/-- How one code point is shown between quotes `q`. -/
def displayed (q c : CodePoint) : Text :=
  if c == q || c == '\\' then [CodePoint.ofChar '\\', c]
  else if c == '\n' then ['\\', 'n']
  else if c == '\r' then ['\\', 'r']
  else if c == '\t' then ['\\', 't']
  else if Unicode.isPrintable c then [c]
  else if c.val < 0x100 then ofString "\\x" ++ Hexadecimal.padded 2 c.val
  else if c.val < 0x10000 then ofString "\\u" ++ Hexadecimal.padded 4 c.val
  else ofString "\\U" ++ Hexadecimal.padded 8 c.val

/-- The text as messages show it. -/
def display (t : Text) : Text :=
  let q := t.displayQuote
  q :: t.flatMap (displayed q) ++ [q]

end ScriptQuote.Text
