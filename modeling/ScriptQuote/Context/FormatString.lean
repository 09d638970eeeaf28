import ScriptQuote.Dialect.Classes

/-!
# Format strings

In a format string curly brackets mark the places to fill, and a bracket that is
meant as text is written twice.  A text that goes into a quoted format string is
escaped for the format first and for the quotes after that.
-/

namespace ScriptQuote.FormatString

/-- What is written for one code point. -/
def emit (c : CodePoint) : Text := if Dialect.isCurlyBracket c then [c, c] else [c]

/-- A format string that formats as `v`. -/
def escape (v : Text) : Text := v.flatMap emit

/-- The text that a format string without places to fill formats as. -/
def unescape : Text → Text
  | [] => []
  | [c] => [c]
  | c :: c' :: rest =>
    if Dialect.isCurlyBracket c && c' == c then c :: unescape rest
    else c :: unescape (c' :: rest)

end ScriptQuote.FormatString
