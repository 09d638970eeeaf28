import ScriptQuote.Dialect.Classes

/-!
# Single-quoted strings

Inside single quotes the only special thing is a quote, and it is written
twice.  Reading takes two neighbouring quotes for one, also when they are two
different characters that the grammar reads as a quote; the first one stays.
-/

namespace ScriptQuote.SingleQuoted

variable (d : Dialect)

/-- What is written for one code point. -/
def emit (c : CodePoint) : Text := if d.isSingleQuote c then [c, c] else [c]

/-- The body of a single-quoted string that reads as `v`. -/
def escape (v : Text) : Text := v.flatMap (emit d)

/-- The text that the body of a single-quoted string reads as. -/
def unescape : Text → Text
  | [] => []
  | [c] => [c]
  | c :: c' :: rest =>
    if d.isSingleQuote c && d.isSingleQuote c' then c :: unescape rest
    else c :: unescape (c' :: rest)

/-- The string with its delimiters, which are the straight quotes. -/
def enclose (v : Text) : Text := (['\x27'] : Text) ++ escape d v ++ (['\x27'] : Text)

end ScriptQuote.SingleQuoted
