import ScriptQuote.Dialect.Basic

/-!
# Wildcard patterns

A pattern matches only its own text when every wildcard character in it, and every
escape, has an escape before it.  The escape is a text of its own here, not a
dialect: an escape of another length than one is never met in a text.
-/

namespace ScriptQuote.Wildcard

/-- Has the code point a meaning of its own in a pattern? -/
def isMeta (c : CodePoint) : Bool := c == '*' || c == '?' || c == '[' || c == ']'

/-- What is written for one code point. -/
def emit (esc : Text) (c : CodePoint) : Text :=
  if isMeta c || [c] == esc then esc ++ [c] else [c]

/-- A pattern that matches `v` only. -/
def escape (esc v : Text) : Text := v.flatMap (emit esc)

/-- Drops each escape that has something after it; an escape at the very end stays. -/
def unescape (esc : Text) : Text → Text
  | [] => []
  | [c] => [c]
  | c :: c' :: rest =>
    if [c] == esc then c' :: unescape esc rest else c :: unescape esc (c' :: rest)

/-- Is there a wildcard character that no escape takes the meaning from? -/
def isLive (esc : Text) : Text → Bool
  | [] => false
  | [c] => !([c] == esc) && isMeta c
  | c :: c' :: rest =>
    if [c] == esc then isLive esc rest else isMeta c || isLive esc (c' :: rest)

end ScriptQuote.Wildcard
