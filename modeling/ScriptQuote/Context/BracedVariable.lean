import ScriptQuote.Context.Wildcard

/-!
# Braced variable names

A variable name between braces may hold anything; escapes and braces in it have an
escape before them.  Escapes come first, since those that the braces bring must not
be doubled.
-/

namespace ScriptQuote.BracedVariable

/-- Closes the braced form. -/
def closing : Text := ['\x7d']

/-- Opens the braced form, after the sigil. -/
def opening : Text := ['\x7b']

/-- The body of the braced form that names the variable `v`. -/
def escape (d : Dialect) (v : Text) : Text :=
  let escapes := v.replaceAll d.escape (d.escape ++ d.escape)
  (escapes.replaceAll closing (d.escape ++ closing)).replaceAll opening
    (d.escape ++ opening)

/-- The variable that the body of the braced form names: every escape goes, what
follows it stays. -/
def unescape (d : Dialect) (t : Text) : Text := Wildcard.unescape d.escape t

end ScriptQuote.BracedVariable
