import ScriptQuote.Dialect.Classes

/-!
# Barewords

A command argument may stand without quotes when the reader of the script takes it
for one token with no meaning of its own.  Six rules decide; the first two look at
the opening, the others at each code point in turn, and the first rule broken is the
answer.
-/

namespace ScriptQuote.Bareword

/-- The ways in which a text fails to be a bareword. -/
inductive Rule
  /-- It opens with something that may not open a bareword. -/
  | firstChar
  /-- It opens like a redirection. -/
  | redirection
  /-- Something in it ends the token. -/
  | tokenBreak
  /-- There is a quote in it. -/
  | quote
  /-- There is an escape in it. -/
  | escape
  /-- A variable starts in it. -/
  | variableStart
deriving DecidableEq

/-- The name that a rule is reported under. -/
def Rule.name : Rule → Text
  | .firstChar => "first_char"
  | .redirection => "redirection"
  | .tokenBreak => "token_break"
  | .quote => "quote"
  | .escape => "escape"
  | .variableStart => "variable"

/-- The rule that `c` breaks where it stands. -/
def ruleAt (d : Dialect) (afterSigil : Bool) (c : CodePoint) : Option Rule :=
  if d.forcesNewToken c then some .tokenBreak
  else if d.isQuote c then some .quote
  else if d.isEscape c then some .escape
  else if afterSigil && d.isVariableStart c then some .variableStart
  else none

/-- The rule that the first offending code point breaks. -/
def scan (d : Dialect) (afterSigil : Bool) : Text → Option Rule
  | [] => none
  | c :: rest => (ruleAt d afterSigil c).or (scan d (d.isSigil c) rest)

/-- Does the text open like a redirection of a stream? -/
def opensRedirection (d : Dialect) : Text → Bool
  | c :: m :: _ => d.redirectDigits.contains c && [m] == d.redirectMarker
  | _ => false

/-- The first rule that the text breaks; none if it may stand bare.  The empty
text breaks none. -/
def violation (d : Dialect) (v : Text) : Option Rule :=
  match v with
  | [] => none
  | c :: _ =>
    if d.barewordFirst.contains c then some .firstChar
    else if opensRedirection d v then some .redirection
    else scan d false v

/-- Must the text be quoted to be a command argument? -/
def requiresQuoting (d : Dialect) (v : Text) : Bool := (violation d v).isSome

end ScriptQuote.Bareword
