import ScriptQuote.Argument.Bareword
import ScriptQuote.Context.DoubleQuoted
import ScriptQuote.Context.SingleQuoted
import ScriptQuote.Context.Wildcard
import ScriptQuote.Dialect.Piece

/-!
# Command arguments

An argument is written bare if it may be and between quotes if not, or always between
the quotes that are asked for.  Unless the argument is literal, wildcard characters in
it are escaped before all else, so that quoting works on the pattern.

Reading looks at the first and the last code point to tell the three forms apart.
-/

namespace ScriptQuote.Argument

/-- The quote asked for: none at all, the empty text, or NUL leave the choice open. -/
def isAuto : Option Text → Bool
  | none => true
  | some q => q.isEmpty || q == (['\x00'] : Text)

/-- The text that goes through the quoting: the value itself, or the pattern
that matches it. -/
def pattern (d : Dialect) (literal : Bool) (v : Text) : Text :=
  if literal then v else Wildcard.escape d.escape v

/-- The text between quotes, escaped as the quotes ask. -/
def wrap (d : Dialect) (q w : Text) : Text :=
  q ++ (if d.isDoubleQuoteText q then DoubleQuoted.escape d w
    else SingleQuoted.escape d w) ++ q

/-- The command argument that means `v`. -/
def quote (d : Dialect) (v : Text) (q : Option Text) (literal : Bool) : Text :=
  if v.isEmpty then []
  else
    let w := pattern d literal v
    match q, isAuto q with
    | some q, false => wrap d q w
    | _, _ => if Bareword.requiresQuoting d w then wrap d ['\x27'] w else w

/-- What stands between two delimiters of a class, if the fragment has two. -/
def body? (isDelimiter : CodePoint → Bool) (t : Text) : Option Text :=
  match t with
  | a :: b :: rest =>
    if isDelimiter a && isDelimiter ((b :: rest).getLast (by simp)) then
      some (b :: rest).dropLast
    else none
  | _ => none

/-- The fragment without its quotes. -/
def unwrap (d : Dialect) (t : Text) : Except DoubleQuoted.Fault Text :=
  match body? d.isSingleQuote t with
  | some b => .ok (SingleQuoted.unescape d b)
  | none =>
    match body? d.isDoubleQuote t with
    | some b => DoubleQuoted.unescape d b
    | none => .ok t

/-- The value that a command argument means. -/
def unquote (d : Dialect) (t : Text) (literal : Bool) :
    Except DoubleQuoted.Fault Text :=
  (unwrap d t).map fun w => if literal then w else Wildcard.unescape d.escape w

end ScriptQuote.Argument
