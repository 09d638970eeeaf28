import ScriptQuote.Text.Taken
import ScriptQuote.Toml.Value

/-!
# Blanks and comments in TOML
-/

namespace ScriptQuote.Toml

/-- Control characters, which may stand neither in comments nor in strings; the
tab is not meant. -/
def isControl (c : Char) : Bool := (c.toNat < 0x20 && c != '\t') || c.toNat == 0x7F

/-- Drops spaces and tabs. -/
def skipBlank (s : List Char) : Left s :=
  Left.dropWhile (fun c => c == ' ' || c == '\t') s

/-- Drops spaces, tabs and line ends. -/
def skipBlankLines (s : List Char) : Left s :=
  Left.dropWhile (fun c => c == ' ' || c == '\t' || c == '\n') s

/-- Drops the rest of a line that is a comment. -/
def skipToLineEnd (s : List Char) : Except Fault (Left s) :=
  match s with
  | [] => .ok (.whole [])
  | c :: rest =>
    if c == '\n' then .ok (.whole (c :: rest))
    else if isControl c then .error .malformed
    else (skipToLineEnd rest).map Left.cons

/-- Drops a comment, if there is one. -/
def skipComment (s : List Char) : Except Fault (Left s) :=
  match s with
  | '#' :: rest => (skipToLineEnd rest).map Left.cons
  | s => .ok (.whole s)

/-- Drops blanks, line ends and comments. -/
def skipFiller (s : List Char) : Except Fault (Left s) :=
  match (skipBlankLines s).take? '#' with
  | some mark => do
    let r ← skipToLineEnd mark.rest
    let r' ← skipFiller r.1
    return mark.left.andThen (r.andThen r')
  | none => .ok (skipBlankLines s)
termination_by s.length
decreasing_by
  have := mark.rest_lt
  have := r.2
  omega

end ScriptQuote.Toml
