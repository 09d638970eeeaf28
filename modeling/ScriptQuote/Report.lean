import ScriptQuote.Argument.MemberName
import ScriptQuote.Context.BlockComment
import ScriptQuote.Context.BracedVariable
import ScriptQuote.Context.FormatString
import ScriptQuote.Text.Quoted

/-!
# A value in every context

A report for people who check a value by hand: how it is written in each context, and
which bareword rule it breaks, taken as it is and as a pattern.  It is made in the
PowerShell dialect.
-/

namespace ScriptQuote.Report

/-- The contexts by name, with the fragment that each gives a value. -/
def contexts (d : Dialect) (v : Text) : List (Text × Text) :=
  [("single-quoted", SingleQuoted.enclose d v),
    ("double-quoted", DoubleQuoted.enclose d v),
    ("block comment",
      BlockComment.opening ++ BlockComment.escape d v ++ BlockComment.closing),
    ("format string", SingleQuoted.enclose d (FormatString.escape v)),
    ("variable", (['$', '\x7b'] : Text) ++ BracedVariable.escape d v ++
      (['\x7d'] : Text)),
    ("member", MemberName.quote d v),
    ("argument", Argument.quote d v none false),
    ("literal argument", Argument.quote d v none true)]

/-- A text with blanks before it, up to a width. -/
def alignRight (width : Nat) (t : Text) : Text :=
  List.replicate (width - t.length) (CodePoint.ofChar ' ') ++ t

/-- The rule that a value breaks, by name. -/
def ruleShown (d : Dialect) (v : Text) : Text :=
  match Bareword.violation d v with
  | some r => r.name
  | none => "None"

/-- The lines of the report. -/
def lines (d : Dialect) (v : Text) : List Text :=
  [Text.ofString "Value: " ++ v.display, List.replicate 40 (CodePoint.ofChar '-')] ++
    (contexts d v).map (fun c => alignRight 16 c.1 ++ Text.ofString ": " ++ c.2) ++
    [[], Text.ofString "bareword rule (literal): " ++ ruleShown d v,
      Text.ofString "bareword rule (pattern): " ++
        ruleShown d (Wildcard.escape d.escape v),
      Text.ofString "wildcards: " ++
        Text.ofString (if Wildcard.isLive d.escape v then "yes" else "no")]

/-- What is told when there is no value to report on. -/
def usage : List Text :=
  ["Usage: psquote-dump.py 'value'", "Example: psquote-dump.py 'it''s $HOME'"]

/-- Lines as they are printed. -/
def printed (ls : List Text) : Text := ls.flatMap fun l => l ++ Text.ofString "\n"

/-- The exit code and the output for command-line arguments; the first one is
the value. -/
def run (args : List Text) : Nat × Text :=
  match args with
  | [] => (1, printed usage)
  | v :: _ => (0, printed (lines Dialect.powerShell v))

end ScriptQuote.Report
