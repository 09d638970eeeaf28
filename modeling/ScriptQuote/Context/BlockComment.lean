import ScriptQuote.Dialect.Basic

/-!
# Block comments

A block comment runs from its opening mark to the first closing mark.  Both marks
are broken up in its content by an escape between their two characters, the
opening ones first.  The grammar gives no meaning to comment text, so there is no
rule to read it back.
-/

namespace ScriptQuote.BlockComment

/-- Opens a block comment. -/
def opening : Text := ['<', '#']

/-- Closes a block comment. -/
def closing : Text := ['#', '>']

/-- The opening mark broken up. -/
def brokenOpening (d : Dialect) : Text := (['<'] : Text) ++ d.escape ++ (['#'] : Text)

/-- The closing mark broken up. -/
def brokenClosing (d : Dialect) : Text := (['#'] : Text) ++ d.escape ++ (['>'] : Text)

/-- The content of a block comment that says `v`. -/
def escape (d : Dialect) (v : Text) : Text :=
  (v.replaceAll opening (brokenOpening d)).replaceAll closing (brokenClosing d)

end ScriptQuote.BlockComment
