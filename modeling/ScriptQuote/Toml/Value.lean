import ScriptQuote.Dictionary

/-!
# TOML values

Only what configuration looks at is kept: texts, truth values, whole numbers and the
two kinds of containers.  Other numbers and moments in time stay as they are written.
-/

namespace ScriptQuote.Toml

/-- A TOML value. -/
inductive Value
  | string (t : Text)
  | boolean (b : Bool)
  | integer (n : Int)
  | float (written : List Char)
  | moment (written : List Char)
  | array (items : List Value)
  | table (entries : List (Text × Value))

/-- The entries of a table, in order of first mention. -/
abbrev Table := Dictionary Value

/-- Why a document is refused. -/
inductive Fault
  /-- The document breaks the grammar, or gives something two meanings. -/
  | malformed
  /-- A whole number has too many digits. -/
  | numeralTooLong (count : Nat)
deriving DecidableEq

end ScriptQuote.Toml
