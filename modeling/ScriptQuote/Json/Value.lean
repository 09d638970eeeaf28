import ScriptQuote.Dictionary
import ScriptQuote.Numeral.Binary64

/-!
# JSON values

Whole numbers and floating-point numbers are told apart, an object keeps the order of
its members, and texts may hold surrogates.
-/

namespace ScriptQuote.Json

/-- A JSON value. -/
inductive Value
  | null
  | bool (b : Bool)
  | int (n : Int)
  | float (x : Binary64)
  | string (t : Text)
  | array (items : List Value)
  | object (members : List (Text × Value))

namespace Value

/-- The value of a member; null and other values than objects have none. -/
def member? (key : Text) : Value → Option Value
  | object members => Dictionary.get? key members
  | _ => none

end Value

end ScriptQuote.Json
