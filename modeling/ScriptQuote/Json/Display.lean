import ScriptQuote.Json.Value
import ScriptQuote.Numeral.Shortest
import ScriptQuote.Text.Quoted

/-!
# JSON values as messages show them

A message that complains about a value shows it in a notation of its own: other
words for null and the truth values, texts as `Text.display` shows them.  A
whole number with too many digits cannot be shown, and neither can what holds
one; none comes out of a document.
-/

namespace ScriptQuote.Json.Value

mutual

/-- The value as messages show it. -/
def display : Value → Text
  | .null => "None"
  | .bool b => if b then "True" else "False"
  | .int n => Decimal.render n
  | .float x => Shortest.render Shortest.plain x
  | .string t => t.display
  | .array items =>
    Text.ofString "[" ++ Text.join (Text.ofString ", ")
      (displayItems items) ++ Text.ofString "]"
  | .object members =>
    Text.ofString "\x7b" ++ Text.join (Text.ofString ", ") (displayMembers members) ++
      Text.ofString "\x7d"

/-- The items of an array, one by one. -/
def displayItems : List Value → List Text
  | [] => []
  | v :: rest => display v :: displayItems rest

/-- The members of an object, one by one. -/
def displayMembers : List (Text × Value) → List Text
  | [] => []
  | (k, v) :: rest =>
    (k.display ++ Text.ofString ": " ++ display v) :: displayMembers rest

end

mutual

/-- Can the value be shown? -/
def isShowable : Value → Bool
  | .int n => (Decimal.digits n.natAbs).length ≤ Decimal.maxDigits
  | .array items => areShowableItems items
  | .object members => areShowableMembers members
  | .null | .bool _ | .float _ | .string _ => true

/-- Can all items of an array be shown? -/
def areShowableItems : List Value → Bool
  | [] => true
  | v :: rest => isShowable v && areShowableItems rest

/-- Can all members of an object be shown? -/
def areShowableMembers : List (Text × Value) → Bool
  | [] => true
  | (_, v) :: rest => isShowable v && areShowableMembers rest

end

end ScriptQuote.Json.Value
