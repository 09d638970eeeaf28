import ScriptQuote.Json.Value
import ScriptQuote.Numeral.Hexadecimal
import ScriptQuote.Numeral.Shortest

/-!
# Writing JSON

Values on one line, in ASCII: whatever is not a visible ASCII character is written as
an escape, beyond 65535 as a surrogate pair.
-/

namespace ScriptQuote.Json

/-- One escape by number. -/
def unitEscape (n : Nat) : Text := Text.ofString "\\u" ++ Hexadecimal.padded 4 n

/-- How one code point is written inside a string. -/
def writtenChar (c : CodePoint) : Text :=
  if c == '\x22' then ['\\', '\x22']
  else if c == '\\' then ['\\', '\\']
  else if c == '\n' then ['\\', 'n']
  else if c == '\r' then ['\\', 'r']
  else if c == '\t' then ['\\', 't']
  else if c == '\x0c' then ['\\', 'f']
  else if c == '\x08' then ['\\', 'b']
  else if 0x20 ≤ c.val ∧ c.val ≤ 0x7E then [c]
  else if c.val < 0x10000 then unitEscape c.val
  else
    let n := c.val - 0x10000
    unitEscape (0xD800 + n / 0x400) ++ unitEscape (0xDC00 + n % 0x400)

/-- A string. -/
def writeString (t : Text) : Text :=
  Text.ofString "\x22" ++ t.flatMap writtenChar ++ Text.ofString "\x22"

/-- A number that is not whole, or one of the three names. -/
def writeFloat : Binary64 → Text
  | .nan => "NaN"
  | .infinity negative => if negative then "-Infinity" else "Infinity"
  | x => Shortest.render Shortest.plain x

namespace Value

mutual

/-- The value on one line, with a blank after each comma and each colon. -/
def write : Value → Text
  | .null => "null"
  | .bool b => if b then "true" else "false"
  | .int n => Decimal.render n
  | .float x => writeFloat x
  | .string t => writeString t
  | .array items =>
    Text.ofString "[" ++ Text.join (Text.ofString ", ")
      (writeItems items) ++ Text.ofString "]"
  | .object members =>
    Text.ofString "\x7b" ++ Text.join (Text.ofString ", ") (writeMembers members) ++
      Text.ofString "\x7d"

/-- The items of an array, one by one. -/
def writeItems : List Value → List Text
  | [] => []
  | v :: rest => write v :: writeItems rest

/-- The members of an object, one by one. -/
def writeMembers : List (Text × Value) → List Text
  | [] => []
  | (k, v) :: rest =>
    (writeString k ++ Text.ofString ": " ++ write v) :: writeMembers rest

end

end Value

end ScriptQuote.Json
