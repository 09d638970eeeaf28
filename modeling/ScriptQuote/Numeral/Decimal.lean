import ScriptQuote.Text.Basic

/-!
# Decimal numerals

Whole numbers and their digits, in ASCII.
-/

namespace ScriptQuote.Decimal

/-- Is the character an ASCII decimal digit? -/
def isDigit (c : Char) : Bool := '0' ≤ c && c ≤ '9'

/-- The value of a digit. -/
def digitValue (c : Char) : Nat := c.toNat - 0x30

/-- The number that digits stand for. -/
def ofDigits (ds : List Char) : Nat := ds.foldl (fun n c => 10 * n + digitValue c) 0

/-- The digits of a number, without leading zeros; zero has one digit. -/
def digits (n : Nat) : Text := (Nat.toDigits 10 n).map CodePoint.ofChar

/-- A number with its sign, if it is negative. -/
def render : Int → Text
  | .ofNat n => digits n
  | .negSucc n => CodePoint.ofChar '-' :: digits (n + 1)

/-- Numerals of whole numbers may not be longer than this. -/
def maxDigits : Nat := 4300

/-- What is said of a numeral with more digits than that. -/
def tooLongMessage (count : Nat) : Text :=
  Text.ofString
    "Exceeds the limit (4300 digits) for integer string conversion: value has " ++
    digits count ++
    Text.ofString " digits; use sys.set_int_max_str_digits() to increase the limit"

/-- What is said when a number of more digits than that would have to be written out. -/
def tooLongToShowMessage : Text :=
  Text.ofString "Exceeds the limit (4300 digits) for integer string conversion; " ++
    Text.ofString "use sys.set_int_max_str_digits() to increase the limit"

end ScriptQuote.Decimal
