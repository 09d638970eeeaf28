import ScriptQuote.Text.Basic
import ScriptQuote.Unicode.DecimalDigit
import ScriptQuote.Unicode.Separator

/-!
# Hexadecimal numerals

A liberal reader of base-16 numerals: blanks around the numeral, one sign, one
prefix, single underscores between digits or after the prefix, and decimal digits
of any script.  Letters that stand for digits are ASCII letters of either case.
-/

namespace ScriptQuote.Hexadecimal

open Unicode

/-- The ASCII character that a code point counts as: itself, a space for a
blank, a digit for a digit of another script. -/
def plain? (c : CodePoint) : Option Char :=
  if c.isAscii then c.toChar?
  else if isWideBlank c then some ' '
  else (decimalValue? c).map fun v => Char.ofNat (0x30 + v)

/-- ASCII blanks. -/
def isBlank (c : Char) : Bool :=
  c == ' ' || c == '\t' || c == '\n' || c == '\x0b' || c == '\x0c' || c == '\r'

/-- The value of an ASCII hexadecimal digit. -/
def digitValue? (c : Char) : Option Nat :=
  if '0' ≤ c ∧ c ≤ '9' then some (c.toNat - 0x30)
  else if 'a' ≤ c ∧ c ≤ 'f' then some (c.toNat - 0x61 + 10)
  else if 'A' ≤ c ∧ c ≤ 'F' then some (c.toNat - 0x41 + 10)
  else none

/-- Reads digits with single underscores between them, the value so far being
`acc`.  Answers the value and what follows the last digit; an underscore that no
digit follows is refused. -/
def digits? (afterDigit : Bool) (acc : Nat) : List Char → Option (Nat × List Char)
  | [] => if afterDigit then some (acc, []) else none
  | c :: rest =>
    match digitValue? c with
    | some v => digits? true (16 * acc + v) rest
    | none =>
      if afterDigit then
        if c == '_' then digits? false acc rest else some (acc, c :: rest)
      else none

/-- Drops a prefix, and one underscore after it. -/
def dropPrefix : List Char → List Char
  | '0' :: 'x' :: '_' :: rest => rest
  | '0' :: 'X' :: '_' :: rest => rest
  | '0' :: 'x' :: rest => rest
  | '0' :: 'X' :: rest => rest
  | cs => cs

/-- Reads a numeral without sign that only blanks may follow. -/
def magnitude? (cs : List Char) : Option Nat :=
  match digits? false 0 (dropPrefix cs) with
  | some (n, rest) => if rest.all isBlank then some n else none
  | none => none

/-- The number that an ASCII numeral stands for. -/
def ofChars? (cs : List Char) : Option Int :=
  match cs.dropWhile isBlank with
  | '-' :: rest => (magnitude? rest).map fun n => -(n : Int)
  | '+' :: rest => (magnitude? rest).map fun n => (n : Int)
  | rest => (magnitude? rest).map fun n => (n : Int)

/-- The number that a text stands for, if it is a numeral. -/
def ofText? (t : Text) : Option Int := (t.mapM plain?).bind ofChars?

/-- The small hexadecimal digits of a number, at least `width` of them. -/
def padded (width n : Nat) : Text :=
  let ds := (Nat.toDigits 16 n).map CodePoint.ofChar
  List.replicate (width - ds.length) (CodePoint.ofChar '0') ++ ds

end ScriptQuote.Hexadecimal
