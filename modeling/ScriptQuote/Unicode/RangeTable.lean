import ScriptQuote.Text.CodePoint

/-!
# Range tables

A property of code points as data: a list of inclusive ranges of numbers.
-/

namespace ScriptQuote.Unicode

/-- Inclusive ranges of code point numbers. -/
abbrev RangeTable := List (Nat × Nat)

namespace RangeTable

/-- The range that holds a number, if one does. -/
def find? (table : RangeTable) (n : Nat) : Option (Nat × Nat) :=
  List.find? (fun r => Nat.ble r.1 n && Nat.ble n r.2) table

/-- Does some range hold the number? -/
def contains (table : RangeTable) (n : Nat) : Bool :=
  table.any fun r => Nat.ble r.1 n && Nat.ble n r.2

theorem contains_iff {table : RangeTable} {n : Nat} :
    table.contains n = true ↔ ∃ r ∈ table, r.1 ≤ n ∧ n ≤ r.2 := by
  simp [contains]

theorem contains_append {s t : RangeTable} {n : Nat} :
    contains (s ++ t) n = (s.contains n || t.contains n) := by
  simp [contains]

end RangeTable

end ScriptQuote.Unicode
