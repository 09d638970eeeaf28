import ScriptQuote.Numeral.Decimal

/-!
# Points in time

The time of a log entry: a date and a time of day in UTC, to the microsecond.

The date is counted in years that start in March, so that the leap day is the last day
of a year, and in cycles of 400 years, after which the calendar repeats.
-/

namespace ScriptQuote.Record

/-- A point in time, in microseconds since the beginning of 1970. -/
structure Instant where
  micros : Nat

/-- A day of the calendar. -/
structure Date where
  year : Nat
  month : Nat
  day : Nat
deriving DecidableEq

namespace Date

/-- The days from the first of March of the year 0 to the beginning of 1970. -/
def daysBeforeEpoch : Nat := 719468

/-- The days of a cycle of 400 years. -/
def daysPerCycle : Nat := 146097

/-- The year of a cycle that one of its days is in. -/
def yearOfCycle (day : Nat) : Nat :=
  (day - day / 1460 + day / 36524 - day / 146096) / 365

/-- The date that many days after the beginning of 1970. -/
def ofDays (days : Nat) : Date :=
  let shifted := days + daysBeforeEpoch
  let dayOfCycle := shifted % daysPerCycle
  let year := yearOfCycle dayOfCycle
  let dayOfYear := dayOfCycle - (365 * year + year / 4 - year / 100)
  let monthFromMarch := (5 * dayOfYear + 2) / 153
  let month := if monthFromMarch < 10 then monthFromMarch + 3 else monthFromMarch - 9
  { year := shifted / daysPerCycle * 400 + year + (if month ≤ 2 then 1 else 0)
    month := month
    day := dayOfYear - (153 * monthFromMarch + 2) / 5 + 1 }

example : ofDays 0 = ⟨1970, 1, 1⟩ := by decide
example : ofDays 11016 = ⟨2000, 2, 29⟩ := by decide
example : ofDays 11017 = ⟨2000, 3, 1⟩ := by decide
example : ofDays 20453 = ⟨2025, 12, 31⟩ := by decide

end Date

/-- The digits of a number, with zeros before them up to a width. -/
def paddedDigits (width n : Nat) : Text :=
  let ds := Decimal.digits n
  List.replicate (width - ds.length) (CodePoint.ofChar '0') ++ ds

namespace Instant

/-- The date and the time of day, parted by a letter; a fraction of a second is
left out if it is zero. -/
def text (i : Instant) : Text :=
  let seconds := i.micros / 1000000
  let fraction := i.micros % 1000000
  let date := Date.ofDays (seconds / 86400)
  let join (sep : String) (parts : List Nat) : Text :=
    Text.join (Text.ofString sep) (parts.map (paddedDigits 2))
  paddedDigits 4 date.year ++ Text.ofString "-" ++ join "-" [date.month, date.day] ++
    Text.ofString "T" ++
    join ":" [seconds / 3600 % 24, seconds / 60 % 60, seconds % 60] ++
    (if fraction = 0 then [] else Text.ofString "." ++ paddedDigits 6 fraction) ++
    Text.ofString "Z"

end Instant

end ScriptQuote.Record
