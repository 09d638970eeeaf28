import ScriptQuote.Numeral.Decimal
import ScriptQuote.Toml.Quoted

/-!
# Numbers, dates and times in TOML

A date has to exist in the calendar; a time and an offset have to be in range.  Whole
numbers come in four bases, with single underscores between digits.
-/

namespace ScriptQuote.Toml

/-- The number of two digits, if it is at most `limit`. -/
def twoDigits? (limit : Nat) (a b : Char) : Option Nat :=
  if Decimal.isDigit a && Decimal.isDigit b && Decimal.ofDigits [a, b] ≤ limit then
    some (Decimal.ofDigits [a, b])
  else none

/-- Drops the digits behind a point, if there is a point with a digit. -/
def skipFraction (s : List Char) : Left s :=
  match s with
  | '.' :: c :: rest =>
    if Decimal.isDigit c then (Left.dropWhile Decimal.isDigit rest).cons.cons
    else .whole ('.' :: c :: rest)
  | s => .whole s

/-- Takes a time of day. -/
def takeClock? (s : List Char) : Option (Taken Unit s) :=
  match s with
  | h1 :: h2 :: ':' :: m1 :: m2 :: ':' :: s1 :: s2 :: rest =>
    if (twoDigits? 23 h1 h2).isSome && (twoDigits? 59 m1 m2).isSome &&
        (twoDigits? 59 s1 s2).isSome
    then some (Taken.upTo () (skipFraction rest)).cons.cons.cons.cons.cons.cons.cons
    else none
  | _ => none

/-- Drops an offset from universal time, if there is one. -/
def skipOffset (s : List Char) : Left s :=
  match s with
  | 'Z' :: rest => (Left.whole rest).cons
  | 'z' :: rest => (Left.whole rest).cons
  | sign :: h1 :: h2 :: ':' :: m1 :: m2 :: rest =>
    if (sign == '+' || sign == '-') && (twoDigits? 23 h1 h2).isSome &&
        (twoDigits? 59 m1 m2).isSome
    then (Left.whole rest).cons.cons.cons.cons.cons.cons
    else .whole (sign :: h1 :: h2 :: ':' :: m1 :: m2 :: rest)
  | s => .whole s

/-- Drops a time of day and an offset behind a date, if there is a time. -/
def skipClock (s : List Char) : Left s :=
  match s with
  | c :: rest =>
    if c == 'T' || c == 't' || c == ' ' then
      match takeClock? rest with
      | some t => (t.left.andThen (skipOffset t.rest)).cons
      | none => .whole (c :: rest)
    else .whole (c :: rest)
  | [] => .whole []

/-- The number of days of a month. -/
def daysIn (year month : Nat) : Nat :=
  if month = 2 then
    if year % 4 = 0 ∧ (year % 100 ≠ 0 ∨ year % 400 = 0) then 29 else 28
  else if month = 4 ∨ month = 6 ∨ month = 9 ∨ month = 11 then 30
  else 31

/-- Takes a date, with a time and an offset if they follow.  What is shaped like
a date has to be one. -/
def takeDate? (s : List Char) : Option (Except Fault (Taken Unit s)) :=
  match s with
  | y1 :: y2 :: y3 :: y4 :: '-' :: m1 :: m2 :: '-' :: d1 :: d2 :: rest =>
    if [y1, y2, y3, y4].all Decimal.isDigit then
      match twoDigits? 12 m1 m2, twoDigits? 31 d1 d2 with
      | some month, some day =>
        if month = 0 ∨ day = 0 then none
        else
          let year := Decimal.ofDigits [y1, y2, y3, y4]
          if year = 0 ∨ daysIn year month < day then some (.error .malformed)
          else
            some (.ok (Taken.upTo ()
              (skipClock rest)).cons.cons.cons.cons.cons.cons.cons.cons.cons)
      | _, _ => none
    else none
  | _ => none

/-- Is the character a digit of the base that a letter announces? -/
def isRadixDigit (letter c : Char) : Bool :=
  match letter with
  | 'x' => (hexDigit? c).isSome
  | 'o' => '0' ≤ c && c ≤ '7'
  | 'b' => c == '0' || c == '1'
  | _ => false

/-- The base that a letter announces. -/
def radix (letter : Char) : Nat :=
  match letter with
  | 'x' => 16
  | 'o' => 8
  | _ => 2

/-- Splits a list after its leading digits, which single underscores may part. -/
def spanGrouped (p : Char → Bool) : (s : List Char) → List Char × Left s
  | [] => ([], .whole [])
  | [c] => if p c then ([c], (Left.whole []).cons) else ([], .whole [c])
  | c :: c' :: rest =>
    if p c then
      let (ds, r) := spanGrouped p (c' :: rest)
      (c :: ds, r.cons)
    else if c == '_' && p c' then
      let (ds, r) := spanGrouped p rest
      (c' :: ds, r.cons.cons)
    else ([], .whole (c :: c' :: rest))

/-- Splits off a leading digit and the digits behind it; nothing if there is no
digit. -/
def spanDigits? (s : List Char) : Option (List Char × Left s) :=
  match s with
  | c :: rest =>
    if Decimal.isDigit c then
      let (ds, r) := spanGrouped Decimal.isDigit rest
      some (c :: ds, r.cons)
    else none
  | [] => none

/-- Drops the fraction of a number and tells whether there was one. -/
def takeFraction (s : List Char) : Bool × Left s :=
  match s with
  | '.' :: rest =>
    match spanDigits? rest with
    | some (_, r) => (true, r.cons)
    | none => (false, .whole ('.' :: rest))
  | s => (false, .whole s)

/-- Drops a sign. -/
def skipSign (s : List Char) : Left s :=
  match s with
  | '+' :: rest => (Left.whole rest).cons
  | '-' :: rest => (Left.whole rest).cons
  | s => .whole s

/-- Drops the exponent of a number and tells whether there was one. -/
def takeExponent (s : List Char) : Bool × Left s :=
  match s with
  | c :: rest =>
    if c == 'e' || c == 'E' then
      match spanDigits? (skipSign rest).1 with
      | some (_, r) => (true, ((skipSign rest).andThen r).cons)
      | none => (false, .whole (c :: rest))
    else (false, .whole (c :: rest))
  | [] => (false, .whole [])

/-- Takes a whole number in base ten or a number with fraction or exponent. -/
def takeDecimal? (s : List Char) : Option (Except Fault (Taken Value s)) :=
  match skipSign s with
  | ⟨[], _⟩ => none
  | ⟨c :: rest, h⟩ =>
    if Decimal.isDigit c then
      let whole : List Char × Left rest :=
        if c == '0' then ([], .whole rest) else spanGrouped Decimal.isDigit rest
      let f := takeFraction whole.2.1
      let x := takeExponent f.2.1
      let left := whole.2.andThen (f.2.andThen x.2)
      let taken (v : Value) : Taken Value s := .within ⟨c :: rest, h⟩ (.upTo v left)
      if f.1 || x.1 then
        some (.ok (taken (.float (s.take (s.length - left.1.length)))))
      else
        let ds := c :: whole.1
        if Decimal.maxDigits < ds.length then
          some (.error (.numeralTooLong ds.length))
        else
          let n : Int := Decimal.ofDigits ds
          some (.ok (taken (.integer (if s.head? == some '-' then -n else n))))
    else none

/-- Takes a whole number in another base than ten. -/
def takeRadix? (s : List Char) : Option (Taken Value s) :=
  match s with
  | '0' :: letter :: c :: rest =>
    if isRadixDigit letter c then
      let (ds, left) := spanGrouped (isRadixDigit letter) rest
      let n := (c :: ds).foldl (fun n d => radix letter * n + (hexDigit? d).getD 0) 0
      some (Taken.upTo (.integer n) left).cons.cons
    else none
  | _ => none

/-- Takes one of the names for numbers that are not finite. -/
def takeNamedNumber? (s : List Char) : Option (Taken Value s) :=
  match s with
  | 'i' :: 'n' :: 'f' :: _ => some (Taken.first (.float ['i', 'n', 'f'])).cons.cons
  | 'n' :: 'a' :: 'n' :: _ => some (Taken.first (.float ['n', 'a', 'n'])).cons.cons
  | sign :: 'i' :: 'n' :: 'f' :: _ =>
    if sign == '+' || sign == '-' then
      some (Taken.first (.float [sign, 'i', 'n', 'f'])).cons.cons.cons
    else none
  | sign :: 'n' :: 'a' :: 'n' :: _ =>
    if sign == '+' || sign == '-' then
      some (Taken.first (.float [sign, 'n', 'a', 'n'])).cons.cons.cons
    else none
  | _ => none

/-- Reads a date, a time or a number. -/
def readScalar (s : List Char) : Except Fault (Taken Value s) :=
  let written (t : Taken Unit s) : Taken Value s :=
    t.map fun _ => .moment (s.take (s.length - t.rest.length))
  match takeDate? s with
  | some r => r.map written
  | none =>
    match takeClock? s with
    | some t => .ok (written t)
    | none =>
      match takeRadix? s with
      | some t => .ok t
      | none =>
        match takeDecimal? s with
        | some r => r
        | none =>
          match takeNamedNumber? s with
          | some t => .ok t
          | none => .error .malformed

end ScriptQuote.Toml
