import ScriptQuote.Toml.Blank

/-!
# Strings and keys in TOML

Basic strings know escapes, literal strings do not; both come on one line and on many.
Each reader starts behind the opening quotes.
-/

namespace ScriptQuote.Toml

/-- The value of a hexadecimal digit. -/
def hexDigit? (c : Char) : Option Nat :=
  if '0' ≤ c ∧ c ≤ '9' then some (c.toNat - 0x30)
  else if 'a' ≤ c ∧ c ≤ 'f' then some (c.toNat - 0x61 + 10)
  else if 'A' ≤ c ∧ c ≤ 'F' then some (c.toNat - 0x41 + 10)
  else none

/-- The character with a number written in hexadecimal digits, if there is one. -/
def hexChar? (ds : List Char) : Option Char := do
  let vs ← ds.mapM hexDigit?
  let n := vs.foldl (fun n v => 16 * n + v) 0
  if h : n.isValidChar then some (Char.ofNatAux n h) else none

/-- What a one-letter escape stands for. -/
def simpleEscape? : Char → Option Char
  | 'b' => some '\x08'
  | 't' => some '\t'
  | 'n' => some '\n'
  | 'f' => some '\x0c'
  | 'r' => some '\r'
  | '\x22' => some '\x22'
  | '\\' => some '\\'
  | _ => none

/-- Reads an escape from behind its backslash. -/
def readEscape (s : List Char) : Except Fault (Taken Char s) :=
  match s with
  | 'u' :: a :: b :: c :: d :: _ =>
    match hexChar? [a, b, c, d] with
    | some x => .ok (Taken.first x).cons.cons.cons.cons
    | none => .error .malformed
  | 'U' :: a :: b :: c :: d :: a' :: b' :: c' :: d' :: _ =>
    match hexChar? [a, b, c, d, a', b', c', d'] with
    | some x => .ok (Taken.first x).cons.cons.cons.cons.cons.cons.cons.cons
    | none => .error .malformed
  | c :: _ =>
    match simpleEscape? c with
    | some x => .ok (.first x)
    | none => .error .malformed
  | [] => .error .malformed

/-- Reads a literal string on one line. -/
def readLiteral (s : List Char) : Except Fault (Taken Text s) :=
  match s with
  | [] => .error .malformed
  | c :: rest =>
    if c == '\x27' then .ok (.first [])
    else if isControl c then .error .malformed
    else do
      let more ← readLiteral rest
      return (more.map (CodePoint.ofChar c :: ·)).cons

/-- Reads a basic string on one line. -/
def readBasic (s : List Char) : Except Fault (Taken Text s) :=
  match s with
  | [] => .error .malformed
  | c :: rest =>
    if c == '\x22' then .ok (.first [])
    else if c == '\\' then do
      let x ← readEscape rest
      let more ← readBasic x.rest
      return ((x.andThen more).map (CodePoint.ofChar x.value :: ·)).cons
    else if isControl c then .error .malformed
    else do
      let more ← readBasic rest
      return (more.map (CodePoint.ofChar c :: ·)).cons
termination_by s.length
decreasing_by
  · have := x.rest_lt
    simp only [List.length_cons]
    omega
  · exact Nat.lt_succ_self _

/-- Up to two quotes right behind the closing ones belong to the string. -/
def extraQuotes (q : Char) (s : List Char) : Text × Left s :=
  match s with
  | a :: b :: rest =>
    if a == q then
      if b == q then ([q, q], (Left.whole rest).cons.cons)
      else ([q], (Left.whole (b :: rest)).cons)
    else ([], .whole (a :: b :: rest))
  | [a] => if a == q then ([q], (Left.whole []).cons) else ([], .whole [a])
  | [] => ([], .whole [])

/-- Does the list start with three quotes? -/
def startsTriple (q : Char) : List Char → Bool
  | a :: b :: c :: _ => a == q && b == q && c == q
  | _ => false

/-- The end of a string on many lines, from behind the first of its closing quotes. -/
def endLines (q c : Char) (rest : List Char) : Taken Text (c :: rest) :=
  let quotes := Left.drop 2 rest
  let extra := extraQuotes q quotes.1
  .upTo extra.1 (quotes.andThen extra.2)

/-- Reads a literal string on many lines. -/
def readLiteralLines (s : List Char) : Except Fault (Taken Text s) :=
  match s with
  | [] => .error .malformed
  | c :: rest =>
    if startsTriple '\x27' (c :: rest) then .ok (endLines '\x27' c rest)
    else if isControl c && c != '\n' then .error .malformed
    else do
      let more ← readLiteralLines rest
      return (more.map (CodePoint.ofChar c :: ·)).cons

/-- Drops a line end that is taken back by the backslash before it, and all
blanks and line ends that follow.  Only blanks may stand between the two. -/
def skipContinuation (s : List Char) : Except Fault (Left s) :=
  match (skipBlank s).take? '\n' with
  | some lineEnd => .ok (lineEnd.left.andThen (skipBlankLines lineEnd.rest))
  | none => if (skipBlank s).1.isEmpty then .ok (skipBlank s) else .error .malformed

/-- Does a backslash before these characters take back a line end? -/
def startsContinuation : List Char → Bool
  | c :: _ => c == ' ' || c == '\t' || c == '\n'
  | [] => false

/-- Reads a basic string on many lines. -/
def readBasicLines (s : List Char) : Except Fault (Taken Text s) :=
  match s with
  | [] => .error .malformed
  | c :: rest =>
    if startsTriple '\x22' (c :: rest) then .ok (endLines '\x22' c rest)
    else if c == '\\' then
      if startsContinuation rest then do
        let r ← skipContinuation rest
        let more ← readBasicLines r.1
        return (Taken.within r more).cons
      else do
        let x ← readEscape rest
          let more ← readBasicLines x.rest
        return ((x.andThen more).map (CodePoint.ofChar x.value :: ·)).cons
    else if isControl c && c != '\n' then .error .malformed
    else do
      let more ← readBasicLines rest
      return (more.map (CodePoint.ofChar c :: ·)).cons
termination_by s.length
decreasing_by
  · have := r.2
    simp only [List.length_cons]
    omega
  · have := x.rest_lt
    simp only [List.length_cons]
    omega
  · exact Nat.lt_succ_self _

/-- Drops the line end right behind opening quotes. -/
def dropFirstLineEnd (s : List Char) : Left s :=
  match s with
  | '\n' :: rest => (Left.whole rest).cons
  | s => .whole s

/-- Reads a string of any kind, if there is one. -/
def readString? (s : List Char) : Option (Except Fault (Taken Text s)) :=
  match s with
  | '\x22' :: '\x22' :: '\x22' :: rest =>
    let first := dropFirstLineEnd rest
    some ((readBasicLines first.1).map fun t => (Taken.within first t).cons.cons.cons)
  | '\x27' :: '\x27' :: '\x27' :: rest =>
    let first := dropFirstLineEnd rest
    some ((readLiteralLines first.1).map fun t =>
      (Taken.within first t).cons.cons.cons)
  | '\x22' :: rest => some ((readBasic rest).map Taken.cons)
  | '\x27' :: rest => some ((readLiteral rest).map Taken.cons)
  | _ => none

/-- May the character stand in a key without quotes? -/
def isBare (c : Char) : Bool :=
  ('a' ≤ c && c ≤ 'z') || ('A' ≤ c && c ≤ 'Z') || ('0' ≤ c && c ≤ '9') ||
    c == '-' || c == '_'

/-- Reads one part of a key. -/
def readKeyPart (s : List Char) : Except Fault (Taken Text s) :=
  match s with
  | '\x22' :: rest => (readBasic rest).map Taken.cons
  | '\x27' :: rest => (readLiteral rest).map Taken.cons
  | c :: rest =>
    if isBare c then
      .ok (.upTo ((c :: rest.takeWhile isBare).map CodePoint.ofChar)
        (Left.dropWhile isBare rest))
    else .error .malformed
  | [] => .error .malformed

/-- Reads a key, its parts being joined by points, and the blanks behind it. -/
def readKey (s : List Char) : Except Fault (Taken (List Text) s) := do
  let part ← readKeyPart s
  match (skipBlank part.rest).take? '.' with
  | some point =>
    let more ← readKey (skipBlank point.rest).1
    return (part.andThen (point.andThen (.within (skipBlank point.rest) more))).map
      (part.value :: ·)
  | none => return (part.andDrop (skipBlank part.rest)).map fun p => [p]
termination_by s.length
decreasing_by
  have := part.rest_lt
  have := point.rest_lt
  have := (skipBlank point.rest).2
  omega

end ScriptQuote.Toml
