import ScriptQuote.Numeral.Decimal
import ScriptQuote.Unicode.Identifier

/-!
# Tokens of Python sources

The characters of a source become names, numbers, strings, operators and the marks of
its layout.  A line that is indented deeper than the one before opens a block, one that
is indented less closes blocks, and neither blank lines nor lines inside brackets
count.  What cannot be a token ends the list with a fault.

`tokenize` goes through the source from left to right, and goes on only with fewer
characters than before.  Which names the characters of Unicode have is no matter of the
layout of a source, so the lexer is told (`isNamed`).
-/

namespace ScriptQuote.ImportCheck

/-- Why a source is no program, as far as it is told apart. -/
inductive SourceFault
  | malformed
  | badIndentation
  | mixedTabs
deriving DecidableEq

/-- What can be wrong on the level of tokens. -/
inductive TokenFault
  /-- Characters that make no token. -/
  | badCharacters
  /-- A backslash that does not end its line, or ends the last one. -/
  | badContinuation
  /-- The source ends inside brackets. -/
  | openBracket
  /-- A line is indented less than the one before, but as no line above it. -/
  | badDedent
  /-- Blocks are nested too deeply. -/
  | tooDeep
  /-- Whether a line is indented more depends on how wide a tab is. -/
  | mixedTabs
deriving DecidableEq

/-- The fault of the source. -/
def TokenFault.sourceFault : TokenFault → SourceFault
  | .badDedent => .badIndentation
  | .tooDeep => .badIndentation
  | .mixedTabs => .mixedTabs
  | _ => .malformed

/-- A string literal. -/
structure Literal where
  /-- The letters before it. -/
  letters : List Char
  /-- What stands between its quotes. -/
  content : List Char
  /-- Is every escape that gives a character by its name one of a name that there is? -/
  namesOk : Bool
deriving DecidableEq

/-- What a token is. -/
inductive TokenKind
  /-- A name as it is written. -/
  | name (word : String)
  | keyword (word : String)
  | number (isImaginary : Bool)
  | string (literal : Literal)
  | op (sign : String)
  | newline
  | openBlock
  | closeBlock
  | endOfSource
  | fault (f : TokenFault)
deriving DecidableEq

/-- A token and the line that it starts on. -/
structure Token where
  kind : TokenKind
  line : Nat
deriving DecidableEq

/-- The words that are no names. -/
def keywords : List String :=
  ["False", "None", "True", "and", "as", "assert", "async", "await", "break",
    "class", "continue", "def", "del", "elif", "else", "except", "finally",
    "for", "from", "global", "if", "import", "in", "is", "lambda", "nonlocal",
    "not", "or", "pass", "raise", "return", "try", "while", "with", "yield"]

/-- The operators of three characters. -/
def longOperators : List String := ["**=", "//=", ">>=", "<<=", "..."]

/-- The operators of two characters. -/
def pairOperators : List String :=
  ["!=", "%=", "&=", "**", "*=", "+=", "-=", "->", "//", "/=", ":=", "<<", "<=",
    "<>", "==", ">=", ">>", "@=", "^=", "|="]

/-! ## Names, numbers and strings -/

/-- An ASCII letter, the low line, or anything beyond ASCII. -/
def startsWord (c : Char) : Bool :=
  ('a' ≤ c && c ≤ 'z') || ('A' ≤ c && c ≤ 'Z') || c == '_' || 0x80 ≤ c.toNat

/-- What a word goes on with. -/
def continuesWord (c : Char) : Bool := startsWord c || Decimal.isDigit c

/-- Is what goes on as a word an identifier? -/
def isIdentifier (cs : List Char) : Bool :=
  if cs.all fun c => c.toNat < 0x80 then true
  else Unicode.isIdentifier (cs.map CodePoint.ofChar)

/-- Digits go on, parted by single low lines. -/
def digitRun (p : Char → Bool) : List Char → Option (List Char)
  | [] => some []
  | [c] => if c == '_' then none else if p c then some [] else some [c]
  | c :: c' :: rest =>
    if p c then digitRun p (c' :: rest)
    else if c == '_' then if p c' then digitRun p rest else none
    else some (c :: c' :: rest)

/-- Digits of a base behind its letter, where a low line may come first. -/
def radixRun (p : Char → Bool) : List Char → Option (List Char)
  | '_' :: c :: rest => if p c then digitRun p rest else none
  | c :: rest => if p c then digitRun p rest else none
  | [] => none

/-- May a number end before these characters?  Some keywords may follow it at once. -/
def endsNumber : List Char → Bool
  | [] => true
  | c :: rest =>
    match c, rest with
    | 'a', 'n' :: 'd' :: _ => true
    | 'e', 'l' :: 's' :: 'e' :: _ => true
    | 'f', 'o' :: 'r' :: _ => true
    | 'i', 'f' :: _ => true
    | 'i', 'n' :: _ => true
    | 'i', 's' :: _ => true
    | 'o', 'r' :: _ => true
    | 'n', 'o' :: 't' :: _ => true
    | _, _ => !continuesWord c

/-- The end of a number, which may be imaginary. -/
def numberEnd (s : List Char) : Option (List Char) :=
  match s with
  | 'j' :: rest => if endsNumber rest then some rest else none
  | 'J' :: rest => if endsNumber rest then some rest else none
  | _ => if endsNumber s then some s else none

/-- The exponent of a number, if there is one, and its end. -/
def exponentEnd (s : List Char) : Option (List Char) :=
  match s with
  | c :: sign :: d :: rest =>
    if c == 'e' || c == 'E' then
      if sign == '+' || sign == '-' then
        if Decimal.isDigit d then
          (digitRun Decimal.isDigit rest).bind numberEnd else none
      else if Decimal.isDigit sign then
        (digitRun Decimal.isDigit (d :: rest)).bind numberEnd
      else numberEnd s
    else numberEnd s
  | [c, d] =>
    if (c == 'e' || c == 'E') && Decimal.isDigit d then some [] else numberEnd s
  | _ => numberEnd s

/-- The digits behind a point, if there are any, and what follows in the number. -/
def fractionEnd (s : List Char) : Option (List Char) :=
  match s with
  | c :: rest =>
    if Decimal.isDigit c then (digitRun Decimal.isDigit rest).bind exponentEnd
    else exponentEnd s
  | [] => some []

/-- What stands behind a number that starts with a digit.  Zeros have no limit. -/
def numberRest? (s : List Char) : Option (List Char) :=
  let isOctal (c : Char) : Bool := '0' ≤ c && c ≤ '7'
  let isBinary (c : Char) : Bool := c == '0' || c == '1'
  let isHex (c : Char) : Bool :=
    Decimal.isDigit c || ('a' ≤ c && c ≤ 'f') || ('A' ≤ c && c ≤ 'F')
  let closed (r : List Char) : Option (List Char) :=
    if endsNumber r then some r else none
  match s with
  | '0' :: 'x' :: rest => (radixRun isHex rest).bind closed
  | '0' :: 'X' :: rest => (radixRun isHex rest).bind closed
  | '0' :: 'o' :: rest => (radixRun isOctal rest).bind closed
  | '0' :: 'O' :: rest => (radixRun isOctal rest).bind closed
  | '0' :: 'b' :: rest => (radixRun isBinary rest).bind closed
  | '0' :: 'B' :: rest => (radixRun isBinary rest).bind closed
  | c :: rest =>
    match digitRun Decimal.isDigit rest with
    | none => none
    | some r =>
      let ds := (rest.take (rest.length - r.length)).filter fun d => d != '_'
      match r with
      | '.' :: r' => fractionEnd r'
      | m :: _ =>
        if m == 'e' || m == 'E' || m == 'j' || m == 'J' then exponentEnd r
        else if isWhole c ds then closed r
        else none
      | [] => if isWhole c ds then some [] else none
  | [] => none
where
  /-- Are the digits those of a whole number, which starts with a zero only if
  it is zero? -/
  isWhole (c : Char) (ds : List Char) : Bool :=
    if c == '0' then ds.all (· == '0') else ds.length < Decimal.maxDigits

/-- Is the number whose characters these are imaginary? -/
def isImaginary (cs : List Char) : Bool :=
  cs.getLast?.any fun c => c == 'j' || c == 'J'

/-- Splits a string literal on one line from what follows, behind its opening quote. -/
def splitString (q : Char) : List Char → Option (List Char × List Char)
  | [] => none
  | [c] => if c == q then some ([], []) else none
  | c :: c' :: rest =>
    if c == q then some ([], c' :: rest)
    else if c == '\n' then none
    else if c == '\\' then (splitString q rest).map fun p => (c :: c' :: p.1, p.2)
    else (splitString q (c' :: rest)).map fun p => (c :: p.1, p.2)

/-- Splits a string literal on many lines from what follows, behind its opening
quotes. -/
def splitLongString (q : Char) : List Char → Option (List Char × List Char)
  | a :: b :: c :: rest =>
    if a == q && b == q && c == q then some ([], rest)
    else if a == '\\' then
      (splitLongString q (c :: rest)).map fun p => (a :: b :: p.1, p.2)
    else (splitLongString q (b :: c :: rest)).map fun p => (a :: p.1, p.2)
  | _ => none

/-- Splits a string literal from what follows, from its first quote on. -/
def splitQuoted (s : List Char) : Option (List Char × List Char) :=
  match s with
  | q :: rest =>
    match rest with
    | a :: b :: rest' =>
      if a == q && b == q then splitLongString q rest' else splitString q rest
    | _ => splitString q rest
  | [] => none

/-- Is the character a quote? -/
def isQuoteMark (c : Char) : Bool := c == '\x27' || c == '\x22'

/-- Do escapes give characters by names that there are?  Such a name stands in
braces. -/
def namesOk (isNamed : List Char → Bool) : List Char → Bool
  | '\\' :: 'N' :: '\x7b' :: rest =>
    let name := rest.takeWhile (· != '\x7d')
    name.length < rest.length && isNamed name && namesOk isNamed rest
  | '\\' :: c :: rest => c != 'N' && namesOk isNamed rest
  | _ :: rest => namesOk isNamed rest
  | [] => true

/-- The letters before a string literal, if they are that. -/
def isStringPrefix (cs : List Char) : Bool :=
  ["", "b", "r", "u", "f", "br", "rb", "fr", "rf"].contains
    (String.ofList (cs.map Char.toLower))

/-! ## Layout -/

/-- How far a line is indented: with tabs to every eighth column, and with tabs
as one. -/
structure Indentation where
  column : Nat
  narrow : Nat
deriving DecidableEq

/-- The indentation of a line whose start has been read so far, with the line
count and what is left.  A backslash at the end of the line carries it on, and
the first one settles the column. -/
def readIndentation (line : Nat) (start : Indentation) (settled : Nat) :
    List Char → Except TokenFault (Indentation × Nat × List Char)
  | ' ' :: rest =>
    readIndentation line ⟨start.column + 1, start.narrow + 1⟩ settled rest
  | '\t' :: rest =>
    readIndentation line ⟨(start.column / 8 + 1) * 8, start.narrow + 1⟩ settled rest
  | '\x0c' :: rest => readIndentation line ⟨0, 0⟩ settled rest
  | '\\' :: '\n' :: c :: rest =>
    readIndentation (line + 1) start
      (if settled = 0 then start.column else settled) (c :: rest)
  | '\\' :: _ => .error .badContinuation
  | s => .ok (if settled = 0 then start else ⟨settled, settled⟩, line, s)

theorem length_readIndentation_le {line : Nat} {i : Indentation} {settled : Nat}
    {s : List Char} {r : Indentation × Nat × List Char}
    (h : readIndentation line i settled s = .ok r) :
    r.2.2.length ≤ s.length := by
  fun_induction readIndentation line i settled s with
  | case1 _ _ _ _ ih => exact Nat.le_succ_of_le (ih h)
  | case2 _ _ _ _ ih => exact Nat.le_succ_of_le (ih h)
  | case3 _ _ _ _ ih => exact Nat.le_succ_of_le (ih h)
  | case4 _ _ _ _ _ ih => exact Nat.le_succ_of_le (Nat.le_succ_of_le (ih h))
  | case5 => simp at h
  | case6 => cases h; exact Nat.le_refl _

/-- The tokens that a change of indentation makes, and the indentations of the
blocks that are open then, the innermost first. -/
def layout (i : Indentation) (blocks : List Indentation) :
    Except TokenFault (List TokenKind × List Indentation) :=
  match blocks with
  | [] => .ok ([], [])
  | b :: _ =>
    if i.column = b.column then
      if i.narrow = b.narrow then .ok ([], blocks) else .error .mixedTabs
    else if b.column < i.column then
      if 100 ≤ blocks.length then .error .tooDeep
      else if i.narrow ≤ b.narrow then .error .mixedTabs
      else .ok ([.openBlock], i :: blocks)
    else leave blocks
where
  /-- Closes blocks down to the indentation. -/
  leave : List Indentation → Except TokenFault (List TokenKind × List Indentation)
    | [] => .error .badDedent
    | b :: outer =>
      if i.column < b.column then (leave outer).map fun r => (.closeBlock :: r.1, r.2)
      else if i.column = b.column then
        if i.narrow = b.narrow then .ok ([], b :: outer) else .error .mixedTabs
      else .error .badDedent

/-! ## The tokens of a source -/

/-- Where the lexer stands. -/
structure LexState where
  /-- The line. -/
  line : Nat
  /-- The indentations of the open blocks, the innermost first. -/
  blocks : List Indentation
  /-- The open brackets, the innermost first. -/
  brackets : List Char

/-- The bracket that a closing one belongs to. -/
def openingOf (c : Char) : Option Char :=
  match c with
  | ')' => some '('
  | ']' => some '['
  | '\x7d' => some '\x7b'
  | _ => none

/-- Brackets may be nested this deep. -/
def maxBrackets : Nat := 200

/-- The open brackets after one more character. -/
def bracketsAfter (c : Char) (brackets : List Char) : Option (List Char) :=
  if c == '(' || c == '[' || c == '\x7b' then
    if maxBrackets ≤ brackets.length then none else some (c :: brackets)
  else
    match openingOf c with
    | none => some brackets
    | some o =>
      match brackets with
      | b :: outer => if b == o then some outer else none
      | [] => none

/-- A name or a keyword; only what is written as a keyword is one. -/
def wordToken (w : String) : TokenKind :=
  bif keywords.contains w then .keyword w else .name w

/-- A token with the brackets that are open behind it and what is left. -/
abbrev TokenRead := TokenKind × List Char × List Char

/-- A word or, if a quote comes behind letters that may stand before it, a
string literal. -/
def readWord (isNamed : List Char → Bool) (brackets letters behind : List Char) :
    Option TokenRead :=
  if isStringPrefix letters && behind.head?.any isQuoteMark then
    (splitQuoted behind).map fun p =>
      (.string ⟨letters.map Char.toLower, p.1, namesOk isNamed p.1⟩, brackets, p.2)
  else if isIdentifier letters then
    some (wordToken (String.ofList letters), brackets, behind)
  else none

/-- A number in front of what is left. -/
def numberToken (brackets s rest : List Char) : TokenRead :=
  (.number (isImaginary (s.take (s.length - rest.length))), brackets, rest)

/-- The token at the start of some characters that are not blank. -/
def readToken (isNamed : List Char → Bool) (brackets : List Char) (s : List Char) :
    Option TokenRead :=
  match s with
  | [] => none
  | c :: rest =>
    if startsWord c || isQuoteMark c then
      readWord isNamed brackets (s.takeWhile continuesWord)
        (s.dropWhile continuesWord)
    else if Decimal.isDigit c then (numberRest? s).map (numberToken brackets s)
    else if c == '.' && (rest.head?.any Decimal.isDigit) then
      (fractionEnd rest).map (numberToken brackets s)
    else
      let triple := String.ofList (s.take 3)
      let pair := String.ofList (s.take 2)
      bif longOperators.contains triple then some (.op triple, brackets, s.drop 3)
      else bif pairOperators.contains pair then some (.op pair, brackets, s.drop 2)
      else if '\x20' < c && c < '\x7f' then
        (bracketsAfter c brackets).map fun bs => (.op (String.singleton c), bs, rest)
      else none

/-- Drops blanks inside a line. -/
def skipSpaces (s : List Char) : List Char :=
  s.dropWhile fun c => c == ' ' || c == '\t' || c == '\x0c'

/-- Drops a comment. -/
def skipComment (s : List Char) : List Char :=
  if s.head? == some '#' then s.dropWhile (· != '\n') else s

theorem length_skip_le (s : List Char) :
    (skipComment (skipSpaces s)).length ≤ s.length := by
  have h1 : (skipSpaces s).length ≤ s.length := (List.dropWhile_suffix _).length_le
  unfold skipComment
  split
  · exact Nat.le_trans (List.dropWhile_suffix _).length_le h1
  · exact h1

mutual

/-- The tokens from the start of a line. -/
def tokensOfLine (isNamed : List Char → Bool) (st : LexState) (s : List Char) :
    List Token :=
  match _h : readIndentation st.line ⟨0, 0⟩ 0 s with
  | .error f => [⟨.fault f, st.line⟩]
  | .ok (i, line, rest) =>
    let st := { st with line := line }
    let isBlank := rest.head? == some '#' || rest.head? == some '\n'
    if isBlank || !st.brackets.isEmpty then tokensInLine isNamed st isBlank rest
    else
      match layout i st.blocks with
      | .error f => [⟨.fault f, line⟩]
      | .ok (marks, blocks) =>
        marks.map (fun k => ⟨k, line⟩) ++
          tokensInLine isNamed { st with blocks := blocks } false rest
termination_by (s.length, 1)
decreasing_by
  all_goals
    have := length_readIndentation_le _h
    simp only at this
    rcases Nat.lt_or_eq_of_le this with h | h
    · exact Prod.Lex.left _ _ h
    · rw [h]
      exact Prod.Lex.right _ Nat.zero_lt_one

/-- The tokens from some place in a line, which may be a blank one. -/
def tokensInLine (isNamed : List Char → Bool) (st : LexState) (isBlank : Bool)
    (s : List Char) : List Token :=
  have _hs := length_skip_le s
  match _e : skipComment (skipSpaces s) with
  | [] =>
    if st.brackets.isEmpty then [⟨.endOfSource, st.line⟩]
    else [⟨.fault .openBracket, st.line⟩]
  | c :: rest =>
    if c == '\n' then
      let st' := { st with line := st.line + 1 }
      if isBlank || !st.brackets.isEmpty then tokensOfLine isNamed st' rest
      else ⟨.newline, st.line⟩ :: tokensOfLine isNamed st' rest
    else if c == '\\' then
      match rest with
      | a :: b :: rest =>
        if a == '\n' then
          tokensInLine isNamed { st with line := st.line + 1 } isBlank (b :: rest)
        else [⟨.fault .badContinuation, st.line⟩]
      | _ => [⟨.fault .badContinuation, st.line⟩]
    else
      match readToken isNamed st.brackets (c :: rest) with
      | none => [⟨.fault .badCharacters, st.line⟩]
      | some (kind, brackets, rest') =>
        if _h : rest'.length < (c :: rest).length then
          let taken := (c :: rest).take ((c :: rest).length - rest'.length)
          let st' := { st with
            line := st.line + taken.count '\n', brackets := brackets }
          ⟨kind, st.line⟩ :: tokensInLine isNamed st' isBlank rest'
        else [⟨.fault .badCharacters, st.line⟩]
termination_by (s.length, 0)
decreasing_by
  all_goals
    apply Prod.Lex.left
    rw [_e] at _hs
    simp only [List.length_cons] at *
    omega

end

/-- The tokens of a source, whose last line is ended if it is not. -/
def tokenize (isNamed : List Char → Bool) (source : List Char) : List Token :=
  let ended :=
    if source.isEmpty || source.getLast? == some '\n' then source
    else source ++ ['\n']
  tokensOfLine isNamed ⟨1, [⟨0, 0⟩], []⟩ ended

end ScriptQuote.ImportCheck
