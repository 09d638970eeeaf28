import ScriptQuote.ImportCheck.Token

/-!
# Expressions of Python sources

Nothing in an expression imports anything, so of an expression only this is kept: where
it ends, and what may be done with it on the left of an assignment (`Role`).  Operators
are read without regard to how strongly they bind, which makes no difference to what is
an expression, but for those that do not go into comparisons.

The readers work on tokens.  Their first argument bounds how deep they call each other;
`depthFor` is a bound that a source cannot exceed.
-/

namespace ScriptQuote.ImportCheck

/-- A reader takes tokens off the front of a list, or finds out that they cannot
be read. -/
abbrev Reading := StateT (List Token) (Except SourceFault)

/-- The fault of a source at the token where reading cannot go on: an
indentation that does not belong there is one of its own. -/
def faultAt : List Token → SourceFault
  | [] => .malformed
  | t :: _ =>
    match t.kind with
    | .fault f => f.sourceFault
    | .openBlock => .badIndentation
    | .closeBlock => .badIndentation
    | _ => .malformed

namespace Reading

/-- Reading cannot go on. -/
def reject {α : Type} : Reading α := fun ts => .error (faultAt ts)

/-- The source is none, wherever that shows. -/
def refuse {α : Type} : Reading α := fun _ => .error .malformed

/-- Reading cannot go on, and that is not the fault of an indentation. -/
def rejectWords {α : Type} : Reading α := fun ts =>
  match ts with
  | ⟨.fault f, _⟩ :: _ => .error f.sourceFault
  | _ => .error .malformed

/-- Tests the tokens that come next. -/
def sees (p : List Token → Bool) : Reading Bool := fun ts => .ok (p ts, ts)

/-- Drops some tokens. -/
def skip (count : Nat) : Reading Unit := fun ts => .ok ((), ts.drop count)

/-- Takes the next token if it passes a test, and tells whether it does. -/
def takes (p : List Token → Bool) : Reading Bool := fun ts =>
  if p ts then .ok (true, ts.drop 1) else .ok (false, ts)

/-- Takes the next token, which has to pass a test. -/
def expect (p : List Token → Bool) : Reading Unit := fun ts =>
  if p ts then .ok ((), ts.drop 1) else .error (faultAt ts)

/-- Reads something if that is possible, and nothing otherwise. -/
def attempt {α : Type} (r : Reading α) : Reading (Option α) := fun ts =>
  match r.run ts with
  | .ok (a, ts') => .ok (some a, ts')
  | .error _ => .ok (none, ts)

end Reading

open Reading

/-- Is the next token this operator? -/
def isOp (sign : String) : List Token → Bool
  | ⟨.op s, _⟩ :: _ => s == sign
  | _ => false

/-- Is the next token this keyword? -/
def isKeyword (word : String) : List Token → Bool
  | ⟨.keyword w, _⟩ :: _ => w == word
  | _ => false

/-- Is the next token one of these operators? -/
def isOneOf (signs : List String) : List Token → Bool
  | ⟨.op s, _⟩ :: _ => signs.contains s
  | _ => false

/-- Reads a name. -/
def readName : Reading String := fun ts =>
  match ts with
  | ⟨.name w, _⟩ :: rest => .ok (w, rest)
  | _ => .error (faultAt ts)

/-! ## Roles -/

/-- What an expression may be on the left of an assignment. -/
structure Role where
  /-- May it be assigned to? -/
  isTarget : Bool
  /-- May it be assigned to with an operator? -/
  isSingle : Bool
  /-- May it have an annotation? -/
  isAnnotatable : Bool
  /-- May it be deleted? -/
  isDeletable : Bool
  /-- Is it unpacked by a star? -/
  isStarred : Bool
  /-- Is it a plain name? -/
  isName : Bool
  /-- Does it start with parentheses around what may be assigned to with an
  operator?  Such parentheses may have an annotation behind them, but a part of
  what they hold may not. -/
  opensSingle : Bool

namespace Role

/-- A value, which nothing may be assigned to. -/
def value : Role := ⟨false, false, false, false, false, false, false⟩

/-- A name. -/
def name : Role := ⟨true, true, true, true, false, true, false⟩

/-- A part of something: an attribute or an item. -/
def part (r : Role) : Role :=
  ⟨true, true, !r.opensSingle, true, false, false, r.opensSingle⟩

/-- What a call of something gives. -/
def called (r : Role) : Role := { value with opensSingle := r.opensSingle }

/-- An expression in parentheses. -/
def inParentheses (r : Role) : Role :=
  { r with isName := false, isAnnotatable := r.isSingle, opensSingle := r.isSingle }

/-- An expression behind a star. -/
def starred (r : Role) : Role :=
  { value with isTarget := r.isTarget && !r.isStarred, isStarred := true }

/-- A sequence of expressions. -/
def sequence (rs : List Role) : Role :=
  { value with
    isTarget := rs.all isTarget
    isDeletable := rs.all fun r => r.isDeletable && !r.isStarred }

end Role

/-! ## String literals -/

/-- Does the literal hold bytes? -/
def Literal.isBytes (l : Literal) : Bool := l.letters.contains 'b'

/-- Are backslashes plain characters in the literal? -/
def Literal.isRaw (l : Literal) : Bool := l.letters.contains 'r'

/-- Are expressions filled into the literal? -/
def Literal.isFormatted (l : Literal) : Bool := l.letters.contains 'f'

/-- The value of a hexadecimal digit. -/
def hexValue? (c : Char) : Option Nat :=
  if '0' ≤ c ∧ c ≤ '9' then some (c.toNat - 0x30)
  else if 'a' ≤ c ∧ c ≤ 'f' then some (c.toNat - 0x61 + 10)
  else if 'A' ≤ c ∧ c ≤ 'F' then some (c.toNat - 0x41 + 10)
  else none

/-- Do the characters start with this many hexadecimal digits, of a number that
a code point has? -/
def startsHex (count : Nat) (cs : List Char) : Bool :=
  match (cs.take count).mapM hexValue? with
  | some vs => vs.length == count && vs.foldl (fun n v => 16 * n + v) 0 < 0x110000
  | none => false

/-- Are all escapes with numbers well formed?  Others mean themselves. -/
def escapesOk (isBytes : Bool) : List Char → Bool
  | '\\' :: c :: rest =>
    (match c with
      | 'x' => startsHex 2 rest
      | 'u' => isBytes || startsHex 4 rest
      | 'U' => isBytes || startsHex 8 rest
      | _ => true) && escapesOk isBytes rest
  | _ :: rest => escapesOk isBytes rest
  | [] => true

/-- Is a literal well formed, apart from the expressions in it? -/
def Literal.isWellFormed (l : Literal) : Bool :=
  (!l.isBytes || l.content.all fun c => c.toNat < 0x80) &&
    (l.isRaw || (escapesOk l.isBytes l.content && (l.isBytes || l.namesOk)))

/-- One step in finding the end of an expression in a formatted literal. -/
structure FieldScan where
  /-- The quotes of the string that the place is in. -/
  quotes : List Char
  /-- The open brackets. -/
  brackets : List Char

/-- The characters of an expression in a formatted literal and what follows
them, from behind the opening brace on.  The expression ends at a sign that is
not inside a string or brackets. -/
def splitField (st : FieldScan) : List Char → Option (List Char × List Char)
  | [] => none
  | '\\' :: _ => none
  | c :: rest =>
    let continue_ (st : FieldScan) : Option (List Char × List Char) :=
      (splitField st rest).map fun p => (c :: p.1, p.2)
    match st.quotes with
    | [q, _, _] =>
      match rest with
      | a :: b :: rest' =>
        if c == q && a == q && b == q then
          (splitField { st with quotes := [] } rest').map fun p =>
            (c :: a :: b :: p.1, p.2)
        else continue_ st
      | _ => continue_ st
    | [q] => if c == q then continue_ { st with quotes := [] } else continue_ st
    | _ =>
      if isQuoteMark c then
        match rest with
        | a :: b :: rest' =>
          if a == c && b == c then
            (splitField { st with quotes := [c, c, c] } rest').map fun p =>
              (c :: a :: b :: p.1, p.2)
          else continue_ { st with quotes := [c] }
        | _ => continue_ { st with quotes := [c] }
      else if c == '#' then none
      else if c == '(' || c == '[' || c == '\x7b' then
        continue_ { st with brackets := c :: st.brackets }
      else if st.brackets.isEmpty &&
          (c == '!' || c == ':' || c == '\x7d' || c == '=') then
        match rest with
        | '=' :: rest' =>
          if c == '!' || c == '=' then
            (splitField st rest').map fun p => (c :: '=' :: p.1, p.2)
          else some ([], c :: rest)
        | _ => some ([], c :: rest)
      else if st.brackets.isEmpty && (c == '<' || c == '>') then
        match rest with
        | '=' :: rest' => (splitField st rest').map fun p => (c :: '=' :: p.1, p.2)
        | _ => continue_ st
      else
        match openingOf c with
        | none => continue_ st
        | some o =>
          match st.brackets with
          | b :: outer =>
            if b == o then continue_ { st with brackets := outer } else none
          | [] => none

/-- Drops the conversion behind an expression in a formatted literal, and the
sign that shows the expression itself. -/
def skipConversion (s : List Char) : Option (List Char) :=
  let s := match s with
    | '=' :: rest =>
      rest.dropWhile fun c => [' ', '\t', '\n', '\x0b', '\x0c', '\r'].contains c
    | _ => s
  match s with
  | '!' :: c :: rest => if c == 's' || c == 'r' || c == 'a' then some rest else none
  | '!' :: [] => none
  | s => some s

/-- Drops an escaped name in braces. -/
def skipEscapedName : List Char → List Char
  | '\x7b' :: rest => (rest.dropWhile (· != '\x7d')).drop 1
  | s => s

/-- The operators that join two operands, but for comparisons. -/
def binaryOperators : List String :=
  ["|", "^", "&", "<<", ">>", "+", "-", "*", "/", "//", "%", "@"]

/-- The operators that compare two operands. -/
def comparisonOperators : List String := ["==", "!=", "<=", "<", ">=", ">"]

/-- May an expression start with the next token? -/
def startsExpression : List Token → Bool
  | ⟨.name _, _⟩ :: _ => true
  | ⟨.number _, _⟩ :: _ => true
  | ⟨.string _, _⟩ :: _ => true
  | ⟨.op s, _⟩ :: _ => ["(", "[", "\x7b", "-", "+", "~", "..."].contains s
  | ⟨.keyword w, _⟩ :: _ =>
    ["None", "True", "False", "not", "lambda", "await"].contains w
  | _ => false

/-- May an expression or one behind a star start with the next token? -/
def startsItem (ts : List Token) : Bool := startsExpression ts || isOp "*" ts

/-- Does a comprehension start with the next token? -/
def startsComprehension : List Token → Bool
  | ⟨.keyword "for", _⟩ :: _ => true
  | ⟨.keyword "async", _⟩ :: ⟨.keyword "for", _⟩ :: _ => true
  | _ => false

/-- Does an argument with a name start with the next token? -/
def startsNamedArgument : List Token → Bool
  | ⟨.name _, _⟩ :: ⟨.op "=", _⟩ :: _ => true
  | _ => false

/-- Takes an operator between compared operands, if one is next. -/
def takesComparison : Reading Bool := do
  if ← takes (isOneOf comparisonOperators) then return true
  if ← takes (isKeyword "in") then return true
  if ← takes (isKeyword "is") then
    let _ ← takes (isKeyword "not")
    return true
  if ← takes (isKeyword "not") then
    expect (isKeyword "in")
    return true
  return false

/-- What has been seen of the arguments of a call. -/
inductive ArgumentStage
  | positional
  | named
  | unpacked
deriving DecidableEq

/-- What has been seen of the parameters of a function. -/
structure ParameterStage where
  /-- Nothing yet. -/
  isFirst : Bool
  /-- A parameter with a default. -/
  hasDefault : Bool
  /-- The mark behind the positional parameters. -/
  hasSlash : Bool
  /-- The star. -/
  hasStar : Bool
  /-- A star without a name that no parameter has followed. -/
  needsName : Bool

/-- Before any parameter. -/
def ParameterStage.initial : ParameterStage := ⟨true, false, false, false, false⟩

mutual

/-- Reads an expression. -/
def readExpression : Nat → Reading Role
  | 0 => refuse
  | n + 1 => do
    if ← takes (isKeyword "lambda") then
      readParameters n false ":" .initial
      let _ ← readExpression n
      return .value
    let r ← readDisjunction n
    if ← takes (isKeyword "if") then
      let _ ← readDisjunction n
      expect (isKeyword "else")
      let _ ← readExpression n
      return .value
    return r

/-- Reads comparisons joined by the words for "and" and "or". -/
def readDisjunction : Nat → Reading Role
  | 0 => refuse
  | n + 1 => do
    let r ← readInversion n
    if ← takes fun ts => isKeyword "and" ts || isKeyword "or" ts then
      let _ ← readDisjunction n
      return .value
    return r

/-- Reads a comparison, which may be negated. -/
def readInversion : Nat → Reading Role
  | 0 => refuse
  | n + 1 => do
    if ← takes (isKeyword "not") then
      let _ ← readInversion n
      return .value
    readComparison n

/-- Reads operands that are compared with each other. -/
def readComparison : Nat → Reading Role
  | 0 => refuse
  | n + 1 => do
    let r ← readOperation n
    if ← takesComparison then
      let _ ← readComparison n
      return .value
    return r

/-- Reads operands joined by operators other than comparisons. -/
def readOperation : Nat → Reading Role
  | 0 => refuse
  | n + 1 => do
    let r ← readOperand n
    if ← takes (isOneOf binaryOperators) then
      let _ ← readOperation n
      return .value
    return r

/-- Reads an operand with signs before it and a power behind it. -/
def readOperand : Nat → Reading Role
  | 0 => refuse
  | n + 1 => do
    if ← takes (isOneOf ["+", "-", "~"]) then
      let _ ← readOperand n
      return .value
    let isAwaited ← takes (isKeyword "await")
    let r ← readAtom n
    let r ← readTrailers n r
    if ← takes (isOp "**") then
      let _ ← readOperand n
      return .value
    return if isAwaited then .value else r

/-- Reads attributes, calls and items behind an atom. -/
def readTrailers : Nat → Role → Reading Role
  | 0, _ => refuse
  | n + 1, r => do
    if ← takes (isOp ".") then
      let _ ← readName
      readTrailers n r.part
    else if ← takes (isOp "(") then
      readArguments n true .positional true
      readTrailers n r.called
    else if ← takes (isOp "[") then
      readSlices n
      readTrailers n r.part
    else return r

/-- Reads an atom. -/
def readAtom : Nat → Reading Role
  | 0 => refuse
  | n + 1 => do
    let ts ← get
    match ts with
    | ⟨.name _, _⟩ :: _ =>
      skip 1
      return .name
    | ⟨.number _, _⟩ :: _ =>
      skip 1
      return .value
    | ⟨.string l, _⟩ :: _ =>
      readStrings n l.isBytes
      return .value
    | ⟨.keyword w, _⟩ :: _ =>
      if w == "None" || w == "True" || w == "False" then
        skip 1
        return .value
      reject
    | ⟨.op "...", _⟩ :: _ =>
      skip 1
      return .value
    | ⟨.op "(", _⟩ :: _ =>
      skip 1
      readParenthesized n
    | ⟨.op "[", _⟩ :: _ =>
      skip 1
      readBracketed n
    | ⟨.op "\x7b", _⟩ :: _ =>
      skip 1
      readBraced n
      return .value
    | _ => reject

/-- Reads neighbouring string literals, which have to be of one kind. -/
def readStrings : Nat → Bool → Reading Unit
  | 0, _ => refuse
  | n + 1, isBytes => do
    match ← get with
    | ⟨.string l, _⟩ :: _ =>
      if l.isBytes != isBytes || !l.isWellFormed then refuse
      if l.isFormatted && (readFormatted n l.isRaw 0 l.content).isNone then refuse
      skip 1
      readStrings n isBytes
    | _ => return ()

/-- Reads a formatted literal and gives what is left of it: nothing, or the
brace that ends a format inside another one. -/
def readFormatted : Nat → Bool → Nat → List Char → Option (List Char)
  | 0, _, _, _ => none
  | n + 1, isRaw, level, s =>
    match s with
    | [] => some []
    | '\\' :: c :: rest =>
      if isRaw || c == '\x7b' || c == '\x7d' then
        readFormatted n isRaw level (c :: rest)
      else readFormatted n isRaw level
        (if c == 'N' then skipEscapedName rest else rest)
    | '\x7b' :: rest =>
      if level = 0 && rest.head? == some '\x7b' then
        readFormatted n isRaw level (rest.drop 1)
      else readField n isRaw level rest
    | '\x7d' :: rest =>
      if level ≠ 0 then some s
      else if rest.head? == some '\x7d' then readFormatted n isRaw level (rest.drop 1)
      else none
    | _ :: rest => readFormatted n isRaw level rest

/-- Reads an expression in a formatted literal with its conversion and format,
and goes on. -/
def readField : Nat → Bool → Nat → List Char → Option (List Char)
  | 0, _, _, _ => none
  | n + 1, isRaw, level, s =>
    if 2 ≤ level then none
    else
      match splitField ⟨[], []⟩ s with
      | none => none
      | some (expression, rest) =>
        if expression.all fun c => [' ', '\t', '\n', '\x0c', '\r'].contains c
        then none
        else
          -- No escape, and so no name of a character, is in the expression.
          match (readItems n).run
              (tokenize (fun _ => false) ('(' :: expression ++ [')'])) with
          | .error _ => none
          | .ok _ =>
            match skipConversion rest with
            | some (':' :: rest) =>
              match readFormatted n isRaw (level + 1) rest with
              | some ('\x7d' :: rest) => readFormatted n isRaw level rest
              | _ => none
            | some ('\x7d' :: rest) => readFormatted n isRaw level rest
            | _ => none

/-- Reads what is in parentheses, from behind the opening one. -/
def readParenthesized : Nat → Reading Role
  | 0 => refuse
  | n + 1 => do
    if ← takes (isOp ")") then return .sequence []
    if ← sees (isKeyword "yield") then
      readYield n
      expect (isOp ")")
      return .value
    let r ← readItem n
    if !r.isStarred && (← sees startsComprehension) then
      readComprehension n
      expect (isOp ")")
      return .value
    if ← sees (isOp ",") then
      let rs ← readMoreItems n
      expect (isOp ")")
      return .sequence (r :: rs)
    if r.isStarred then reject
    expect (isOp ")")
    return r.inParentheses

/-- Reads what is in brackets, from behind the opening one. -/
def readBracketed : Nat → Reading Role
  | 0 => refuse
  | n + 1 => do
    if ← takes (isOp "]") then return .sequence []
    let r ← readItem n
    if !r.isStarred && (← sees startsComprehension) then
      readComprehension n
      expect (isOp "]")
      return .value
    let rs ← readMoreItems n
    expect (isOp "]")
    return .sequence (r :: rs)

/-- Reads what is in braces, from behind the opening one. -/
def readBraced : Nat → Reading Unit
  | 0 => refuse
  | n + 1 => do
    if ← sees fun ts => isOp "\x7d" ts || isOp "**" ts then readEntries n
    else
      let start ← get
      let r ← readItem n
      if !r.isStarred && (← sees (isOp ":")) then
        set start
        let _ ← readExpression n
        expect (isOp ":")
        let _ ← readExpression n
        if ← sees startsComprehension then
          readComprehension n
          expect (isOp "\x7d")
        else if ← takes (isOp ",") then readEntries n
        else expect (isOp "\x7d")
      else if !r.isStarred && (← sees startsComprehension) then
        readComprehension n
        expect (isOp "\x7d")
      else
        let _ ← readMoreItems n
        expect (isOp "\x7d")

/-- Reads entries of a dictionary and the closing brace. -/
def readEntries : Nat → Reading Unit
  | 0 => refuse
  | n + 1 => do
    if ← takes (isOp "\x7d") then return ()
    if ← takes (isOp "**") then
      let _ ← readOperation n
    else
      let _ ← readExpression n
      expect (isOp ":")
      let _ ← readExpression n
    if ← takes (isOp ",") then readEntries n else expect (isOp "\x7d")

/-- Reads an item of a sequence: one behind a star, or an expression that may be
given a name. -/
def readItem : Nat → Reading Role
  | 0 => refuse
  | n + 1 => do
    if ← takes (isOp "*") then return (← readOperation n).starred
    readNamed n

/-- Reads an expression that may be given a name. -/
def readNamed : Nat → Reading Role
  | 0 => refuse
  | n + 1 => do
    let r ← readExpression n
    if ← sees (isOp ":=") then
      if !r.isName then reject
      skip 1
      let _ ← readExpression n
      return .value
    return r

/-- Reads further items of a sequence, each behind a comma; a comma may stand at
the end. -/
def readMoreItems : Nat → Reading (List Role)
  | 0 => refuse
  | n + 1 => do
    if !(← takes (isOp ",")) then return []
    if !(← sees startsItem) then return []
    let r ← readItem n
    return r :: (← readMoreItems n)

/-- Reads expressions without parentheses around them, some of which may be
behind a star. -/
def readItems : Nat → Reading Role
  | 0 => refuse
  | n + 1 => do
    let r ← readPlainItem n
    if ← sees (isOp ",") then return .sequence (r :: (← readMorePlainItems n))
    return r

/-- Reads an expression, which may be behind a star but not be given a name. -/
def readPlainItem : Nat → Reading Role
  | 0 => refuse
  | n + 1 => do
    if ← takes (isOp "*") then return (← readOperation n).starred
    readExpression n

/-- Reads further expressions, each behind a comma; a comma may stand at the end. -/
def readMorePlainItems : Nat → Reading (List Role)
  | 0 => refuse
  | n + 1 => do
    if !(← takes (isOp ",")) then return []
    if !(← sees startsItem) then return []
    let r ← readPlainItem n
    return r :: (← readMorePlainItems n)

/-- Reads what a generator hands out. -/
def readYield : Nat → Reading Unit
  | 0 => refuse
  | n + 1 => do
    expect (isKeyword "yield")
    if ← takes (isKeyword "from") then
      let _ ← readExpression n
    else if ← sees startsItem then
      let _ ← readItems n

/-- Reads targets of a loop, without the word behind them. -/
def readTargets : Nat → Reading Role
  | 0 => refuse
  | n + 1 => do
    let r ← readTarget n
    if ← sees (isOp ",") then return .sequence (r :: (← readMoreTargets n))
    return r

/-- Reads one target. -/
def readTarget : Nat → Reading Role
  | 0 => refuse
  | n + 1 => do
    let isStarred ← takes (isOp "*")
    let r ← readOperation n
    let r := if isStarred then r.starred else r
    if r.isTarget then return r else reject

/-- Reads further targets, each behind a comma; a comma may stand at the end. -/
def readMoreTargets : Nat → Reading (List Role)
  | 0 => refuse
  | n + 1 => do
    if !(← takes (isOp ",")) then return []
    if !(← sees startsItem) then return []
    let r ← readTarget n
    return r :: (← readMoreTargets n)

/-- Reads the loops and conditions of a comprehension. -/
def readComprehension : Nat → Reading Unit
  | 0 => refuse
  | n + 1 => do
    let _ ← takes (isKeyword "async")
    expect (isKeyword "for")
    let _ ← readTargets n
    expect (isKeyword "in")
    let _ ← readDisjunction n
    readConditions n
    if ← sees startsComprehension then readComprehension n

/-- Reads the conditions of a comprehension. -/
def readConditions : Nat → Reading Unit
  | 0 => refuse
  | n + 1 => do
    if ← takes (isKeyword "if") then
      let _ ← readDisjunction n
      readConditions n

/-- Reads the arguments of a call and the closing parenthesis.  A comprehension
may be the only argument of a call, but not of a class. -/
def readArguments : Nat → Bool → ArgumentStage → Bool → Reading Unit
  | 0, _, _, _ => refuse
  | n + 1, isCall, stage, isFirst => do
    if ← takes (isOp ")") then return ()
    let next ← readArgument n isCall stage isFirst
    if ← takes (isOp ",") then readArguments n isCall next false
    else expect (isOp ")")

/-- Reads one argument. -/
def readArgument : Nat → Bool → ArgumentStage → Bool → Reading ArgumentStage
  | 0, _, _, _ => refuse
  | n + 1, isCall, stage, isFirst => do
    if ← takes (isOp "**") then
      let _ ← readExpression n
      return .unpacked
    if ← sees (isOp "*") then
      if stage = .unpacked then reject
      skip 1
      let _ ← readExpression n
      return stage
    if ← sees startsNamedArgument then
      skip 2
      let _ ← readExpression n
      return if stage = .positional then .named else stage
    let _ ← readNamed n
    if ← sees startsComprehension then
      if !(isCall && isFirst) then reject
      readComprehension n
      if !(← sees (isOp ")")) then reject
      return stage
    if stage ≠ .positional then reject
    return stage

/-- Reads what selects items and the closing bracket. -/
def readSlices : Nat → Reading Unit
  | 0 => refuse
  | n + 1 => do
    readSlice n
    if ← takes (isOp ",") then
      if !(← takes (isOp "]")) then readSlices n
    else expect (isOp "]")

/-- Reads one selection of items. -/
def readSlice : Nat → Reading Unit
  | 0 => refuse
  | n + 1 => do
    if ← takes (isOp "*") then
      let _ ← readExpression n
      return ()
    if !(← sees (isOp ":")) then
      let r ← readExpression n
      if ← sees (isOp ":=") then
        if !r.isName then reject
        skip 1
        let _ ← readExpression n
        return ()
    if ← takes (isOp ":") then
      readBound n
      if ← takes (isOp ":") then readBound n

/-- Reads a bound of a selection, which may be missing. -/
def readBound : Nat → Reading Unit
  | 0 => refuse
  | n + 1 => do
    if ← sees startsExpression then
      let _ ← readExpression n

/-- Reads the parameters of a function and the sign that ends them. -/
def readParameters : Nat → Bool → String → ParameterStage → Reading Unit
  | 0, _, _, _ => refuse
  | n + 1, isAnnotated, closing, stage => do
    if stage.needsName &&
        (← sees fun ts => isOp closing ts || isOp "**" ts) then reject
    if ← takes (isOp closing) then return ()
    if ← takes (isOp "**") then
      let _ ← readName
      readAnnotation n isAnnotated false
      let _ ← takes (isOp ",")
      expect (isOp closing)
      return ()
    let next ← readParameter n isAnnotated stage
    if ← takes (isOp ",") then
      readParameters n isAnnotated closing { next with isFirst := false }
    else
      if next.needsName then reject
      expect (isOp closing)

/-- Reads one parameter that is not the last one by its kind, or a mark between
parameters. -/
def readParameter : Nat → Bool → ParameterStage → Reading ParameterStage
  | 0, _, _ => refuse
  | n + 1, isAnnotated, stage => do
    if ← sees (isOp "/") then
      if stage.isFirst || stage.hasSlash || stage.hasStar then reject
      skip 1
      return { stage with hasSlash := true }
    if ← sees (isOp "*") then
      if stage.hasStar then reject
      skip 1
      if ← sees (isOp ",") then
        return { stage with hasStar := true, needsName := true }
      let _ ← readName
      readAnnotation n isAnnotated true
      return { stage with hasStar := true }
    let _ ← readName
    readAnnotation n isAnnotated false
    if ← takes (isOp "=") then
      let _ ← readExpression n
      return { stage with hasDefault := true, needsName := false }
    if stage.hasDefault && !stage.hasStar then reject
    return { stage with needsName := false }

/-- Reads the annotation of a parameter, if there is one; behind a star it may
have a star. -/
def readAnnotation : Nat → Bool → Bool → Reading Unit
  | 0, _, _ => refuse
  | n + 1, isAnnotated, mayStar => do
    if isAnnotated && (← sees (isOp ":")) then
      skip 1
      if mayStar && (← sees (isOp "*")) then
        skip 1
        let _ ← readOperation n
      else
        let _ ← readExpression n

end

/-- How deep the readers may call each other on a source of this many characters. -/
def depthFor (length : Nat) : Nat := 40 * (length + 2)

end ScriptQuote.ImportCheck
