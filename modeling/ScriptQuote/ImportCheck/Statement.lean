import ScriptQuote.ImportCheck.Expression
import ScriptQuote.ImportCheck.Tree
import ScriptQuote.Text.Utf8
import ScriptQuote.Unicode.Compatibility

/-!
# Reading Python sources

A source is a sequence of statements; `parse` gives their tree or the first fault.  A
block that is missing under a heading is a fault of indentation, unless characters that
make no token come later in the source, which are told instead.

The names of the characters of Unicode are given to `parse`.
-/

namespace ScriptQuote.ImportCheck

open Reading

/-- The operators that assign the result of an operation. -/
def assignmentOperators : List String :=
  ["+=", "-=", "*=", "/=", "//=", "%=", "@=", "&=", "|=", "^=", ">>=", "<<=", "**="]

/-- A block is missing where these tokens come. -/
def missingBlock (ts : List Token) : SourceFault :=
  match ts with
  | ⟨.fault f, _⟩ :: _ => f.sourceFault
  | _ =>
    if ts.any fun t => t.kind == .fault .badCharacters then .malformed
    else .badIndentation

/-- Takes the end of a line and the opening of a block, which has to be there. -/
def expectBlock : Reading Unit := fun ts =>
  match ts with
  | ⟨.newline, _⟩ :: ⟨.openBlock, _⟩ :: rest => .ok ((), rest)
  | ⟨.newline, _⟩ :: rest => .error (missingBlock rest)
  | _ => .error (faultAt ts)

/-- Is the next token of this kind? -/
def isKind (k : TokenKind) : List Token → Bool
  | t :: _ => t.kind == k
  | [] => false

/-- Is the next token this name? -/
def isWord (word : String) : List Token → Bool
  | ⟨.name w, _⟩ :: _ => w == word
  | _ => false

/-! ## Simple statements -/

/-- A name in its plain form, in which wide and other forms of letters are gone. -/
def plainForm (word : String) : Text :=
  let t := Text.ofString word
  if t.all CodePoint.isAscii then t else t.map Unicode.toAsciiForm

/-- Reads a name that points may part, in its plain form. -/
def readDotted : Nat → Reading Text
  | 0 => refuse
  | n + 1 => do
    let w := plainForm (← readName)
    if ← takes (isOp ".") then return w ++ Text.ofString "." ++ (← readDotted n)
    return w

/-- Reads another name for what is imported, if there is one. -/
def readAlias : Reading Unit := do
  if ← takes (isKeyword "as") then
    let _ ← readName

/-- Reads the modules of an import. -/
def readModules : Nat → Reading (List Text)
  | 0 => refuse
  | n + 1 => do
    let w ← readDotted n
    readAlias
    if ← takes (isOp ",") then return w :: (← readModules n)
    return [w]

/-- Reads names to import up to a closing parenthesis, before which a comma may
stand. -/
def readListedNames : Nat → Reading Unit
  | 0 => refuse
  | n + 1 => do
    let _ ← readName
    readAlias
    if ← takes (isOp ",") then
      if !(← takes (isOp ")")) then readListedNames n
    else expect (isOp ")")

/-- Reads names to import without parentheses. -/
def readPlainNames : Nat → Reading Unit
  | 0 => refuse
  | n + 1 => do
    let _ ← readName
    readAlias
    if ← takes (isOp ",") then readPlainNames n

/-- Takes the points before a module, and tells whether there are any. -/
def takePoints : Nat → Reading Bool
  | 0 => refuse
  | n + 1 => do
    if ← takes (isOneOf [".", "..."]) then
      let _ ← takePoints n
      return true
    return false

/-- Reads an import from a module, from behind its first word. -/
def readImportFrom (n line : Nat) : Reading Stmt := do
  let hasPoints ← takePoints n
  let isPackage := hasPoints && (← sees (isKeyword "import"))
  let source ← if isPackage then pure none else some <$> readDotted n
  expect (isKeyword "import")
  if !(← takes (isOp "*")) then
    if ← takes (isOp "(") then readListedNames n else readPlainNames n
  return .importFrom line source

/-- Reads names behind commas. -/
def readNames : Nat → Reading Unit
  | 0 => refuse
  | n + 1 => do
    let _ ← readName
    if ← takes (isOp ",") then readNames n

/-- Reads what is assigned: expressions, or what a generator hands out.  The
latter is no target. -/
def readAssigned (n : Nat) : Reading Role := do
  if ← sees (isKeyword "yield") then
    readYield n
    return .value
  readItems n

/-- Reads what comes behind the targets of an assignment, each of which may be a
target again. -/
def readAssignments : Nat → Role → Reading Unit
  | 0, _ => refuse
  | n + 1, r => do
    if ← sees (isOp "=") then
      if !r.isTarget then reject
      skip 1
      let r ← readAssigned n
      readAssignments n r

/-- Reads a statement that starts with an expression. -/
def readAssignment (n : Nat) : Reading Unit := do
  let r ← readAssigned n
  if ← sees (isOp ":") then
    if !r.isAnnotatable then reject
    skip 1
    let _ ← readExpression n
    if ← takes (isOp "=") then
      let _ ← readAssigned n
  else if ← sees (isOneOf assignmentOperators) then
    if !r.isSingle then reject
    skip 1
    let _ ← readAssigned n
  else readAssignments n r

/-- Reads a statement that starts with a keyword of its own. -/
def readKeywordStatement (n : Nat) (word : String) (line : Nat) : Reading Stmt := do
  match word with
  | "import" =>
    skip 1
    return .importNames line (← readModules n)
  | "from" =>
    skip 1
    readImportFrom n line
  | "pass" | "break" | "continue" =>
    skip 1
    return .simple line
  | "return" =>
    skip 1
    if ← sees startsItem then
      let _ ← readItems n
    return .simple line
  | "raise" =>
    skip 1
    if ← sees startsExpression then
      let _ ← readExpression n
      if ← takes (isKeyword "from") then
        let _ ← readExpression n
    return .simple line
  | "global" | "nonlocal" =>
    skip 1
    readNames n
    return .simple line
  | "del" =>
    skip 1
    let r ← readItems n
    if !r.isDeletable then reject
    return .simple line
  | "assert" =>
    skip 1
    let _ ← readExpression n
    if ← takes (isOp ",") then
      let _ ← readExpression n
    return .simple line
  | _ =>
    readAssignment n
    return .simple line

/-- Reads a simple statement. -/
def readSimple (n : Nat) : Reading Stmt := do
  match ← get with
  | ⟨.keyword w, line⟩ :: _ => readKeywordStatement n w line
  | ts =>
    readAssignment n
    return .simple (ts.head?.elim 0 Token.line)

/-- Reads the simple statements of a line and its end. -/
def readSimpleLine : Nat → Reading (List Stmt)
  | 0 => refuse
  | n + 1 => do
    let s ← readSimple n
    if ← takes (isOp ";") then
      if ← takes (isKind .newline) then return [s]
      return s :: (← readSimpleLine n)
    expect (isKind .newline)
    return [s]

/-! ## Patterns -/

/-- Reads a number with the number that is added to it or taken off it, if there
is one.  A sum has a real part and then an imaginary one. -/
def readNumberPattern : Reading Unit := do
  let _ ← takes (isOp "-")
  match ← get with
  | ⟨.number isImaginary, _⟩ :: _ =>
    skip 1
    if ← takes (isOneOf ["+", "-"]) then
      if isImaginary then refuse
      expect (isKind (.number true))
  | _ => reject

/-- Reads the name that a pattern gives to what matches; a low line is none. -/
def readCapture : Reading Unit := do
  if ← sees (isWord "_") then reject
  let _ ← readName

/-- Reads a name, which has to have a point in it. -/
def readAttribute (n : Nat) : Reading Unit := do
  let _ ← readName
  expect (isOp ".")
  let _ ← readDotted n

/-- Does a literal start with the next token that may be a pattern? -/
def startsLiteralPattern : List Token → Bool
  | ⟨.number _, _⟩ :: _ => true
  | ⟨.string _, _⟩ :: _ => true
  | ⟨.op s, _⟩ :: _ => s == "-"
  | ⟨.keyword w, _⟩ :: _ => ["None", "True", "False"].contains w
  | _ => false

/-- Reads a literal that may be a pattern. -/
def readLiteralPattern (n : Nat) : Reading Unit := do
  match ← get with
  | ⟨.string l, _⟩ :: _ => readStrings n l.isBytes
  | ⟨.keyword _, _⟩ :: _ => skip 1
  | _ => readNumberPattern

/-- What has been seen of the arguments of a class pattern. -/
inductive PatternStage
  | initial
  | positional
  | named
deriving DecidableEq

mutual

/-- Reads patterns that commas may part. -/
def readPatterns : Nat → Reading Unit
  | 0 => refuse
  | n + 1 => do
    let isStarred ← sees (isOp "*")
    readStarPattern n
    if ← takes (isOp ",") then
      if !(← sees fun ts => isOp ":" ts || isKeyword "if" ts) then readMorePatterns n
    else if isStarred then reject

/-- Reads further patterns of an open sequence. -/
def readMorePatterns : Nat → Reading Unit
  | 0 => refuse
  | n + 1 => do
    readStarPattern n
    if ← takes (isOp ",") then
      if !(← sees fun ts => isOp ":" ts || isKeyword "if" ts) then readMorePatterns n

/-- Reads a pattern, or a star with a name. -/
def readStarPattern : Nat → Reading Unit
  | 0 => refuse
  | n + 1 => do
    if ← takes (isOp "*") then
      let _ ← readName
    else readPattern n

/-- Reads alternatives and a name for what matches. -/
def readPattern : Nat → Reading Unit
  | 0 => refuse
  | n + 1 => do
    readAlternatives n
    if ← takes (isKeyword "as") then readCapture

/-- Reads alternatives. -/
def readAlternatives : Nat → Reading Unit
  | 0 => refuse
  | n + 1 => do
    readClosedPattern n
    if ← takes (isOp "|") then readAlternatives n

/-- Reads a pattern that needs nothing around it.  A low line is one by itself,
and starts no other one. -/
def readClosedPattern : Nat → Reading Unit
  | 0 => refuse
  | n + 1 => do
    if ← sees startsLiteralPattern then
      readLiteralPattern n
      return ()
    match ← get with
    | ⟨.name "_", _⟩ :: _ => skip 1
    | ⟨.name _, _⟩ :: _ =>
      let _ ← readDotted n
      if ← takes (isOp "(") then readClassPatterns n .initial
    | ⟨.op "(", _⟩ :: _ =>
      skip 1
      if ← sees (isOp "*") then
        readStarPattern n
        expect (isOp ",")
      readSequencePattern n ")"
    | ⟨.op "[", _⟩ :: _ =>
      skip 1
      readSequencePattern n "]"
    | ⟨.op "\x7b", _⟩ :: _ =>
      skip 1
      readMappingPattern n
    | _ => reject

/-- Reads the patterns of a sequence and the bracket that closes it. -/
def readSequencePattern : Nat → String → Reading Unit
  | 0, _ => refuse
  | n + 1, closing => do
    if ← takes (isOp closing) then return ()
    readStarPattern n
    if ← takes (isOp ",") then readSequencePattern n closing
    else expect (isOp closing)

/-- Reads the arguments of a class pattern and the closing parenthesis.  Those
with names come last, and a low line is no name right behind one without a
name. -/
def readClassPatterns : Nat → PatternStage → Reading Unit
  | 0, _ => refuse
  | n + 1, stage => do
    if ← takes (isOp ")") then return ()
    let isNamed ← sees startsNamedArgument
    if isNamed then
      if stage = .positional && (← sees (isWord "_")) then reject
      skip 2
    else if stage = .named then reject
    readPattern n
    let next := if isNamed then PatternStage.named else .positional
    if ← takes (isOp ",") then readClassPatterns n next else expect (isOp ")")

/-- Reads the entries of a mapping pattern and the closing brace. -/
def readMappingPattern : Nat → Reading Unit
  | 0 => refuse
  | n + 1 => do
    if ← takes (isOp "\x7d") then return ()
    if ← takes (isOp "**") then
      readCapture
      let _ ← takes (isOp ",")
      expect (isOp "\x7d")
    else
      if ← sees startsLiteralPattern then readLiteralPattern n else readAttribute n
      expect (isOp ":")
      readPattern n
      if ← takes (isOp ",") then readMappingPattern n else expect (isOp "\x7d")

end

/-! ## Compound statements -/

/-- Reads one of the things that a with statement opens. -/
def readContext (n : Nat) : Reading Unit := do
  let _ ← readExpression n
  if ← takes (isKeyword "as") then
    let _ ← readTarget n

/-- Reads things that a with statement opens. -/
def readContexts : Nat → Reading Unit
  | 0 => refuse
  | n + 1 => do
    readContext n
    if ← takes (isOp ",") then readContexts n

/-- Reads things that a with statement opens, up to a closing parenthesis. -/
def readListedContexts : Nat → Reading Unit
  | 0 => refuse
  | n + 1 => do
    readContext n
    if ← takes (isOp ",") then
      if !(← takes (isOp ")")) then readListedContexts n
    else expect (isOp ")")

/-- Reads the things in parentheses that a with statement opens, and the colon
behind them. -/
def readParenthesizedContexts (n : Nat) : Reading Unit := do
  expect (isOp "(")
  readListedContexts n
  expect (isOp ":")

/-- Reads what a match statement looks at. -/
def readSubject (n : Nat) : Reading Unit := do
  skip 1
  let r ← readItem n
  if ← sees (isOp ",") then
    let _ ← readMoreItems n
  else if r.isStarred then reject

/-- Reads the first line of a match statement up to its end. -/
def readMatchHeading (n : Nat) : Reading Unit := do
  readSubject n
  expect (isOp ":")
  if !(← sees (isKind .newline)) then reject

/-- Reads a line that would be the first one of a match statement if it had a
colon.  An indented line cannot follow it, and that is not the fault of the
indentation. -/
def readColonlessMatch (n : Nat) : Reading Unit := do
  readSubject n
  expect (isKind .newline)
  if ← sees (isKind .openBlock) then return () else reject

/-- How the clauses of a try statement start. -/
inductive HandlerKind
  | plain
  | group
deriving DecidableEq

/-- Reads the heading of a handler, from behind its first word, and tells its kind. -/
def readHandlerHeading (n : Nat) : Reading HandlerKind := do
  if ← takes (isOp ":") then return .plain
  let isGroup ← takes (isOp "*")
  let _ ← readExpression n
  readAlias
  expect (isOp ":")
  return if isGroup then .group else .plain

mutual

/-- Reads the block behind a colon: statements on lines of their own, or on the
same line. -/
def readBlock : Nat → Reading (List Stmt)
  | 0 => refuse
  | n + 1 => do
    if ← sees (isKind .newline) then
      expectBlock
      readStatements n .closeBlock
    else readSimpleLine n

/-- Reads statements up to a mark, of which there has to be one at least in a block. -/
def readStatements : Nat → TokenKind → Reading (List Stmt)
  | 0, _ => refuse
  | n + 1, ending => do
    if ← takes (isKind ending) then return []
    let ss ← readStatement n
    return ss ++ (← readStatements n ending)

/-- Reads a compound statement or the simple statements of a line. -/
def readStatement : Nat → Reading (List Stmt)
  | 0 => refuse
  | n + 1 => do
    match ← get with
    | ⟨.op "@", line⟩ :: _ =>
      readDecorators n
      return [← readDefinition n line]
    | ⟨.keyword "def", line⟩ :: _ => return [← readDefinition n line]
    | ⟨.keyword "class", line⟩ :: _ => return [← readDefinition n line]
    | ⟨.keyword "if", line⟩ :: _ =>
      skip 1
      return [← readCondition n line]
    | ⟨.keyword "while", line⟩ :: _ =>
      skip 1
      let _ ← readNamed n
      expect (isOp ":")
      let body ← readBlock n
      return [.compound line body [] (← readElse n) []]
    | ⟨.keyword "for", line⟩ :: _ => return [← readLoop n line]
    | ⟨.keyword "with", line⟩ :: _ => return [← readWith n line]
    | ⟨.keyword "try", line⟩ :: _ =>
      skip 1
      expect (isOp ":")
      return [← readTry n line]
    | ⟨.keyword "async", line⟩ :: ts =>
      skip 1
      if isKeyword "def" ts then return [← readDefinition n line]
      if isKeyword "for" ts then return [← readLoop n line]
      if isKeyword "with" ts then return [← readWith n line]
      reject
    | ⟨.name "match", line⟩ :: _ =>
      match ← attempt (readMatchHeading n) with
      | some _ =>
        expectBlock
        return [.compound line [] (← readCases n) [] []]
      | none =>
        if (← attempt (readColonlessMatch n)).isSome then refuse
        readSimpleLine n
    | _ => readSimpleLine n

/-- Reads decorators, each on a line of its own. -/
def readDecorators : Nat → Reading Unit
  | 0 => refuse
  | n + 1 => do
    if ← takes (isOp "@") then
      let _ ← readNamed n
      expect (isKind .newline)
      readDecorators n

/-- Reads the definition of a function or a class. -/
def readDefinition : Nat → Nat → Reading Stmt
  | 0, _ => refuse
  | n + 1, line => do
    if ← takes (isKeyword "class") then
      let _ ← readName
      if ← takes (isOp "(") then readArguments n false .positional true
      expect (isOp ":")
    else
      let _ ← takes (isKeyword "async")
      expect (isKeyword "def")
      let _ ← readName
      expect (isOp "(")
      readParameters n true ")" .initial
      if ← takes (isOp "->") then
        let _ ← readExpression n
      expect (isOp ":")
    return .compound line (← readBlock n) [] [] []

/-- Reads a conditional statement from behind its first word. -/
def readCondition : Nat → Nat → Reading Stmt
  | 0, _ => refuse
  | n + 1, line => do
    let _ ← readNamed n
    expect (isOp ":")
    let body ← readBlock n
    match ← get with
    | ⟨.keyword "elif", line'⟩ :: _ =>
      skip 1
      return .compound line body [] [← readCondition n line'] []
    | _ => return .compound line body [] (← readElse n) []

/-- Reads what is done otherwise, if anything is. -/
def readElse : Nat → Reading (List Stmt)
  | 0 => refuse
  | n + 1 => do
    if ← takes (isKeyword "else") then
      expect (isOp ":")
      readBlock n
    else return []

/-- Reads a loop over items. -/
def readLoop : Nat → Nat → Reading Stmt
  | 0, _ => refuse
  | n + 1, line => do
    expect (isKeyword "for")
    let _ ← readTargets n
    expect (isKeyword "in")
    let _ ← readItems n
    expect (isOp ":")
    let body ← readBlock n
    return .compound line body [] (← readElse n) []

/-- Reads a with statement. -/
def readWith : Nat → Nat → Reading Stmt
  | 0, _ => refuse
  | n + 1, line => do
    expect (isKeyword "with")
    if (← attempt (readParenthesizedContexts n)).isNone then
      readContexts n
      expect (isOp ":")
    return .compound line (← readBlock n) [] [] []

/-- Reads a try statement from behind its colon. -/
def readTry : Nat → Nat → Reading Stmt
  | 0, _ => refuse
  | n + 1, line => do
    let body ← readBlock n
    let clauses ← readHandlers n none
    let otherwise ← if clauses.isEmpty then pure [] else readElse n
    if ← takes (isKeyword "finally") then
      expect (isOp ":")
      return .compound line body clauses otherwise (← readBlock n)
    if clauses.isEmpty then rejectWords
    return .compound line body clauses otherwise []

/-- Reads handlers, which have to be of one kind. -/
def readHandlers : Nat → Option HandlerKind → Reading (List (List Stmt))
  | 0, _ => refuse
  | n + 1, kind? => do
    if ← takes (isKeyword "except") then
      let kind ← readHandlerHeading n
      if kind?.any (· ≠ kind) then refuse
      let body ← readBlock n
      return body :: (← readHandlers n (some kind))
    return []

/-- Reads the cases of a match statement up to the end of its block. -/
def readCases : Nat → Reading (List (List Stmt))
  | 0 => refuse
  | n + 1 => do
    if !(← sees (isWord "case")) then reject
    skip 1
    readPatterns n
    if ← takes (isKeyword "if") then
      let _ ← readNamed n
    expect (isOp ":")
    let body ← readBlock n
    if ← takes (isKind .closeBlock) then return [body]
    return body :: (← readCases n)

end

/-- Gives the statements of a source, or tells why it has none. -/
abbrev Parser := List Char → Except SourceFault (List Stmt)

/-- A source with line ends of one kind.  If its last one is of two characters,
an empty line comes behind it. -/
def withUnifiedLines (source : List Char) : List Char :=
  let lines := Utf8.unifyLineEnds source
  if ['\r', '\n'].isSuffixOf source then lines ++ ['\n'] else lines

/-- The statements of a source.  No source holds a NUL, not even in a comment. -/
def parse (isNamed : List Char → Bool) : Parser := fun source =>
  if source.contains '\x00' then .error .malformed
  else
    let source := withUnifiedLines source
    ((readStatements (depthFor source.length) .endOfSource).run
      (tokenize isNamed source)).map
      Prod.fst

end ScriptQuote.ImportCheck
