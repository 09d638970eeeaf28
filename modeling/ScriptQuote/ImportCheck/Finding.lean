import ScriptQuote.ImportCheck.Statement

/-!
# Banned imports

Modules that quote for other shells must not be imported.  A finding tells of one such
module in one import statement, with the line of the statement.

Findings come breadth first: those of outer statements before those of inner ones.
`findings_eq_nil_iff` says when there are none.

What a check makes of a tree has nothing to do with how the tree is read, so `checkWith`
takes the parser.  `python` is the one that checks are run with.
-/

namespace ScriptQuote.ImportCheck

/-- The modules that must not be imported. -/
def bannedModules : List Text := ["shlex", "pipes"]

/-- Must the module not be imported? -/
def isBanned (name : Text) : Bool := bannedModules.contains name

/-- What a statement imports. -/
inductive ImportForm
  /-- The module itself. -/
  | module
  /-- Something out of the module. -/
  | members
deriving DecidableEq

/-- A banned import. -/
structure Finding where
  /-- The line that the statement starts on. -/
  line : Nat
  form : ImportForm
  /-- The module. -/
  name : Text
deriving DecidableEq

namespace Finding

/-- What is said about a finding. -/
def description (f : Finding) : Text :=
  match f.form with
  | .module =>
    Text.ofString "import " ++ f.name ++ Text.ofString ": banned, POSIX quoting"
  | .members =>
    Text.ofString "from " ++ f.name ++ Text.ofString " import: banned, POSIX quoting"

end Finding

/-- The findings of a statement itself, without those of statements in it. -/
def Stmt.findings : Stmt → List Finding
  | .importNames line modules =>
    (modules.filter isBanned).map fun m => ⟨line, .module, m⟩
  | .importFrom line (some m) => if isBanned m then [⟨line, .members, m⟩] else []
  | .importFrom _ none => []
  | .simple _ => []
  | .compound _ _ _ _ _ => []

/-- The findings of a node itself. -/
def Node.findings : Node → List Finding
  | .statement s => s.findings
  | .clause _ => []

/-- The findings of statements and of all in them, breadth first. -/
def findings (statements : List Stmt) : List Finding :=
  (Node.walk (statements.map Node.statement)).flatMap Node.findings

theorem findings_eq_nil_iff {statements : List Stmt} :
    findings statements = [] ↔
      ∀ n ∈ Node.walk (statements.map Node.statement), n.findings = [] := by
  simp [findings]

/-- The findings of a source, which a parser reads. -/
def checkWith (parser : Parser) (source : List Char) :
    Except SourceFault (List Finding) :=
  (parser source).map findings

/-- May this be the name of a character?  Letters of either case may be in it,
digits, blanks and hyphens.  Which names of this form there are is not known
here. -/
def mayBeName (name : List Char) : Bool :=
  name.head?.any Char.isAlpha && name.all fun c =>
    c.isAlphanum || c == ' ' || c == '-'

/-- The parser that checks are run with. -/
def python : Parser := parse mayBeName

/-- The findings of a source. -/
def check (source : List Char) : Except SourceFault (List Finding) :=
  checkWith python source

end ScriptQuote.ImportCheck
