import ScriptQuote.Argument.MemberName
import ScriptQuote.Context.BlockComment
import ScriptQuote.Context.BracedVariable
import ScriptQuote.Context.FormatString
import ScriptQuote.Json.Display
import ScriptQuote.Record.Entry

/-!
# Requests

A request is a JSON object that names an operation and the value to apply it to; only
the quoting of arguments looks at further members.  Answering one gives the fragment
and the record of what was done, and a request that is not well formed gives neither.

The faults are looked for in the order of `Fault`, and the first one found is told.
-/

namespace ScriptQuote.Request

/-- What can be asked for. -/
inductive Operation
  | escapeSingleQuoted
  | escapeBlockComment
  | escapeFormatString
  | escapeVariableName
  | escapeDoubleQuoted
  | quoteMemberName
  | quoteArgument
  | escapeWildcards
deriving DecidableEq

namespace Operation

/-- Every operation. -/
def all : List Operation :=
  [escapeSingleQuoted, escapeBlockComment, escapeFormatString, escapeVariableName,
    escapeDoubleQuoted, quoteMemberName, quoteArgument, escapeWildcards]

/-- The name by which an operation is asked for. -/
def name : Operation → Text
  | escapeSingleQuoted => "escape_single_quoted"
  | escapeBlockComment => "escape_block_comment"
  | escapeFormatString => "escape_format_string"
  | escapeVariableName => "escape_variable_name"
  | escapeDoubleQuoted => "escape_double_quoted"
  | quoteMemberName => "quote_member_name"
  | quoteArgument => "quote_argument"
  | escapeWildcards => "escape_wildcards"

/-- The operation of a given name. -/
def ofName? (name : Text) : Option Operation := all.find? fun op => op.name == name

/-- The fragment for a value, quotes being left to the operation and arguments not being
literal. -/
def apply (d : Dialect) (v : Text) : Operation → Text
  | escapeSingleQuoted => SingleQuoted.escape d v
  | escapeBlockComment => BlockComment.escape d v
  | escapeFormatString => FormatString.escape v
  | escapeVariableName => BracedVariable.escape d v
  | escapeDoubleQuoted => DoubleQuoted.escape d v
  | quoteMemberName => MemberName.quote d v
  | quoteArgument => Argument.quote d v none false
  | escapeWildcards => Wildcard.escape d.escape v

end Operation

/-- Why a request is refused, in the order in which the faults are looked for. -/
inductive Fault
  | notAnObject
  | unknownOperation (asked : Json.Value)
  | valueNotText
  | badQuote
  | badLiteral

/-- What is said about a fault.  If what was asked for cannot be shown, that is
said instead. -/
def Fault.message : Fault → Text
  | notAnObject => "request must be a JSON object"
  | unknownOperation asked =>
    if asked.isShowable then Text.ofString "unknown op " ++ asked.display
    else Decimal.tooLongToShowMessage
  | valueNotText => "'value' must be a string"
  | badQuote => "'quote' must be null or a single character"
  | badLiteral => "'literal' must be true or false"

/-- What a request comes to. -/
structure Answer where
  fragment : Text
  entry : Record.Entry

/-- The operation that is asked for. -/
def operation? (asked : Option Json.Value) : Except Fault Operation :=
  match asked with
  | some (.string name) =>
    match Operation.ofName? name with
    | some op => .ok op
    | none => .error (.unknownOperation (.string name))
  | some v => .error (.unknownOperation v)
  | none => .error (.unknownOperation .null)

/-- The text to work on. -/
def value? (v : Option Json.Value) : Except Fault Text :=
  match v with
  | some (.string t) => .ok t
  | _ => .error .valueNotText

/-- The quote asked for: at most one code point, none if the member is missing
or null. -/
def quote? (v : Option Json.Value) : Except Fault (Option Text) :=
  match v with
  | none => .ok none
  | some .null => .ok none
  | some (.string t) => if t.length ≤ 1 then .ok (some t) else .error .badQuote
  | some _ => .error .badQuote

/-- Whether the argument is literal; not, if the member is missing. -/
def literal? (v : Option Json.Value) : Except Fault Bool :=
  match v with
  | none => .ok false
  | some (.bool b) => .ok b
  | some _ => .error .badLiteral

/-- The rule that is recorded with a quoted argument: the one that the decision
was made by, and none if the quote was asked for. -/
def recordedViolation (d : Dialect) (v : Text) (q : Option Text)
    (literal : Bool) : Option Text :=
  if Argument.isAuto q then
    (Bareword.violation d (Argument.pattern d literal v)).map Bareword.Rule.name
  else none

/-- Answers a request. -/
def answer (d : Dialect) (request : Json.Value) : Except Fault Answer :=
  match request with
  | .object members => do
    let member (name : String) := Dictionary.get? (Text.ofString name) members
    let op ← operation? (member "op")
    let v ← value? (member "value")
    if op = .quoteArgument then
      let q ← quote? (member "quote")
      let literal ← literal? (member "literal")
      let fragment := Argument.quote d v q literal
      return ⟨fragment, op.name, fragment.length,
        recordedViolation d v q literal, some v⟩
    else
      let fragment := op.apply d v
      return ⟨fragment, op.name, fragment.length, none, some v⟩
  | _ => .error .notAnObject

end ScriptQuote.Request
