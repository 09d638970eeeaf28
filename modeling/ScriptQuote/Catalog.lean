import ScriptQuote.Request

/-!
# What is on offer

The names by which the library is used from outside, and its version.
-/

namespace ScriptQuote.Catalog

/-- The version. -/
def version : Text := "0.1.0"

/-- The names of what can be used, in order. -/
def names : List Text :=
  ["Dialect", "POWERSHELL", "__version__", "bareword_violation",
    "escape_block_comment", "escape_double_quoted", "escape_format_string",
    "escape_single_quoted", "escape_variable_name", "escape_wildcards",
    "quote_argument", "quote_member_name", "requires_quoting"]

/-- The names of the operations that a request can ask for, in order. -/
def operations : List Text :=
  (Request.Operation.all.map Request.Operation.name).mergeSort Text.le

end ScriptQuote.Catalog
