import ScriptQuote.Argument.Quoting

/-!
# Member names

The name of a member stands bare if it is an identifier and in single quotes if not.
-/

namespace ScriptQuote.MemberName

/-- Is the text an identifier? -/
def isPlain : Text → Bool
  | [] => false
  | c :: rest => Dialect.isIdentifierStart c && rest.all Dialect.isIdentifierFollow

/-- The fragment that names the member `v`; the empty text stays empty. -/
def quote (d : Dialect) (v : Text) : Text :=
  if v.isEmpty then [] else if isPlain v then v else SingleQuoted.enclose d v

/-- The member that a fragment names. -/
def unquote (d : Dialect) (t : Text) : Text :=
  match Argument.body? d.isSingleQuote t with
  | some b => SingleQuoted.unescape d b
  | none => t

end ScriptQuote.MemberName
