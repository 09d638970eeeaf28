import ScriptQuote.Config.Basic
import ScriptQuote.Text.Quoted
import ScriptQuote.Toml.Reader

/-!
# Configuration documents

A configuration file is a TOML document with at most two tables, one for the dialect
and one for settings.  Keys may be written with hyphens.  The first thing that is wrong
is told: unknown tables come before entries of the dialect, and these before settings,
each in the order of the document.
-/

namespace ScriptQuote.Config

/-- Why a document is no configuration. -/
inductive Fault
  | document (fault : Toml.Fault)
  | unknownTable (name : Text)
  /-- What stands under the name of a table is none. -/
  | notATable (name : Text)
  | unknownDialectKey (key : Text)
  | dialectValueNotText (key : Text)
  | notSingle (key value : Text)
  | notDigits (key value : Text)
  | badLogPath
  | logFullNotBoolean (key : Text)
  | unknownSetting (key : Text)
  | home (fault : Path.HomeFault)
deriving DecidableEq

/-- A key between quotes. -/
def keyShown (key : Text) : Text := Text.ofString "'" ++ key ++ Text.ofString "'"

/-- What is wrong, without the name of the document. -/
def Fault.complaint : Fault → Text
  | .document .malformed => "<TOML>"
  | .document (.numeralTooLong count) => Decimal.tooLongMessage count
  | .unknownTable name => Text.ofString "unknown table [" ++ name ++ Text.ofString "]"
  | .notATable name => keyShown name ++ Text.ofString " must be a table"
  | .unknownDialectKey key => Text.ofString "unknown dialect key " ++ keyShown key
  | .dialectValueNotText key => keyShown key ++ Text.ofString " must be a string"
  | .notSingle key value =>
    keyShown key ++ Text.ofString " must be a single character, got " ++ value.display
  | .notDigits key value =>
    keyShown key ++ Text.ofString " must contain only digits, got " ++ value.display
  | .badLogPath => "'log' requires a path"
  | .logFullNotBoolean key => keyShown key ++ Text.ofString " must be true or false"
  | .unknownSetting key => Text.ofString "unknown setting " ++ keyShown key
  | .home .unknown => "Could not determine home directory."
  | .home .embeddedNull => "embedded null byte"

/-- Is the name of the document told with the fault?  It is, but for those that
are found before the document is understood or outside it. -/
def Fault.namesSource : Fault → Bool
  | .document (.numeralTooLong _) => false
  | .notATable _ => false
  | .home .unknown => false
  | _ => true

/-- What is said about a fault in the document from a source. -/
def Fault.message (source : Text) (f : Fault) : Text :=
  if f.namesSource then source ++ Text.ofString ": " ++ f.complaint else f.complaint

/-- The table of the dialect. -/
def dialectTable : Text := "dialect"

/-- The table of settings. -/
def settingsTable : Text := "settings"

/-- A key with hyphens read as underscores. -/
def normalize (key : Text) : Text :=
  key.map fun c => if c == CodePoint.ofChar '-' then CodePoint.ofChar '_' else c

/-- Is the text the name of something that a dialect table may set? -/
def isDialectKey (name : Text) : Bool :=
  (Dialect.Field.ofName? name).isSome || name == extraTokenBreaks

/-- Must a value have exactly one code point under this name? -/
def isSingleKey (name : Text) : Bool :=
  match Dialect.Field.ofName? name with
  | some f => f.isSingle
  | none => false

/-- The override that an entry of the dialect table makes. -/
def override (key : Text) (value : Toml.Value) : Except Fault (Text × Text) :=
  let name := normalize key
  if isDialectKey name then
    match value with
    | .string t =>
      if isSingleKey name && t.length != 1 then .error (.notSingle key t)
      else if name == Dialect.Field.redirectDigits.name &&
          !t.all CodePoint.isAsciiDigit then
        .error (.notDigits key t)
      else .ok (name, t)
    | _ => .error (.dialectValueNotText key)
  else .error (.unknownDialectKey key)

/-- The overrides of a dialect table. -/
def overridesOf (table : Toml.Table) : Except Fault (Dictionary Text) :=
  table.foldlM (fun d entry => do
    let o ← override entry.1 entry.2
    return d.put o.1 o.2) []

/-- What a settings table can say. -/
structure Settings where
  log : Option Path
  logFull : Bool

/-- The settings after one more entry. -/
def setting (homes : Path.Homes) (s : Settings) (key : Text) (value : Toml.Value) :
    Except Fault Settings :=
  if normalize key = Text.ofString "log" then
    match value with
    | .string t =>
      if t.isEmpty then .error .badLogPath
      else
        match (Path.ofText t).expandHome homes with
        | .ok p => .ok { s with log := some p }
        | .error e => .error (.home e)
    | _ => .error .badLogPath
  else if normalize key = Text.ofString "log_full" then
    match value with
    | .boolean b => .ok { s with logFull := b }
    | _ => .error (.logFullNotBoolean key)
  else .error (.unknownSetting key)

/-- The settings of a settings table. -/
def settingsOf (homes : Path.Homes) (table : Toml.Table) : Except Fault Settings :=
  table.foldlM (fun s entry => setting homes s entry.1 entry.2) ⟨none, false⟩

/-- The entries under the name of a table; a missing table has none. -/
def tableNamed (name : Text) (document : Toml.Table) : Except Fault Toml.Table :=
  match Dictionary.get? name document with
  | none => .ok []
  | some (.table entries) => .ok entries
  | some _ => .error (.notATable name)

/-- The configuration that the top-level table of a document makes. -/
def ofTable (homes : Path.Homes) (document : Toml.Table) : Except Fault Config := do
  match document.find? fun entry =>
      !(entry.1 == dialectTable || entry.1 == settingsTable) with
  | some entry => throw (.unknownTable entry.1)
  | none =>
    let overrides ← overridesOf (← tableNamed dialectTable document)
    let settings ← settingsOf homes (← tableNamed settingsTable document)
    return ⟨overrides, settings.log, settings.logFull, []⟩

/-- The configuration that a document makes. -/
def ofDocument (homes : Path.Homes) (document : List Char) : Except Fault Config :=
  match Toml.read document with
  | .ok table => ofTable homes table
  | .error e => .error (.document e)

end ScriptQuote.Config
