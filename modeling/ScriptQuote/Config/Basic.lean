import ScriptQuote.Dialect.Basic
import ScriptQuote.Dictionary
import ScriptQuote.Path

/-!
# Configurations

What configuration files say: entries of the dialect to change, where to log, and
whether values are logged.  Configurations are laid over each other, and each entry has
a rule of its own for which one counts.
-/

namespace ScriptQuote

/-- A file that contributed to a configuration. -/
structure Config.Source where
  /-- The scope that the file was found in. -/
  scope : Text
  /-- The path of the file. -/
  path : Text
deriving DecidableEq

/-- A configuration. -/
structure Config where
  /-- Entries of the dialect by name, in order of first mention. -/
  overrides : Dictionary Text
  /-- Where to log; nowhere, if there is no path. -/
  log : Option Path
  /-- Are values logged too? -/
  logFull : Bool
  /-- The files that contributed, in order. -/
  sources : List Config.Source
deriving DecidableEq

namespace Config

/-- Changes nothing and logs nothing. -/
def empty : Config := ⟨[], none, false, []⟩

/-- Lays one configuration over another: its overrides are put over the others,
its log path counts if it has one, values are logged if either says so, and its
sources come last. -/
def merge (base overlay : Config) : Config where
  overrides := base.overrides.overlay overlay.overrides
  log := overlay.log.or base.log
  logFull := overlay.logFull || base.logFull
  sources := base.sources ++ overlay.sources

/-- The name under which token breaks are added to those of the dialect. -/
def extraTokenBreaks : Text := "extra_token_breaks"

/-- An override that no entry of a dialect has the name of. -/
structure UnknownOverride where
  name : Text
deriving DecidableEq

/-- Applies one override. -/
def applyOverride (d : Dialect) (entry : Text × Text) :
    Except UnknownOverride Dialect :=
  if entry.1 = extraTokenBreaks then .ok d
  else
    match Dialect.Field.ofName? entry.1 with
    | some f => .ok (d.set f entry.2)
    | none => .error ⟨entry.1⟩

/-- The PowerShell dialect with every override applied, the additional token
breaks last. -/
def dialect (c : Config) : Except UnknownOverride Dialect := do
  let d ← c.overrides.foldlM applyOverride Dialect.powerShell
  let extra := (Dictionary.get? extraTokenBreaks c.overrides).getD []
  return { d with tokenBreaks := d.tokenBreaks ++ extra }

end Config

end ScriptQuote
