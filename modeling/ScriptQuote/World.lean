import ScriptQuote.Config.Scope
import ScriptQuote.Record.Recorder
import ScriptQuote.Request

/-!
# The world of a run

Everything that running a command reads or changes, as one value: the tree of files,
what the surroundings say, the recorder, and the time that entries are made at.

An `Action` is a step in such a world.  It keeps what it changed even if it fails.
-/

namespace ScriptQuote

/-- What commands read and change. -/
structure World where
  tree : FileTree
  surroundings : Config.Surroundings
  recorder : Recorder
  /-- The time that entries are made at. -/
  time : Text

/-- Why a command fails. -/
inductive Failure
  | load (fault : Config.LoadFault)
  | override (fault : Config.UnknownOverride)
  | file (fault : FileTree.Fault)
  | request (fault : Request.Fault)
  /-- A whole number in a JSON document has too many digits. -/
  | numeralTooLong (count : Nat)

/-- A step in a world, which may fail. -/
abbrev Action := ExceptT Failure (StateM World)

namespace World

/-- Turns a result into a step. -/
def lift {ε α : Type} (failure : ε → Failure) (r : Except ε α) : Action α :=
  match r with
  | .ok a => pure a
  | .error e => throw (failure e)

/-- The configuration that counts for a directory. -/
def load (directory : Place) : Action Config := do
  let w ← get
  lift .load (Config.load w.surroundings w.tree directory)

/-- Sets the recorder up as a configuration says. -/
def configure (c : Config) : Action Unit := do
  let w ← get
  let (recorder, tree, r) := w.recorder.configure w.tree w.surroundings.cwd c
  set { w with recorder := recorder, tree := tree }
  lift .file r

/-- Writes an entry to the log, if there is one. -/
def record (e : Record.Entry) : Action Unit :=
  modify fun w => { w with tree := w.recorder.record w.tree w.time e }

/-- The dialect of a configuration. -/
def dialect (c : Config) : Action Dialect := lift .override c.dialect

/-- Answers a request and records it. -/
def answer (d : Dialect) (request : Json.Value) : Action Text := do
  let a ← lift .request (Request.answer d request)
  record a.entry
  return a.fragment

end World

end ScriptQuote
