import ScriptQuote.Config.Basic
import ScriptQuote.FileTree
import ScriptQuote.Record.Entry

/-!
# The recorder

At any time there is at most one log file open, and entries go to it.  Setting the
recorder up anew closes that file before anything else is tried, so after a failure
there is no log.
-/

namespace ScriptQuote

namespace Record

/-- An open log file.  It stays open, and takes entries that nobody will read,
when it is removed from the tree. -/
structure Handle where
  place : Place
  isLinked : Bool
deriving DecidableEq

end Record

/-- The state of logging. -/
structure Recorder where
  /-- The log file that is open. -/
  file : Option Record.Handle
  /-- Where entries go. -/
  logger : Option Record.Handle
  /-- Are values logged too? -/
  full : Bool
deriving DecidableEq

namespace Recorder

open Record

/-- Nothing is open. -/
def off : Recorder := ⟨none, none, false⟩

/-- Closes the log file and forgets where entries go. -/
def close (_ : Recorder) : Recorder := off

/-- Goes over to a log file that was just opened. -/
def attach (place : Place) (full : Bool) : Recorder :=
  ⟨some ⟨place, true⟩, some ⟨place, true⟩, full⟩

/-- Sets the recorder up as a configuration says.  The directory of the log file
is made if it is missing, and stays even if the file cannot be opened. -/
def configure (r : Recorder) (t : FileTree) (cwd : Place) (c : Config) :
    Recorder × FileTree × Except FileTree.Fault Unit :=
  match c.log with
  | none => (r.close, t, .ok ())
  | some path =>
    match t.ensureDirectory cwd path.parent with
    | (t, .error e) => (r.close, t, .error e)
    | (t, .ok ()) =>
      match t.openForAppend cwd path with
      | .error e => (r.close, t, .error e)
      | .ok (t, place) => (attach place c.logFull, t, .ok ())

/-- The bytes of an entry's line; all of it is ASCII. -/
def bytes (line : Text) : List UInt8 := line.map fun c => c.val.toUInt8

/-- Writes an entry to the log, if there is one. -/
def record (r : Recorder) (t : FileTree) (time : Text) (e : Entry) : FileTree :=
  match r.logger with
  | none => t
  | some h =>
    if h.isLinked then t.append h.place (bytes ((e.shown r.full).line time))
    else t

/-- What becomes of a log file when a place is removed from the tree. -/
def unlinkHandle (removed : Place) (h : Handle) : Handle :=
  { h with isLinked := h.isLinked && !removed.isPrefixOf h.place }

/-- What becomes of the recorder when a place is removed from the tree. -/
def unlink (r : Recorder) (removed : Place) : Recorder :=
  { r with
    file := r.file.map (unlinkHandle removed)
    logger := r.logger.map (unlinkHandle removed) }

end Recorder

end ScriptQuote
