import ScriptQuote.Json.Reader
import ScriptQuote.World

/-!
# The command

The command takes one request from its input and answers with one line of JSON.  It
loads the configuration for the current directory and sets the recorder up before it
looks at the input.

What goes wrong is told in the answer, as far as the command knows the fault; the
others it hands on (`isReportedLoad`, `setupMessage`).
-/

namespace ScriptQuote.Command

/-- What the command answers. -/
inductive Reply
  | result (fragment : Text)
  | error (message : Text)
deriving DecidableEq

/-- The exit code that goes with an answer. -/
def Reply.exitCode : Reply → Nat
  | .result _ => 0
  | .error _ => 1

/-- The line that is printed. -/
def Reply.output (r : Reply) : Text :=
  let member : Text × Json.Value :=
    match r with
    | .result t => ("result", .string t)
    | .error t => ("error", .string t)
  (Json.Value.object [member]).write ++ Text.ofString "\n"

/-- Does the command answer with a fault of the configuration?  A table that is
none and a home directory that is not found are handed on. -/
def isReportedLoad : Config.LoadFault → Bool
  | .encoding _ => true
  | .document _ (.notATable _) => false
  | .document _ (.home .unknown) => false
  | .document _ _ => true
  | .home .unknown => false
  | .home .embeddedNull => true

/-- What is answered when setting up fails, if the fault is one to answer. -/
def setupMessage : Failure → Option Text
  | .load f => if isReportedLoad f then some f.message else none
  | .file f => some f.message
  | _ => none

/-- Loads the configuration, sets the recorder up, and gives the dialect. -/
def setUp : Action Dialect := do
  let w ← get
  let c ← World.load w.surroundings.cwd
  World.configure c
  World.dialect c

/-- Reads the request and answers it. -/
def respond (d : Dialect) (input : List Char) : Action Reply := do
  match Json.read input with
  | .error (.malformed defect left) =>
    return .error (Text.ofString "invalid JSON: " ++
      (Json.Fault.malformed defect left).message input)
  | .error (.numeralTooLong count) => throw (.numeralTooLong count)
  | .ok request =>
    match Request.answer d request with
    | .error f => return .error f.message
    | .ok a =>
      World.record a.entry
      return .result a.fragment

/-- Runs the command on its input, the line ends of which are made one kind first. -/
def run (input : List Char) : Action Reply := do
  let prepared : Except Failure Dialect ← ExceptT.lift setUp.run
  match prepared with
  | .ok d => respond d (Utf8.unifyLineEnds input)
  | .error f =>
    match setupMessage f with
    | some m => return .error (Text.ofString "config: " ++ m)
    | none => throw f

end ScriptQuote.Command
