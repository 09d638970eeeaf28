import ScriptQuote.Command
import ScriptQuote.ImportCheck.Verdict

/-!
# Sessions

A session drives everything that has state, one step after the other, below one
directory.  Besides its world it keeps a configuration, which steps load or set.

A step that fails keeps what it changed in the world, and the session goes on.  What a
step adds to log files is read off the trees before and after it (`entriesAdded`).
-/

namespace ScriptQuote

/-- A world with a configuration, and the directory that paths are counted from. -/
structure Session where
  world : World
  config : Config
  root : Place

namespace Session

/-- What can be done next. -/
inductive Step
  /-- Writes a file and makes the directories on the way to it. -/
  | write (path : Text) (content : List UInt8)
  /-- Makes a directory and those on the way to it. -/
  | makeDirectory (path : Text)
  /-- Removes a file, or a directory with everything in it. -/
  | remove (path : Text)
  /-- Sets the path that the environment names. -/
  | setOverride (value : Option Text)
  /-- Finds the project file for a directory. -/
  | findProject (directory : Text)
  /-- Loads the configuration for a directory. -/
  | load (directory : Text)
  /-- Sets the recorder up, by the configuration of the session. -/
  | configure
  /-- Sets the recorder up, by settings that become the configuration of the session. -/
  | configureWith (log : Option Text) (logFull : Bool)
  /-- Records an operation. -/
  | record (entry : Record.Entry)
  /-- Answers a request in the dialect of the session. -/
  | request (request : Json.Value)
  /-- Runs the command in a directory. -/
  | command (directory : Text) (input : List Char)
  /-- Checks imports. -/
  | checkImports (paths : List Text)

/-- What a step comes to. -/
inductive Answer
  | done
  | projectFile (path : Option Path)
  | config (c : Config)
  | fragment (t : Text)
  | reply (r : Command.Reply)
  | verdict (v : ImportCheck.Verdict)

/-- Why a step fails. -/
inductive StepFailure
  | action (f : Failure)
  | check (o : ImportCheck.Obstacle)

/-- A step of a session, which may fail. -/
abbrev Stepping := ExceptT StepFailure (StateM Session)

/-- Fails with a fault of the tree. -/
def failFile {α : Type} (f : FileTree.Fault) : Stepping α := throw (.action (.file f))

/-- Carries out an action in the world of the session. -/
def act {α : Type} (a : Action α) : Stepping α := do
  let s ← get
  let (r, w) := a.run.run s.world
  set { s with world := w }
  match r with
  | .ok x => pure x
  | .error f => throw (.action f)

/-- Puts another tree into the world. -/
def setTree (t : FileTree) : Stepping Unit :=
  modify fun s => { s with world := { s.world with tree := t } }

/-- The place of a directory below the root of the session, double dots being undone. -/
def directoryPlace (path : Text) : Stepping Place := do
  let s ← get
  let p := Path.ofText path
  if FileTree.hasNull p then failFile .embeddedNull
  return FileTree.resolve s.root p

/-- Makes a directory and those on the way to it. -/
def ensureDirectory (p : Path) : Stepping Unit := do
  let s ← get
  let (t, r) := s.world.tree.ensureDirectory s.root p
  setTree t
  match r with
  | .ok () => pure ()
  | .error f => failFile f

/-- Writes a file and makes the directories on the way to it. -/
def write (p : Path) (content : List UInt8) : Stepping Unit := do
  ensureDirectory p.parent
  let s ← get
  match s.world.tree.writeFile s.root p content with
  | .ok t => setTree t
  | .error f => failFile f

/-- Removes what a path leads to, and tells the recorder. -/
def remove (p : Path) : Stepping Unit := do
  let s ← get
  match s.world.tree.locateOrFail s.root p with
  | .error f => failFile f
  | .ok place =>
    set { s with world :=
            { s.world with
              tree := s.world.tree.remove place
              recorder := s.world.recorder.unlink place } }

/-- Goes to a directory, which has to be there, and does something. -/
def inDirectory {α : Type} (p : Path) (a : Action α) : Stepping α := do
  let s ← get
  match s.world.tree.locateOrFail s.root p with
  | .error f => failFile f
  | .ok place =>
    if !s.world.tree.isDirectory place then failFile (.notDirectory p)
    let home := s.world.surroundings.cwd
    let go (cwd : Place) : Stepping Unit := modify fun s =>
      { s with world := { s.world with
        surroundings := { s.world.surroundings with cwd := cwd } } }
    go place
    let r : Except StepFailure α ← ExceptT.lift (act a).run
    go home
    match r with
    | .ok x => return x
    | .error f => throw f

/-- Takes a step. -/
def step : Step → Stepping Answer
  | .write path content => do
    write (Path.ofText path) content
    return .done
  | .makeDirectory path => do
    ensureDirectory (Path.ofText path)
    return .done
  | .remove path => do
    remove (Path.ofText path)
    return .done
  | .setOverride value => do
    if (value.getD []).contains '\x00' then failFile .embeddedNull
    modify fun s => { s with world :=
      { s.world with
        surroundings := { s.world.surroundings with override := value } } }
    return .done
  | .findProject directory => do
    let place ← directoryPlace directory
    let s ← get
    return .projectFile ((Config.projectFile? s.world.tree place).map FileTree.pathOf)
  | .load directory => do
    let c ← act (World.load (← directoryPlace directory))
    modify fun s => { s with config := c }
    return .config c
  | .configure => do
    act (World.configure (← get).config)
    return .done
  | .configureWith log logFull => do
    let c : Config := ⟨[], log.map Path.ofText, logFull, []⟩
    modify fun s => { s with config := c }
    act (World.configure c)
    return .done
  | .record entry => do
    act (World.record entry)
    return .done
  | .request request => do
    let c := (← get).config
    return .fragment (← act (do World.answer (← World.dialect c) request))
  | .command directory input =>
    .reply <$> inDirectory (Path.ofText directory) (Command.run input)
  | .checkImports paths => do
    let s ← get
    match ImportCheck.verdict ImportCheck.python s.world.tree s.root paths with
    | .ok v => return .verdict v
    | .error o => throw (.check o)

/-! ## What was logged -/

/-- The end of the name of a log file. -/
def logSuffix : Text := ".log"

/-- Is the last of some names that of a log file? -/
def hasLogName (place : Place) : Bool :=
  match place.getLast? with
  | some name => logSuffix.isSuffixOf name
  | none => false

/-- The entry that a line holds, without its time. -/
def entryOf? (line : List Char) : Option Json.Value :=
  match Json.read line with
  | .ok (.object members) =>
    some (.object (members.filter fun m => m.1 != Text.ofString "ts"))
  | .ok v => some v
  | .error _ => none

/-- The entries that some bytes hold. -/
def entries (content : List UInt8) : List Json.Value :=
  match Utf8.decode content with
  | .ok chars => (chars.splitOn '\n').filterMap entryOf?
  | .error _ => []

/-- The bytes that came to a file, unless it is as long as before or shorter. -/
def growth? (before : Option (List UInt8)) (now : List UInt8) : Option (List UInt8) :=
  match before with
  | none => some now
  | some old => if old.length < now.length then some (now.drop old.length) else none

/-- The log files below a place that are new or grew, with the entries that came
to each. -/
def entriesAdded (root : Place) (before after : FileTree) :
    List (Place × List Json.Value) :=
  (after.filesBelow root).filterMap fun f =>
    if hasLogName f.1 then
      (growth? (before.content? f.1) f.2).map fun new =>
        (f.1.drop root.length, entries new)
    else none

/-- What is told about a step. -/
structure Outcome where
  answer : Except StepFailure Answer
  /-- Do entries go to a log after it? -/
  isLogging : Bool
  /-- Are values logged after it? -/
  isLogFull : Bool
  /-- The entries that came to log files. -/
  logged : List (Place × List Json.Value)

/-- Takes a step and tells about it. -/
def outcome (s : Session) (next : Step) : Outcome × Session :=
  let (answer, s') := (step next).run.run s
  (⟨answer, s'.world.recorder.logger.isSome, s'.world.recorder.full,
    entriesAdded s.root s.world.tree s'.world.tree⟩, s')

/-- Takes steps one after the other. -/
def run (s : Session) : List Step → List Outcome
  | [] => []
  | next :: rest =>
    let (o, s') := s.outcome next
    o :: run s' rest

/-- A session below a directory in a tree: nothing is configured and nothing open. -/
def start (tree : FileTree) (root : Place) (homes : Path.Homes) (time : Text) :
    Session where
  world := ⟨tree, ⟨root, homes, none⟩, .off, time⟩
  config := .empty
  root := root

end Session

end ScriptQuote
