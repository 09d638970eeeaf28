import ScriptQuote.Command
import ScriptQuote.ImportCheck.Verdict
import ScriptQuote.Record.Instant
import ScriptQuote.Report
import Std.Time.DateTime.Timestamp

/-!
# The program

Three programs in one: without arguments the command, which answers a request on its
input; with a first argument the report on a value or the check for banned imports.

What they do is said by `Command.run`, `Report.run` and `ImportCheck.verdict` on trees
of files.  Here those parts of the file system that they look at are read into a tree,
and what they changed in it is written back.
-/

namespace ScriptQuote

/-- The place of the current directory. -/
def currentPlace : IO Place := do
  return (Path.ofText (Text.ofString (← IO.currentDir).toString)).parts

/-- The name under which the file system knows a place. -/
def placeName (place : Place) : String :=
  ((FileTree.pathOf place).text.toString?).getD ""

/-- What the file system has at a place. -/
def nodeAt (place : Place) : IO (Option Node) := do
  let path := (← IO.currentDir) / placeName place
  if ← path.isDir then return some .directory
  if ← path.pathExists then return some (.file (← IO.FS.readBinFile path).toList)
  return none

/-- Reads what is on the way to a place into a tree. -/
def readWay (tree : FileTree) (place : Place) : IO FileTree :=
  (List.range place.length).foldlM (fun tree count => do
    let way := place.take (count + 1)
    if (tree.node? way).isSome then return tree
    match ← nodeAt way with
    | some n => return tree.set way n
    | none => return tree) tree

/-- Reads what is on the way that a path goes into a tree. -/
def readPath (tree : FileTree) (cwd : Place) (path : Path) : IO FileTree :=
  (List.range (path.parts.length + 1)).foldlM
    (fun tree count =>
      readWay tree (FileTree.resolve cwd { path with
        parts := path.parts.take count })) tree

/-- Reads what is below a place into a tree. -/
partial def readBelow (tree : FileTree) (place : Place) : IO FileTree := do
  let entries ← ((← IO.currentDir) / placeName place).readDir
  entries.foldlM (fun tree entry => do
    let below := place ++ [Text.ofString entry.fileName]
    match ← nodeAt below with
    | some .directory => readBelow (tree.set below .directory) below
    | some n => return tree.set below n
    | none => return tree) tree

/-- Writes bytes to the end of a file, which is made if it is missing. -/
def addTo (place : Place) (bytes : List UInt8) : IO Unit := do
  let file ← IO.FS.Handle.mk ((← IO.currentDir) / placeName place) .append
  file.write ⟨bytes.toArray⟩

/-- Writes to the file system what a tree has at a place and another one had not. -/
def writeNode (before : FileTree) (place : Place) (n : Node) : IO Unit := do
  match before.node? place, n with
  | none, .directory => IO.FS.createDir ((← IO.currentDir) / placeName place)
  | none, .file content => addTo place content
  | some (.file known), .file content =>
    if known.length < content.length then addTo place (content.drop known.length)
  | some _, _ => return ()

/-- Writes a text to the output. -/
def printText (t : Text) : IO Unit := do
  (← IO.getStdout).putStr ((t.toString?).getD "")

/-- The home directories. -/
def homes : IO Path.Homes := do
  let accounts ← try IO.FS.readFile "/etc/passwd" catch _ => pure ""
  let own := (← IO.getEnv "HOME").getD "/"
  return ⟨Text.ofString own, Path.Homes.ofAccounts (Text.ofString accounts)⟩

/-- The files that say how to configure the command. -/
def readConfiguration (s : Config.Surroundings) : IO FileTree := do
  let tree ← readPath .empty s.cwd (Config.userFile s.homes)
  let tree ← (List.range (s.cwd.length + 1)).foldlM
    (fun tree count =>
      readWay tree (s.cwd.take count ++ [Config.projectFileName])) tree
  match (Path.ofText (s.override.getD [])).expandHome s.homes with
  | .ok path => readPath tree s.cwd path
  | .error _ => return tree

/-- The current time. -/
def currentTime : IO Text := do
  let now ← Std.Time.Timestamp.now
  let instant : Record.Instant := ⟨now.toNanosecondsSinceUnixEpoch.val.toNat / 1000⟩
  return instant.text

/-- What is said when the command fails without an answer. -/
def failureMessage : Failure → Text
  | .load f => f.message
  | .override f => f.name
  | .file f => f.message
  | .request f => f.message
  | .numeralTooLong count => Decimal.tooLongMessage count

/-- Fails with a message. -/
def stop {α : Type} (message : Text) : IO α :=
  throw (IO.userError ((message.toString?).getD ""))

/-- Answers the request on the input. -/
def runCommand : IO UInt32 := do
  let cwd ← currentPlace
  let surroundings : Config.Surroundings :=
    ⟨cwd, ← homes, (← IO.getEnv "PSQUOTE_CONFIG").map Text.ofString⟩
  let tree ← readConfiguration surroundings
  let tree ← match (Config.load surroundings tree cwd).map Config.log with
    | .ok (some path) => readPath tree cwd path
    | _ => pure tree
  let input ← (← IO.getStdin).readBinToEnd
  match Utf8.decode input.toList with
  | .error f => stop f.message
  | .ok input =>
    let (r, world) :=
      (Command.run input).run.run ⟨tree, surroundings, .off, ← currentTime⟩
    world.tree.nodes.forM fun n => writeNode tree n.1 n.2
    match r with
    | .ok reply =>
      printText reply.output
      return reply.exitCode.toUInt32
    | .error f => stop (failureMessage f)

/-- Checks the sources at some paths. -/
def runCheck (args : List Text) : IO UInt32 := do
  let cwd ← currentPlace
  let paths := if args.isEmpty then ImportCheck.defaultPaths else args
  let tree ← paths.foldlM (fun tree path => do
    let tree ← readPath tree cwd (Path.ofText path)
    match ImportCheck.target? tree cwd path with
    | some place =>
      if tree.isDirectory place then readBelow tree place else return tree
    | none => return tree) (← readWay .empty cwd)
  match ImportCheck.verdict ImportCheck.python tree cwd args with
  | .ok v =>
    printText v.output
    return v.exitCode.toUInt32
  | .error (.isDirectory path) =>
    stop (FileTree.Fault.isDirectory (Path.ofText path)).message
  | .error (.notText f) => stop f.message

/-- Runs one of the three programs. -/
def runProgram (args : List String) : IO UInt32 := do
  match args with
  | "dump" :: rest =>
    let (exitCode, output) := Report.run (rest.map Text.ofString)
    printText output
    return exitCode.toUInt32
  | "check" :: rest => runCheck (rest.map Text.ofString)
  | _ => runCommand

end ScriptQuote

/-- Runs the program. -/
def main (args : List String) : IO UInt32 := ScriptQuote.runProgram args
