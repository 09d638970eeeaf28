import ScriptQuote.FileTree
import ScriptQuote.ImportCheck.Finding

/-!
# The verdict on a tree of sources

A check is given paths of files and directories.  A file is checked whatever its name,
and a directory stands for everything below it that has the name of a source.

* `collect` finds what is to be checked.  The first path that leads nowhere ends the
  check.
* `verdict` reads the sources with a parser, in the order in which they were collected.
  The first one that is no Python ends the check, and what was found before is not told.
* `Verdict.output` tells the findings by path, line and description.
-/

namespace ScriptQuote.ImportCheck

/-- Something to check. -/
structure Candidate where
  /-- The path that it is told by. -/
  path : Text
  /-- Where it is. -/
  place : Place
deriving DecidableEq

/-- A finding with the path of its file. -/
structure Located where
  path : Text
  finding : Finding
deriving DecidableEq

namespace Located

/-- Order by path, then line, then description. -/
def le (a b : Located) : Bool :=
  if a.path ≠ b.path then a.path.le b.path
  else if a.finding.line ≠ b.finding.line then a.finding.line < b.finding.line
  else a.finding.description.le b.finding.description

/-- The line that tells a finding. -/
def shown (l : Located) : Text :=
  l.path ++ Text.ofString ":" ++ Decimal.digits l.finding.line ++
    Text.ofString ": " ++ l.finding.description

end Located

/-- What a check comes to. -/
inductive Verdict
  /-- A path leads nowhere. -/
  | notFound (path : Text)
  /-- No path leads to anything to check. -/
  | nothingToCheck (paths : List Text)
  /-- A source is no Python. -/
  | notPython (path : Text)
  /-- Every source was checked; the findings are in order. -/
  | checked (found : List Located)
deriving DecidableEq

namespace Verdict

/-- The exit code of a check: zero if everything was checked and nothing was found. -/
def exitCode : Verdict → Nat
  | .checked [] => 0
  | _ => 1

/-- The lines that tell a verdict.  What is wrong with a source that is no
Python is not told further. -/
def lines : Verdict → List Text
  | .notFound path => [Text.ofString "Not found: " ++ path]
  | .nothingToCheck paths =>
    [Text.ofString "No Python files found in: " ++
      Text.join (Text.ofString ", ") paths]
  | .notPython path =>
    [Text.ofString "Syntax error in " ++ path ++ Text.ofString ": <SYNTAX>"]
  | .checked found => found.map Located.shown

/-- What is printed. -/
def output (v : Verdict) : Text := v.lines.flatMap fun l => l ++ Text.ofString "\n"

end Verdict

/-- Why a check ends without a verdict. -/
inductive Obstacle
  /-- What has the name of a source is a directory. -/
  | isDirectory (path : Text)
  /-- A source is no text. -/
  | notText (fault : Utf8.Fault)
deriving DecidableEq

/-! ## What is to be checked -/

/-- The end of the name of a source. -/
def sourceSuffix : Text := ".py"

/-- Is the last of some names that of a source? -/
def hasSourceName (place : Place) : Bool :=
  match place.getLast? with
  | some name => sourceSuffix.isSuffixOf name
  | none => false

/-- What is below a directory and has the name of a source, by path. -/
def candidatesBelow (t : FileTree) (path : Path) (place : Place) : List Candidate :=
  let below := t.nodes.filterMap fun n =>
    if place.isPrefixOf n.1 && n.1 ≠ place && hasSourceName n.1 then
      some (⟨Path.text ⟨path.anchor, path.parts ++ n.1.drop place.length⟩, n.1⟩ :
        Candidate)
    else none
  below.mergeSort fun a b => a.path.le b.path

/-- The place that a path leads to.  The slashes at its end count: only a
directory may have them. -/
def target? (t : FileTree) (cwd : Place) (path : Text) : Option Place :=
  if path.isEmpty then none
  else
    match t.walk (FileTree.start cwd (Path.ofText path))
        (Text.split Path.slash path) with
    | .ok place => some place
    | .error _ => none

/-- What is to be checked for a path; nothing at all, if it leads nowhere. -/
def candidates? (t : FileTree) (cwd : Place) (path : Text) :
    Option (List Candidate) :=
  match target? t cwd path with
  | none => none
  | some place =>
    match t.node? place with
    | some (.file _) => some [⟨path, place⟩]
    | some .directory => some (candidatesBelow t (Path.ofText path) place)
    | none => none

/-- What is to be checked for some paths, or the first path that leads nowhere. -/
def collect (t : FileTree) (cwd : Place) (paths : List Text) :
    Except Text (List Candidate) :=
  (paths.mapM fun path =>
    match candidates? t cwd path with
    | some cs => Except.ok cs
    | none => .error path).map List.flatten

/-! ## Checking -/

/-- Why a check ends at a candidate. -/
inductive Stop
  | obstacle (o : Obstacle)
  | notPython (path : Text)

/-- The findings in a candidate. -/
def checkCandidate (parser : Parser) (t : FileTree) (c : Candidate) :
    Except Stop (List Located) :=
  match t.content? c.place with
  | none => .error (.obstacle (.isDirectory c.path))
  | some content =>
    match Utf8.decode content with
    | .error f => .error (.obstacle (.notText f))
    | .ok source =>
      match checkWith parser source with
      | .error _ => .error (.notPython c.path)
      | .ok found => .ok (found.map fun f => ⟨c.path, f⟩)

/-- The paths that are checked when none is given. -/
def defaultPaths : List Text := ["src"]

/-- The verdict on what is to be checked. -/
def verdictOn (parser : Parser) (t : FileTree) (cs : List Candidate) :
    Except Obstacle Verdict :=
  match cs.mapM (checkCandidate parser t) with
  | .ok found => .ok (.checked (found.flatten.mergeSort Located.le))
  | .error (.notPython path) => .ok (.notPython path)
  | .error (.obstacle o) => .error o

/-- The verdict on some paths. -/
def verdict (parser : Parser) (t : FileTree) (cwd : Place) (given : List Text) :
    Except Obstacle Verdict :=
  let paths := if given.isEmpty then defaultPaths else given
  match collect t cwd paths with
  | .error path => .ok (.notFound path)
  | .ok [] => .ok (.nothingToCheck paths)
  | .ok cs => verdictOn parser t cs

end ScriptQuote.ImportCheck
