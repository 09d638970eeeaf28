import ScriptQuote.Config.Document
import ScriptQuote.FileTree

/-!
# Configuration scopes

A configuration comes from up to three files: the user's own, the nearest one of the
project, and the one that the environment names.  They are laid over each other in that
order.
-/

namespace ScriptQuote.Config

/-- Where a configuration file is looked for, the least scope first. -/
inductive Scope
  | user
  | project
  | environment
deriving DecidableEq

/-- The name of a scope. -/
def Scope.name : Scope → Text
  | user => "user"
  | project => "project"
  | environment => "env"

/-- What the surroundings of a program say. -/
structure Surroundings where
  /-- The current directory. -/
  cwd : Place
  /-- The home directories. -/
  homes : Path.Homes
  /-- The path of the configuration file that the environment names. -/
  override : Option Text

/-- Why configuration files cannot be used. -/
inductive LoadFault
  /-- A file is not text. -/
  | encoding (fault : Utf8.Fault)
  /-- The document of a source is no configuration. -/
  | document (source : Text) (fault : Fault)
  /-- The environment names a home directory that is not found. -/
  | home (fault : Path.HomeFault)
deriving DecidableEq

/-- What is said about a fault. -/
def LoadFault.message : LoadFault → Text
  | .encoding f => f.message
  | .document source f => f.message source
  | .home f => (Fault.home f).complaint

/-- The name of project files. -/
def projectFileName : Text := ".psquote.toml"

/-- The path of the user's file, under the home directory. -/
def userFile (homes : Path.Homes) : Path :=
  ((Path.ofText (Path.trimmedDirectory homes.own)).child ".psquote").child
    "config.toml"

/-- The nearest project file of a directory and those above it, the directory
being given by its names from the bottom up. -/
def nearestFrom (t : FileTree) : List Text → Option Place
  | [] => if t.isFile [projectFileName] then some [projectFileName] else none
  | name :: above =>
    let place := (name :: above).reverse ++ [projectFileName]
    if t.isFile place then some place else nearestFrom t above

/-- The project file that counts for a directory. -/
def projectFile? (t : FileTree) (directory : Place) : Option Place :=
  nearestFrom t directory.reverse

/-- Lays the configuration of a file over another one. -/
def loadFile (homes : Path.Homes) (t : FileTree) (scope : Scope) (path : Path)
    (place : Place) (base : Config) : Except LoadFault Config :=
  match Utf8.decode ((t.content? place).getD []) with
  | .error e => .error (.encoding e)
  | .ok chars =>
    match ofDocument homes (Utf8.unifyLineEnds chars) with
    | .error e => .error (.document path.text e)
    | .ok c => .ok (base.merge { c with sources := [⟨scope.name, path.text⟩] })

/-- Lays the configuration of a file over another one if there is a file at the path. -/
def loadPath (s : Surroundings) (t : FileTree) (scope : Scope) (path : Path)
    (base : Config) : Except LoadFault Config :=
  match t.locateFile? s.cwd path with
  | some place => loadFile s.homes t scope path place base
  | none => .ok base

/-- Lays the configuration of the project over another one. -/
def loadProject (s : Surroundings) (t : FileTree) (directory : Place)
    (base : Config) : Except LoadFault Config :=
  match projectFile? t directory with
  | some place => loadFile s.homes t .project (FileTree.pathOf place) place base
  | none => .ok base

/-- Lays the configuration that the environment names over another one. -/
def loadEnvironment (s : Surroundings) (t : FileTree) (base : Config) :
    Except LoadFault Config :=
  match s.override with
  | none => .ok base
  | some text =>
    if text.isEmpty then .ok base
    else
      match (Path.ofText text).expandHome s.homes with
      | .error e => .error (.home e)
      | .ok path => loadPath s t .environment path base

/-- The configuration that counts for a directory. -/
def load (s : Surroundings) (t : FileTree) (directory : Place) :
    Except LoadFault Config := do
  let c ← loadPath s t .user (userFile s.homes) .empty
  let c ← loadProject s t directory c
  loadEnvironment s t c

end ScriptQuote.Config
