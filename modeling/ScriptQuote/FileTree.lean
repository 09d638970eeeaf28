import ScriptQuote.Path
import ScriptQuote.Text.Quoted
import ScriptQuote.Text.Utf8

/-!
# Trees of files

A tree of directories and files as a value: what stands at each place, a place being the
names from the root down.  There are no links, so a place has one name.

Looking a path up goes from directory to directory, and so does making one; the faults
are told apart as the operations of a file system tell them.  Reading asks nothing more
of a tree than what stands where; the operations that change one keep what they do not
name.
-/

namespace ScriptQuote

/-- The names from the root down to a file or a directory. -/
abbrev Place := List Text

/-- What can stand at a place. -/
inductive Node
  | directory
  | file (content : List UInt8)
deriving DecidableEq

/-- What stands at each place; the root is a directory in every tree. -/
structure FileTree where
  nodes : List (Place × Node)

namespace FileTree

/-- Only the root. -/
def empty : FileTree := ⟨[]⟩

/-- What stands at a place. -/
def node? (t : FileTree) (place : Place) : Option Node :=
  if place.isEmpty then some .directory
  else (t.nodes.find? fun n => n.1 == place).map Prod.snd

/-- Is there a file at the place? -/
def isFile (t : FileTree) (place : Place) : Bool :=
  match t.node? place with
  | some (.file _) => true
  | _ => false

/-- Is there a directory at the place? -/
def isDirectory (t : FileTree) (place : Place) : Bool :=
  t.node? place == some .directory

/-- The bytes of the file at the place. -/
def content? (t : FileTree) (place : Place) : Option (List UInt8) :=
  match t.node? place with
  | some (.file content) => some content
  | _ => none

/-- Puts something at a place, over what stood there. -/
def set (t : FileTree) (place : Place) (n : Node) : FileTree :=
  if (t.node? place).isSome then
    ⟨t.nodes.map fun m => if m.1 == place then (place, n) else m⟩
  else ⟨t.nodes ++ [(place, n)]⟩

/-- Takes away what stands at a place and below it. -/
def remove (t : FileTree) (place : Place) : FileTree :=
  ⟨t.nodes.filter fun n => !place.isPrefixOf n.1⟩

/-- Adds bytes to the end of the file at a place. -/
def append (t : FileTree) (place : Place) (bytes : List UInt8) : FileTree :=
  match t.content? place with
  | some content => t.set place (.file (content ++ bytes))
  | none => t

/-- The files at or below a place, in the order of the tree. -/
def filesBelow (t : FileTree) (place : Place) : List (Place × List UInt8) :=
  t.nodes.filterMap fun n =>
    match n.2 with
    | .file content => if place.isPrefixOf n.1 then some (n.1, content) else none
    | .directory => none

/-! ## Finding places -/

/-- Why a path leads nowhere. -/
inductive LookupFault
  | missing
  | notDirectory
deriving DecidableEq

/-- Follows components from a place.  Every place on the way has to exist, and
all but the last to be a directory. -/
def walk (t : FileTree) (place : Place) : List Text → Except LookupFault Place
  | [] => .ok place
  | name :: rest =>
    match t.node? place with
    | none => .error .missing
    | some (.file _) => .error .notDirectory
    | some .directory =>
      if name.isEmpty || name == Path.dot then walk t place rest
      else if name == Path.dotDot then walk t place.dropLast rest
      else if (t.node? (place ++ [name])).isSome then walk t (place ++ [name]) rest
      else .error .missing

/-- The place from which a path is followed. -/
def start (cwd : Place) (p : Path) : Place := if p.isAbsolute then [] else cwd

/-- The place that a path names. -/
def locate (t : FileTree) (cwd : Place) (p : Path) : Except LookupFault Place :=
  t.walk (start cwd p) p.parts

/-- The place that a path names if a file stands there. -/
def locateFile? (t : FileTree) (cwd : Place) (p : Path) : Option Place :=
  match t.locate cwd p with
  | .ok place => if t.isFile place then some place else none
  | .error _ => none

/-- The place that a path comes to when double dots just undo the component
before them. -/
def resolve (cwd : Place) (p : Path) : Place :=
  p.parts.foldl (fun place name =>
    if name == Path.dotDot then place.dropLast else place ++ [name])
    (start cwd p)

/-- The absolute path of a place. -/
def pathOf (place : Place) : Path := ⟨.root, place⟩

/-! ## Changing trees by paths -/

/-- Why an operation on a file or directory fails; the path is the one it was
asked for. -/
inductive Fault
  | missing (path : Path)
  | alreadyExists (path : Path)
  | notDirectory (path : Path)
  | isDirectory (path : Path)
  | embeddedNull
deriving DecidableEq

/-- A fault as operating systems tell it: by number, in words, and with the path. -/
def numbered (number : Nat) (words : String) (p : Path) : Text :=
  Text.ofString "[Errno " ++ Decimal.digits number ++ Text.ofString "] " ++
    Text.ofString words ++ Text.ofString ": " ++ p.text.display

/-- What is said about a fault. -/
def Fault.message : Fault → Text
  | .missing p => numbered 2 "No such file or directory" p
  | .alreadyExists p => numbered 17 "File exists" p
  | .notDirectory p => numbered 20 "Not a directory" p
  | .isDirectory p => numbered 21 "Is a directory" p
  | .embeddedNull => "embedded null byte"

/-- Does a component hold a NUL?  No place has such a name. -/
def hasNull (p : Path) : Bool := p.parts.any fun part => part.contains '\x00'

/-- The fault of a path that leads nowhere. -/
def lookupFault (p : Path) : LookupFault → Fault
  | .missing => .missing p
  | .notDirectory => .notDirectory p

/-- The directory that the last component of a path is looked up in, and that
component. -/
def parentOf (t : FileTree) (cwd : Place) (p : Path) : Except Fault (Place × Text) :=
  match p.parts.getLast? with
  | none => .error (.alreadyExists p)
  | some name =>
    match t.walk (start cwd p) p.parts.dropLast with
    | .error e => .error (lookupFault p e)
    | .ok place =>
      match t.node? place with
      | some .directory => .ok (place, name)
      | some (.file _) => .error (.notDirectory p)
      | none => .error (.missing p)

/-- Makes one directory. -/
def makeDirectory (t : FileTree) (cwd : Place) (p : Path) : Except Fault FileTree :=
  if hasNull p then .error .embeddedNull
  else
    match t.parentOf cwd p with
    | .error e => .error e
    | .ok (place, name) =>
      if name == Path.dotDot || (t.node? (place ++ [name])).isSome then
        .error (.alreadyExists p)
      else .ok (t.set (place ++ [name]) .directory)

/-- Does the path lead to a directory? -/
def leadsToDirectory (t : FileTree) (cwd : Place) (p : Path) : Bool :=
  match t.locate cwd p with
  | .ok place => t.isDirectory place
  | .error _ => false

/-- Makes a directory unless there is one, its parent being there. -/
def ensureChild (t : FileTree) (cwd : Place) (p : Path) :
    FileTree × Except Fault Unit :=
  match t.makeDirectory cwd p with
  | .ok t => (t, .ok ())
  | .error .embeddedNull => (t, .error .embeddedNull)
  | .error e => if t.leadsToDirectory cwd p then (t, .ok ()) else (t, .error e)

/-- Makes a directory and all that are missing on the way to it.  What was made
before a fault stays. -/
def ensureDirectory (t : FileTree) (cwd : Place) (p : Path) :
    FileTree × Except Fault Unit :=
  match t.makeDirectory cwd p with
  | .ok t => (t, .ok ())
  | .error (.missing q) =>
    if p.parts.isEmpty then (t, .error (.missing q))
    else
      match ensureDirectory t cwd p.parent with
      | (t, .ok ()) => t.ensureChild cwd p
      | (t, .error e) => (t, .error e)
  | .error _ => t.ensureChild cwd p
termination_by p.parts.length
decreasing_by
  rename_i h
  have := List.length_pos_iff.mpr (by simpa using h)
  simp only [Path.parent, List.length_dropLast]
  omega

/-- Opens a file for adding to its end; a file that is not there is made. -/
def openForAppend (t : FileTree) (cwd : Place) (p : Path) :
    Except Fault (FileTree × Place) :=
  if hasNull p then .error .embeddedNull
  else
    match p.parts with
    | [] => .error (.isDirectory p)
    | _ =>
      match t.parentOf cwd p with
      | .error e => .error e
      | .ok (place, name) =>
        if name == Path.dotDot then .error (.isDirectory p)
        else
          match t.node? (place ++ [name]) with
          | some .directory => .error (.isDirectory p)
          | some (.file _) => .ok (t, place ++ [name])
          | none => .ok (t.set (place ++ [name]) (.file []), place ++ [name])

/-- Writes a file anew; a file that is not there is made. -/
def writeFile (t : FileTree) (cwd : Place) (p : Path) (content : List UInt8) :
    Except Fault FileTree :=
  (t.openForAppend cwd p).map fun opened => opened.1.set opened.2 (.file content)

/-- The place that a path leads to. -/
def locateOrFail (t : FileTree) (cwd : Place) (p : Path) : Except Fault Place :=
  if hasNull p then .error .embeddedNull
  else
    match t.locate cwd p with
    | .ok place => .ok place
    | .error e => .error (lookupFault p e)

end FileTree

end ScriptQuote
