import ScriptQuote.Text.Basic

/-!
# Paths

A path is read off a text by dropping what says nothing: empty components and single
dots.  Double dots stay, since what they mean depends on the tree.  A path that starts
with exactly two slashes is kept apart from one that starts with one.
-/

namespace ScriptQuote

/-- Where a path starts. -/
inductive Path.Anchor
  | relative
  | root
  | doubleRoot
deriving DecidableEq

/-- A path with nothing in it that says nothing. -/
structure Path where
  /-- Where it starts. -/
  anchor : Path.Anchor
  /-- Its components. -/
  parts : List Text
deriving DecidableEq

namespace Path

/-- Parts the components of a path. -/
def slash : CodePoint := '/'

/-- Stands for a home directory at the start of a component. -/
def tilde : CodePoint := '~'

/-- The component that stays where it is. -/
def dot : Text := ['.']

/-- The component that goes up. -/
def dotDot : Text := ['.', '.']

/-- The anchor that a text starts with. -/
def anchorOf (t : Text) : Anchor :=
  match (t.takeWhile (· == slash)).length with
  | 0 => .relative
  | 2 => .doubleRoot
  | _ => .root

/-- The path that a text names. -/
def ofText (t : Text) : Path where
  anchor := anchorOf t
  parts := (Text.split slash t).filter fun part => !(part.isEmpty || part == dot)

/-- The slashes of an anchor. -/
def Anchor.text : Anchor → Text
  | .relative => []
  | .root => [slash]
  | .doubleRoot => [slash, slash]

/-- The text of a path. -/
def text (p : Path) : Text :=
  if p.anchor = .relative ∧ p.parts = [] then dot
  else p.anchor.text ++ Text.join [slash] p.parts

/-- The path without its last component; a path with none is its own parent. -/
def parent (p : Path) : Path := { p with parts := p.parts.dropLast }

/-- The path with a component added. -/
def child (p : Path) (name : Text) : Path := { p with parts := p.parts ++ [name] }

/-- Is the path counted from the root? -/
def isAbsolute (p : Path) : Bool := p.anchor != .relative

/-! ## Home directories -/

/-- Who lives where. -/
structure Homes where
  /-- The home directory of the user. -/
  own : Text
  /-- The home directories of users by name. -/
  others : List (Text × Text)

/-- Why a home directory is not found. -/
inductive HomeFault
  /-- There is no such user. -/
  | unknown
  /-- The name of the user holds a NUL. -/
  | embeddedNull
deriving DecidableEq

/-- The home directories in a table of accounts: a line for each, with fields
parted by colons, the first of which is the name and the sixth the home
directory. -/
def Homes.ofAccounts (table : Text) : List (Text × Text) :=
  (Text.split '\n' table).filterMap fun line =>
    match Text.split ':' line with
    | name :: _ :: _ :: _ :: _ :: home :: _ => some (name, home)
    | _ => none

/-- The home directory that a name stands for; the empty name is the user. -/
def Homes.find (homes : Homes) (name : Text) : Except HomeFault Text :=
  if name.isEmpty then .ok homes.own
  else if name.contains '\x00' then .error .embeddedNull
  else
    match homes.others.find? fun h => h.1 == name with
    | some h => .ok h.2
    | none => .error .unknown

/-- A directory's name without the slashes at its end; all slashes name the root. -/
def trimmedDirectory (t : Text) : Text :=
  let kept := (t.reverse.dropWhile (· == slash)).reverse
  if kept.isEmpty then [slash] else kept

/-- Replaces a first component that starts with a tilde by the home directory it
stands for. -/
def expandHome (homes : Homes) (p : Path) : Except HomeFault Path :=
  match p.anchor, p.parts with
  | .relative, (c :: name) :: rest =>
    if c == tilde then do
      let home ← homes.find name
      let base := ofText (trimmedDirectory home)
      if home.head? == some tilde then throw .unknown
      return { base with parts := base.parts ++ rest }
    else .ok p
  | _, _ => .ok p

end Path

end ScriptQuote
