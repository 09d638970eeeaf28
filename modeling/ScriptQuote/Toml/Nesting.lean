import ScriptQuote.Toml.Value

/-!
# Nested tables

A key of several parts names an entry of nested tables, which come into being as they
are named.  A document must not say twice what a table is: `Openness` keeps which
tables are settled (they were given a heading, or were made by a dotted key under an
earlier heading) and which names stand for a finished value that nothing may be added
to.
-/

namespace ScriptQuote.Toml

namespace Table

/-- Applies a change to the table that a path leads to.  Missing tables on the
way are made; with `throughArrays`, a path goes on in the last table of an array
of tables. -/
def modifyAt (throughArrays : Bool) (path : List Text)
    (change : Table → Except Fault Table) (t : Table) : Except Fault Table :=
  match path with
  | [] => change t
  | k :: path =>
    match Dictionary.get? k t with
    | none => do
      let sub ← modifyAt throughArrays path change []
      return Dictionary.put t k (.table sub)
    | some (.table sub) => do
      let sub ← modifyAt throughArrays path change sub
      return Dictionary.put t k (.table sub)
    | some (.array items) =>
      match throughArrays, items.getLast? with
      | true, some (.table sub) => do
        let sub ← modifyAt throughArrays path change sub
        return Dictionary.put t k (.array (items.dropLast ++ [.table sub]))
      | _, _ => .error .malformed
    | some _ => .error .malformed

/-- Adds an entry that is not there yet. -/
def addEntry (k : Text) (v : Value) (t : Table) : Except Fault Table :=
  match Dictionary.get? k t with
  | none => .ok (Dictionary.put t k v)
  | some _ => .error .malformed

/-- Adds an empty table to the array of tables under a key. -/
def pushTable (k : Text) (t : Table) : Except Fault Table :=
  match Dictionary.get? k t with
  | none => .ok (Dictionary.put t k (.array [.table []]))
  | some (.array items) => .ok (Dictionary.put t k (.array (items ++ [.table []])))
  | some _ => .error .malformed

end Table

/-- What may no longer be added to. -/
structure Openness where
  /-- Tables that no further heading or dotted key may open. -/
  settled : List (List Text)
  /-- Names of finished values; nothing below them may be named again. -/
  finished : List (List Text)
  /-- Tables made by dotted keys, settled at the next heading. -/
  pending : List (List Text)

namespace Openness

/-- At the start everything is open. -/
def initial : Openness := ⟨[], [], []⟩

/-- Is the table settled? -/
def isSettled (o : Openness) (path : List Text) : Bool := o.settled.contains path

/-- Is the path at or below a finished value? -/
def isFinished (o : Openness) (path : List Text) : Bool :=
  o.finished.any (·.isPrefixOf path)

/-- Settles a table. -/
def settle (o : Openness) (path : List Text) : Openness :=
  { o with settled := path :: o.settled }

/-- Marks a value as finished. -/
def finish (o : Openness) (path : List Text) : Openness :=
  { o with finished := path :: o.finished }

/-- A heading settles what dotted keys have made. -/
def settlePending (o : Openness) : Openness :=
  { o with settled := o.pending ++ o.settled, pending := [] }

/-- A new table of an array opens everything below its name again. -/
def reopen (o : Openness) (path : List Text) : Openness :=
  { o with
    settled := o.settled.filter fun p => !path.isPrefixOf p
    finished := o.finished.filter fun p => !path.isPrefixOf p }

end Openness

/-- A document as far as it is read. -/
structure Draft where
  /-- The tables so far. -/
  root : Table
  /-- The heading that keys stand under. -/
  heading : List Text
  /-- What is closed. -/
  openness : Openness

namespace Draft

/-- Before anything is read. -/
def initial : Draft := ⟨[], [], .initial⟩

/-- The document after the heading of a table. -/
def openTable (d : Draft) (key : List Text) : Except Fault Draft := do
  let o := d.openness.settlePending
  if o.isSettled key || o.isFinished key then throw .malformed
  let root ← d.root.modifyAt true key .ok
  return ⟨root, key, o.settle key⟩

/-- The document after the heading of another table in an array of tables. -/
def openArrayTable (d : Draft) (key : List Text) : Except Fault Draft := do
  let o := d.openness.settlePending
  if o.isFinished key then throw .malformed
  match key.getLast? with
  | none => throw .malformed
  | some k =>
    let root ← d.root.modifyAt true key.dropLast (Table.pushTable k)
    return ⟨root, key, (o.reopen key).settle key⟩

/-- The tables that a dotted key passes through under a heading. -/
def passed (heading key : List Text) : List (List Text) :=
  (List.range key.length).filterMap fun i =>
    if i = 0 then none else some (heading ++ key.take i)

/-- The document after a key and its value. -/
def assign (d : Draft) (key : List Text) (v : Value) : Except Fault Draft := do
  let tables := passed d.heading key
  if tables.any d.openness.isSettled then throw .malformed
  let parent := d.heading ++ key.dropLast
  if d.openness.isFinished parent then throw .malformed
  match key.getLast? with
  | none => throw .malformed
  | some k =>
    let root ← d.root.modifyAt true parent (Table.addEntry k v)
    let o := { d.openness with pending := tables ++ d.openness.pending }
    let o := match v with
      | .table _ | .array _ => o.finish (d.heading ++ key)
      | _ => o
    return { d with root := root, openness := o }

end Draft

end ScriptQuote.Toml
