import ScriptQuote.Toml.Nesting
import ScriptQuote.Toml.Scalar

/-!
# Reading TOML

A document is a sequence of statements, one a line: headings, and keys with values.  A
carriage return before a line end is dropped beforehand and stands nowhere else.
-/

namespace ScriptQuote.Toml

/-- An inline table as far as it is read, with the names of its finished values. -/
structure InlineDraft where
  table : Table
  finished : List (List Text)

namespace InlineDraft

/-- The inline table after a key and its value. -/
def assign (d : InlineDraft) (key : List Text) (v : Value) :
    Except Fault InlineDraft := do
  if d.finished.any (·.isPrefixOf key) then throw .malformed
  match key.getLast? with
  | none => throw .malformed
  | some k =>
    let table ← d.table.modifyAt false key.dropLast (Table.addEntry k v)
    let finished := match v with
      | .table _ | .array _ => key :: d.finished
      | _ => d.finished
    return ⟨table, finished⟩

end InlineDraft

mutual

/-- Reads a value. -/
def readValue (s : List Char) : Except Fault (Taken Value s) :=
  match s with
  | 't' :: 'r' :: 'u' :: 'e' :: _ => .ok (Taken.first (.boolean true)).cons.cons.cons
  | 'f' :: 'a' :: 'l' :: 's' :: 'e' :: _ =>
    .ok (Taken.first (.boolean false)).cons.cons.cons.cons
  | '[' :: rest => do
    let r ← skipFiller rest
    let t ← readItems r.1
    return (Taken.within r (t.map .array)).cons
  | '\x7b' :: rest =>
    match (skipBlank rest).take? '\x7d' with
    | some close => .ok (close.map fun _ => .table []).cons
    | none => do
      let t ← readInlineEntries ⟨[], []⟩ (skipBlank rest).1
      return (Taken.within (skipBlank rest) (t.map .table)).cons
  | s =>
    match readString? s with
    | some r => r.map fun t => t.map .string
    | none => readScalar s
termination_by (s.length, 0)
decreasing_by
  · apply Prod.Lex.left
    have := r.2
    simp only [List.length_cons]
    omega
  · apply Prod.Lex.left
    have := (skipBlank rest).2
    simp only [List.length_cons]
    omega

/-- Reads the items of an array and its closing bracket; a comma may stand
behind the last. -/
def readItems (s : List Char) : Except Fault (Taken (List Value) s) :=
  match s with
  | ']' :: _ => .ok (.first [])
  | s => do
    let v ← readValue s
    let behind ← skipFiller v.rest
    match behind.take? ',' with
    | some comma =>
      let r ← skipFiller comma.rest
      let more ← readItems r.1
      return (v.andThen (comma.andThen (.within r more))).map (v.value :: ·)
    | none =>
      match behind.take? ']' with
      | some close => return (v.andThen close).map fun _ => [v.value]
      | none => throw .malformed
termination_by (s.length, 1)
decreasing_by
  · exact Prod.Lex.right _ Nat.zero_lt_one
  · apply Prod.Lex.left
    have := v.rest_lt
    have := comma.rest_lt
    have := r.2
    omega

/-- Reads the entries of an inline table that has some, and its closing brace. -/
def readInlineEntries (d : InlineDraft) (s : List Char) :
    Except Fault (Taken Table s) := do
  let k ← readKey s
  match (Left.whole k.rest).take? '=' with
  | some sign =>
    let v ← readValue (skipBlank sign.rest).1
    let entry := k.andThen (sign.andThen (.within (skipBlank sign.rest) v))
    let d ← d.assign k.value v.value
    match (skipBlank entry.rest).take? '\x7d' with
    | some close => return (entry.andThen close).map fun _ => d.table
    | none =>
      match (skipBlank entry.rest).take? ',' with
      | some comma =>
        let more ← readInlineEntries d (skipBlank comma.rest).1
        return entry.andThen (comma.andThen (.within (skipBlank comma.rest) more))
      | none => throw .malformed
  | none => throw .malformed
termination_by (s.length, 0)
decreasing_by
  · apply Prod.Lex.left
    have := k.rest_lt
    have := sign.rest_lt
    have := (skipBlank sign.rest).2
    omega
  · apply Prod.Lex.left
    have := entry.rest_lt
    have := comma.rest_lt
    have := (skipBlank comma.rest).2
    omega

end

/-- Reads a key with its value and enters it. -/
def readAssignment (d : Draft) (s : List Char) : Except Fault (Taken Draft s) := do
  let k ← readKey s
  match (Left.whole k.rest).take? '=' with
  | some sign =>
    let v ← readValue (skipBlank sign.rest).1
    let d ← d.assign k.value v.value
    return (k.andThen (sign.andThen (.within (skipBlank sign.rest) v))).map fun _ => d
  | none => throw .malformed

/-- Reads the brackets behind the key of a heading: two, if it is one of an array. -/
def readHeadingEnd (isArray : Bool) (s : List Char) : Except Fault (Taken Unit s) :=
  match (Left.whole s).take? ']' with
  | none => .error .malformed
  | some first =>
    if isArray then
      match (Left.whole first.rest).take? ']' with
      | none => .error .malformed
      | some second => .ok (first.andThen second)
    else .ok first

/-- Reads a heading from behind its brackets and enters it. -/
def readHeading (isArray : Bool) (d : Draft) (s : List Char) :
    Except Fault (Taken Draft s) := do
  let k ← readKey (skipBlank s).1
  let d ← if isArray then d.openArrayTable k.value else d.openTable k.value
  let close ← readHeadingEnd isArray k.rest
  return (Taken.within (skipBlank s) (k.andThen close)).map fun _ => d

/-- Reads one statement, if the line has one. -/
def readStatement (d : Draft) (s : List Char) : Except Fault (Draft × Left s) :=
  match s with
  | '[' :: '[' :: rest =>
    (readHeading true d rest).map fun t => (t.value, t.left.cons.cons)
  | '[' :: rest => (readHeading false d rest).map fun t => (t.value, t.left.cons)
  | c :: rest =>
    if isBare c || c == '\x22' || c == '\x27' then
      (readAssignment d (c :: rest)).map fun t => (t.value, t.left)
    else if c == '#' || c == '\n' then .ok (d, .whole (c :: rest))
    else .error .malformed
  | [] => .ok (d, .whole [])

/-- Reads statements up to the end of the document. -/
def readStatements (d : Draft) (s : List Char) : Except Fault Table := do
  let r ← readStatement d (skipBlank s).1
  let tail ← skipComment (skipBlank r.2.1).1
  match tail.take? '\n' with
  | some lineEnd => readStatements r.1 lineEnd.rest
  | none => if tail.1.isEmpty then return r.1.root else throw .malformed
termination_by s.length
decreasing_by
  have := (skipBlank s).2
  have := r.2.2
  have := (skipBlank r.2.1).2
  have := lineEnd.rest_lt
  omega

/-- Drops carriage returns that stand before a line end. -/
def dropCarriageReturns : List Char → List Char
  | [] => []
  | [c] => [c]
  | c :: c' :: rest =>
    if c == '\r' && c' == '\n' then dropCarriageReturns (c' :: rest)
    else c :: dropCarriageReturns (c' :: rest)

/-- The top-level table of a document. -/
def read (doc : List Char) : Except Fault Table :=
  readStatements .initial (dropCarriageReturns doc)

end ScriptQuote.Toml
