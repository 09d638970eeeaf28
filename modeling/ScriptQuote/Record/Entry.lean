import ScriptQuote.Json.Writer

/-!
# Log entries

One entry tells of one operation.  It is a JSON object on a line of its own.
-/

namespace ScriptQuote.Record

/-- The record of one operation. -/
structure Entry where
  /-- The operation. -/
  op : Text
  /-- The length of its result. -/
  resultLength : Int
  /-- The rule that made it quote the value, if there was one. -/
  violation : Option Text
  /-- The value it was applied to, if the caller gives it away. -/
  value : Option Text
deriving DecidableEq

namespace Entry

/-- The entry as it is written, which is without the value unless values are logged. -/
def shown (full : Bool) (e : Entry) : Entry :=
  if full then e else { e with value := none }

/-- A member that is left out if there is nothing to say. -/
def member (name : String) (t : Option Text) : List (Text × Json.Value) :=
  match t with
  | some t => [(Text.ofString name, .string t)]
  | none => []

/-- The members of an entry without its time. -/
def members (e : Entry) : List (Text × Json.Value) :=
  [(Text.ofString "op", .string e.op),
    (Text.ofString "result_len", .int e.resultLength)] ++
    member "violation" e.violation ++ member "value" e.value ++
    [(Text.ofString "event", .string "operation")]

/-- The line of an entry, made at the given time. -/
def line (time : Text) (e : Entry) : Text :=
  (Json.Value.object (e.members ++
    [(Text.ofString "ts", .string time),
      (Text.ofString "level", .string "info")])).write ++
    Text.ofString "\n"

end Entry

end ScriptQuote.Record
