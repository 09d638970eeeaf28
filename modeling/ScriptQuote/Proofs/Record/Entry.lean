import ScriptQuote.Proofs.Json.Visible
import ScriptQuote.Proofs.Json.WholeNumber
import ScriptQuote.Record.Recorder

/-!
# What a log line tells

An entry becomes one line with a JSON object.  `Carries` says of an object that
it has the members of an entry, and `Tells` of bytes that they are one line from
which such an object is read.  `tells_line` is the result: the line that is
written for an entry tells it, with the value if values are logged and without
it if not.
-/

namespace ScriptQuote.Record

open CodePoint (ofChar)
open Json (joinHalves joinMember)

/-- A JSON value has the members of an entry, with their texts spelled in some
way, and a value only if values are logged. -/
structure Carries (full : Bool) (e : Entry) (spell : Text → Text)
    (v : Json.Value) : Prop where
  op : v.member? "op" = some (.string (spell e.op))
  resultLength : v.member? "result_len" = some (.int e.resultLength)
  violation : v.member? "violation" = e.violation.map fun t => .string (spell t)
  value : v.member? "value" =
    if full then e.value.map fun t => .string (spell t) else none

/-- The bytes are one line of visible characters with an object that carries the
entry.  What is read from the line carries it too, the halves of surrogate pairs
being joined by the reader; only a length with too many digits is not read. -/
def Tells (full : Bool) (e : Entry) (bytes : List UInt8) : Prop :=
  ∃ (v : Json.Value) (chars : List Char),
    v.write = chars.map ofChar ∧ bytes = Utf8.encode (chars ++ ['\n']) ∧
      (∀ c ∈ chars, 0x20 ≤ c.toNat ∧ c.toNat ≤ 0x7E) ∧ Carries full e id v ∧
        (Json.IsShort e.resultLength →
          ∃ v', Json.read (chars ++ ['\n']) = .ok v' ∧ Carries full e joinHalves v')

namespace Entry

variable {e : Entry} {time : Text}

/-- All members of the object that is written for an entry. -/
def written (e : Entry) (time : Text) : List (Text × Json.Value) :=
  e.members ++ [(Text.ofString "ts", .string time),
    (Text.ofString "level", .string "info")]

theorem readsBack_written (h : Json.IsShort e.resultLength) :
    ∀ m ∈ e.written time, Json.ReadsBack m.2 := by
  have hmember : ∀ name t, ∀ m ∈ member name t, Json.ReadsBack m.2 := by
    intro name t m hm
    cases t with
    | none => cases hm
    | some t =>
      rw [List.mem_singleton.mp hm]
      exact Json.readsBack_string t
  intro m hm
  simp only [written, members, List.mem_append, List.mem_cons, List.not_mem_nil,
    or_false] at hm
  rcases hm with ((((hm | hm) | hm) | hm) | hm) | hm | hm
  · exact hm ▸ Json.readsBack_string e.op
  · exact hm ▸ Json.readsBack_int h
  · exact hmember _ _ m hm
  · exact hmember _ _ m hm
  · exact hm ▸ Json.readsBack_string _
  · exact hm ▸ Json.readsBack_string time
  · exact hm ▸ Json.readsBack_string _

/-- No name comes twice among the members, so each is found. -/
theorem carries_written (e : Entry) (time : Text) :
    Carries true e id (.object (e.written time)) ∧
      Carries true e joinHalves
        (.object (Dictionary.ofPairs ((e.written time).map joinMember))) := by
  obtain ⟨op, resultLength, violation, value⟩ := e
  cases violation <;> cases value <;>
    exact ⟨⟨rfl, rfl, rfl, rfl⟩, ⟨rfl, rfl, rfl, rfl⟩⟩

theorem carries_of_shown {full : Bool} {spell : Text → Text} {v : Json.Value}
    (h : Carries true (e.shown full) spell v) : Carries full e spell v := by
  cases full with
  | true => exact h
  | false => exact ⟨h.op, h.resultLength, h.violation, h.value⟩

theorem isShort_shown {full : Bool} (h : Json.IsShort e.resultLength) :
    Json.IsShort (e.shown full).resultLength := by
  cases full <;> exact h

/-- The line of an entry tells it. -/
theorem tells_line (full : Bool) (e : Entry) (time : Text) :
    Tells full e (Recorder.bytes ((e.shown full).line time)) := by
  have hline : (e.shown full).line time =
      (Json.Value.object ((e.shown full).written time)).write ++
        Text.ofString "\n" := rfl
  obtain ⟨hgiven, hjoined⟩ := carries_written (e.shown full) time
  obtain ⟨chars, hchars, hvisible, hbytes⟩ :=
    (Json.Value.visible_write (.object ((e.shown full).written time))).exists_chars
  refine ⟨_, chars, hchars, ?_, hvisible, carries_of_shown hgiven, ?_⟩
  · rw [hline, Recorder.bytes, List.map_append, hbytes, Utf8.encode, Utf8.encode,
      List.flatMap_append]
    rfl
  · intro hshort
    obtain ⟨line, hwritten, hread⟩ :=
      Json.read_write_object ((e.shown full).written time)
      (readsBack_written (isShort_shown hshort))
    -- Both are the text of the line, and a text comes from one list of characters only.
    have hsame : chars ++ ['\n'] = line := by
      apply (List.map_inj_right fun a b h => CodePoint.ofChar_inj.mp h).mp
      rw [← hwritten, hchars, List.map_append]
      rfl
    rw [hsame]
    exact ⟨_, hread, carries_of_shown hjoined⟩

end Entry

end ScriptQuote.Record
