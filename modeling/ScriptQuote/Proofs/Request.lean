import ScriptQuote.Proofs.Argument.Decision
import ScriptQuote.Proofs.Fallible
import ScriptQuote.Proofs.Record.Logging
import ScriptQuote.Proofs.World

/-!
# Requests for quoting

A request for quoting is answered in one place and recorded in another, and the
record finds out on its own what was decided.  `AsksQuoting` is what a request
has to say to be accepted, and `answer_quoteArgument_iff` what it comes to then.

`answer_records_decision` is the result: what is recorded is what was decided,
and it comes to the log as one line.
-/

namespace ScriptQuote

open FileTree (Adds)
open Record (Entry Tells)

namespace Request

/-- The members of a request say which value is to be quoted, what quote is
asked for, and whether the argument is literal. -/
structure AsksQuoting (members : Dictionary Json.Value) (v : Text) (q : Option Text)
    (literal : Bool) : Prop where
  value : value? (members.get? "value") = .ok v
  quote : quote? (members.get? "quote") = .ok q
  literal : literal? (members.get? "literal") = .ok literal

/-- What is recorded of an argument. -/
def quotingEntry (d : Dialect) (v : Text) (q : Option Text) (literal : Bool) :
    Entry where
  op := Operation.quoteArgument.name
  resultLength := (Argument.quote d v q literal).length
  violation := recordedViolation d v q literal
  value := some v

variable {d : Dialect} {members : Dictionary Json.Value} {v : Text} {q : Option Text}
  {literal : Bool}

theorem answer_quoteArgument_iff {a : Answer}
    (hop : members.get? "op" = some (.string Operation.quoteArgument.name)) :
    answer d (.object members) = .ok a ↔
      ∃ v q literal, AsksQuoting members v q literal ∧
        a = ⟨Argument.quote d v q literal, quotingEntry d v q literal⟩ := by
  have hoperation : operation? (members.get? "op") = .ok .quoteArgument := by
    rw [hop]
    rfl
  rw [answer, bind_eq_ok_iff]
  constructor
  · intro h
    obtain ⟨op, hop, h⟩ := h
    rw [hoperation] at hop
    cases hop
    obtain ⟨v, hv, h⟩ := bind_eq_ok_iff.mp h
    rw [if_pos rfl] at h
    obtain ⟨q, hq, h⟩ := bind_eq_ok_iff.mp h
    obtain ⟨literal, hliteral, h⟩ := bind_eq_ok_iff.mp h
    cases h
    exact ⟨v, q, literal, ⟨hv, hq, hliteral⟩, rfl⟩
  · intro h
    obtain ⟨v, q, literal, hasks, ha⟩ := h
    refine ⟨_, hoperation, bind_eq_ok_iff.mpr ⟨v, hasks.value, ?_⟩⟩
    rw [if_pos rfl, ha]
    exact bind_eq_ok_iff.mpr ⟨q, hasks.quote,
      bind_eq_ok_iff.mpr ⟨literal, hasks.literal, rfl⟩⟩

/-- The entry is about the fragment, and its violation is what made the
difference.  Without a quote that is asked for, the fragment is the bare pattern
if there is no violation, and if there is one, the pattern breaks that rule and
stands between straight single quotes. -/
structure RecordsDecision (d : Dialect) (v : Text) (q : Option Text) (literal : Bool)
    (fragment : Text) (e : Entry) : Prop where
  op : e.op = Operation.quoteArgument.name
  resultLength : e.resultLength = fragment.length
  bare : Argument.isAuto q = true →
    (e.violation = none ↔ fragment = Argument.pattern d literal v)
  quoted : Argument.isAuto q = true → ∀ name, e.violation = some name →
    (Bareword.violation d (Argument.pattern d literal v)).map Bareword.Rule.name =
        some name ∧
      fragment = Argument.wrap d ['\x27'] (Argument.pattern d literal v)
  asked : Argument.isAuto q = false → e.violation = none

theorem recordedViolation_of_isAuto (hauto : Argument.isAuto q = true) :
    recordedViolation d v q literal =
      (Bareword.violation d (Argument.pattern d literal v)).map
        Bareword.Rule.name := by
  rw [recordedViolation, if_pos hauto]

theorem recordsDecision_quotingEntry (d : Dialect) (v : Text) (q : Option Text)
    (literal : Bool) :
    RecordsDecision d v q literal (Argument.quote d v q literal)
      (quotingEntry d v q literal) where
  op := rfl
  resultLength := rfl
  bare hauto := by
    show recordedViolation d v q literal = none ↔ _
    rw [recordedViolation_of_isAuto hauto, Option.map_eq_none_iff]
    exact (Argument.quote_eq_pattern_iff hauto).symm
  quoted hauto name hname := by
    change recordedViolation d v q literal = some name at hname
    rw [recordedViolation_of_isAuto hauto] at hname
    obtain ⟨r, hr, -⟩ := Option.map_eq_some_iff.mp hname
    exact ⟨hname, Argument.quote_of_violation_eq_some hauto hr⟩
  asked hauto := by
    show recordedViolation d v q literal = none
    rw [recordedViolation, hauto]
    rfl

/-- A request for quoting is answered exactly if it says what to quote and how.
It is then answered with the fragment, and one entry is recorded, which tells
the decision.  If there is a log, the entry comes to it as one line. -/
theorem answer_records_decision
    (hop : members.get? "op" = some (.string Operation.quoteArgument.name))
    (w : World) :
    ((∃ fragment, ((World.answer d (.object members)).run.run w).1 = .ok fragment) ↔
      ∃ v q literal, AsksQuoting members v q literal) ∧
    ∀ {v q literal}, AsksQuoting members v q literal →
      ∃ fragment e,
        (World.answer d (.object members)).run.run w =
          (.ok fragment, w.afterRecord e) ∧
        fragment = Argument.quote d v q literal ∧
          RecordsDecision d v q literal fragment e ∧
        ∀ log, Logging.Holds ⟨w.recorder, w.tree⟩ (some log) →
          ∃ place line, w.tree.target? log.cwd log.path = some place ∧
            Adds w.tree (w.afterRecord e).tree place line ∧
              Tells log.full e line := by
  have hrun : ∀ {v q literal}, AsksQuoting members v q literal →
      (World.answer d (.object members)).run.run w =
        (.ok (Argument.quote d v q literal),
          w.afterRecord (quotingEntry d v q literal)) := by
    intro v q literal hasks
    have hanswer :=
      (answer_quoteArgument_iff (d := d) hop).mpr ⟨v, q, literal, hasks, rfl⟩
    rw [World.run_answer, hanswer]
  constructor
  · constructor
    · intro h
      obtain ⟨fragment, hfragment⟩ := h
      rw [World.run_answer] at hfragment
      split at hfragment
      · rename_i a ha
        obtain ⟨v, q, literal, hasks, -⟩ := (answer_quoteArgument_iff hop).mp ha
        exact ⟨v, q, literal, hasks⟩
      · cases hfragment
    · intro h
      obtain ⟨v, q, literal, hasks⟩ := h
      exact ⟨_, congrArg Prod.fst (hrun hasks)⟩
  · intro v q literal hasks
    -- Whether there is a log makes no difference to what is recorded.
    refine ⟨_, _, hrun hasks, rfl, recordsDecision_quotingEntry d v q literal, ?_⟩
    intro log hholds
    exact Logging.adds_record hholds w.time (quotingEntry d v q literal)

/-- A request to quote a value with a blank in it. -/
def blankRequest : Dictionary Json.Value :=
  [("op", .string Operation.quoteArgument.name), ("value", .string "a b")]

theorem asksQuoting_blankRequest : AsksQuoting blankRequest "a b" none false :=
  ⟨rfl, rfl, rfl⟩

/-- A world with an open log and nothing in it. -/
def loggedWorld : World where
  tree := ⟨[(["l"], .file [])]⟩
  surroundings := ⟨[], ⟨"/h", []⟩, none⟩
  recorder := .attach ["l"] true
  time := "1970-01-01"

theorem holds_loggedWorld :
    Logging.Holds ⟨loggedWorld.recorder, loggedWorld.tree⟩
      (some ⟨[], ⟨.root, ["l"]⟩, true⟩) :=
  ⟨["l"], rfl, rfl, rfl⟩

/-- The blank is what made the difference, and the log says so. -/
theorem answer_records_decision_blank :
    ∃ e line, (World.answer .powerShell (.object blankRequest)).run.run loggedWorld =
        (.ok "\x27a b\x27", loggedWorld.afterRecord e) ∧
      e.resultLength = 5 ∧ e.violation = some Bareword.Rule.tokenBreak.name ∧
      Adds loggedWorld.tree (loggedWorld.afterRecord e).tree ["l"] line ∧
        Tells true e line := by
  have hop : blankRequest.get? "op" =
      some (.string Operation.quoteArgument.name) := rfl
  obtain ⟨fragment, e, hrun, hfragment, hrecords, hlog⟩ :=
    (answer_records_decision (d := .powerShell) hop loggedWorld).2
      asksQuoting_blankRequest
  have hquoted : fragment = "\x27a b\x27" := by
    rw [hfragment]
    decide
  have hviolation : e.violation = some Bareword.Rule.tokenBreak.name := by
    cases h : e.violation with
    | none =>
      have hbare := (hrecords.bare rfl).mp h
      rw [hquoted] at hbare
      exact absurd hbare (by decide)
    | some name =>
      rw [← (hrecords.quoted rfl name h).1]
      decide
  have hlength : e.resultLength = 5 := by
    rw [hrecords.resultLength, hquoted]
    rfl
  obtain ⟨place, line, hplace, hadds, htells⟩ := hlog _ holds_loggedWorld
  have hroot : loggedWorld.tree.target? [] ⟨.root, ["l"]⟩ =
      some (["l"] : Place) := rfl
  rw [hroot] at hplace
  cases hplace
  exact ⟨e, line, hquoted ▸ hrun, hlength, hviolation, hadds, htells⟩

end Request

end ScriptQuote
