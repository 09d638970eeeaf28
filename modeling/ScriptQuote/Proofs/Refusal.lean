import ScriptQuote.Proofs.Request

/-!
# Requests that are refused

A request is any JSON value, and there are five faults that it can have.
`Defect` says what each of them is, with no look at how a request is read.  A
request can have several, and `FirstDefect` is the one that comes before the
others in the order of the faults.

* The checks.  A check of a member fails on the defects of one kind only; these
  are the `*_cases` lemmas.
* The ways in which answering can end.  `Ends` lists them, and `ends_iff` says
  that the list is complete and that each stands for one answer only.  What is
  said of all requests is a look at seven cases then: `answer_eq_error_iff`,
  `not_defect_of_ends` and `answer_eq_of_same_members`.
* `answer_validates` is what the caller sees: a fault and nothing else, or a
  fragment and one entry.
-/

namespace ScriptQuote

open FileTree (Adds)
open Record (Entry Tells)

namespace Request

variable {d : Dialect} {request : Json.Value}
  {members members' : Dictionary Json.Value}
  {f f' : Fault} {op : Operation} {asked : Option Json.Value}
  {r : Except Fault Answer} {w : World}

/-! ## What can be wrong -/

/-- The request names an operation. -/
def Asks (members : Dictionary Json.Value) (op : Operation) : Prop :=
  members.get? "op" = some (.string op.name)

/-- The quote is there, is not null, and is no text of at most one code point. -/
def BadQuote (asked : Option Json.Value) : Prop :=
  ∃ q, asked = some q ∧ q ≠ .null ∧ ∀ t, q = .string t → 1 < t.length

/-- It is said whether the argument is literal, but not by a truth value. -/
def BadLiteral (asked : Option Json.Value) : Prop :=
  ∃ l, asked = some l ∧ ∀ b, l ≠ .bool b

/-- The faults that a request has.  An operation that is not there counts as null. -/
inductive Defect : Json.Value → Fault → Prop
  | notAnObject {request : Json.Value} (h : ∀ members, request ≠ .object members) :
      Defect request .notAnObject
  | unknownOperation {members : Dictionary Json.Value} (h : ∀ op, ¬ Asks members op) :
      Defect (.object members) (.unknownOperation ((members.get? "op").getD .null))
  | valueNotText {members : Dictionary Json.Value}
      (h : ∀ t, members.get? "value" ≠ some (.string t)) :
      Defect (.object members) .valueNotText
  | badQuote {members : Dictionary Json.Value} (hop : Asks members .quoteArgument)
      (h : BadQuote (members.get? "quote")) : Defect (.object members) .badQuote
  | badLiteral {members : Dictionary Json.Value} (hop : Asks members .quoteArgument)
      (h : BadLiteral (members.get? "literal")) : Defect (.object members) .badLiteral

/-- Where a fault stands in the order in which they are looked for. -/
def Fault.rank : Fault → Nat
  | notAnObject => 0
  | unknownOperation _ => 1
  | valueNotText => 2
  | badQuote => 3
  | badLiteral => 4

/-- The request has the fault, and none that comes before it. -/
structure FirstDefect (request : Json.Value) (f : Fault) : Prop where
  defect : Defect request f
  first : ∀ f', Defect request f' → f.rank ≤ f'.rank

/-- A request has at most one fault of each kind. -/
theorem Defect.eq_of_rank (h : Defect request f) (h' : Defect request f')
    (hrank : f.rank = f'.rank) : f = f' := by
  cases h <;> cases h' <;> first | rfl | cases hrank

theorem FirstDefect.unique (h : FirstDefect request f)
    (h' : FirstDefect request f') : f = f' :=
  h.defect.eq_of_rank h'.defect
    (Nat.le_antisymm (h.first f' h'.defect) (h'.first f h.defect))

theorem head?_message_unknownOperation (asked : Json.Value) :
    (Fault.unknownOperation asked).message.head? = some (CodePoint.ofChar 'u') ∨
      (Fault.unknownOperation asked).message.head? = some (CodePoint.ofChar 'E') := by
  simp only [Fault.message]
  split
  · exact Or.inl rfl
  · exact Or.inr rfl

/-- What is said tells faults of different kinds apart. -/
theorem Fault.rank_eq_of_message_eq (h : f.message = f'.message) :
    f.rank = f'.rank := by
  have hkind : ∀ {f : Fault} {asked : Json.Value},
      f.message = (unknownOperation asked).message → f.rank = 1 := by
    intro f asked h
    rcases head?_message_unknownOperation asked with hhead | hhead <;>
      rw [← h] at hhead <;> cases f with
      | unknownOperation => rfl
      | notAnObject | valueNotText | badQuote | badLiteral =>
        exact absurd hhead (by decide)
  cases f' with
  | unknownOperation asked => exact hkind h
  | notAnObject | valueNotText | badQuote | badLiteral =>
    cases f with
    | unknownOperation asked => exact (hkind h.symm).symm
    | notAnObject | valueNotText | badQuote | badLiteral =>
      first | rfl | exact absurd h (by decide)

/-! ## The checks -/

theorem Operation.ofName?_name (op : Operation) :
    Operation.ofName? op.name = some op := by
  cases op <;> decide +kernel

theorem Operation.eq_name_of_ofName? {name : Text}
    (h : Operation.ofName? name = some op) : name = op.name := by
  have hbeq := List.find?_some (p := fun o : Operation => o.name == name) h
  exact (eq_of_beq hbeq).symm

theorem operation?_of_asks (h : Asks members op) :
    operation? (members.get? "op") = .ok op := by
  rw [show members.get? "op" = some (.string op.name) from h, operation?,
    Operation.ofName?_name]

theorem operation?_cases (members : Dictionary Json.Value) :
    (∃ op, Asks members op) ∨
      (∀ op, ¬ Asks members op) ∧ operation? (members.get? "op") =
        .error (.unknownOperation ((members.get? "op").getD .null)) := by
  by_cases hasks : ∃ op, Asks members op
  · exact Or.inl hasks
  have hnone : ∀ op, ¬ Asks members op := not_exists.mp hasks
  refine Or.inr ⟨hnone, ?_⟩
  unfold operation?
  split
  · rename_i name hop
    split
    · rename_i op hname
      rw [Operation.eq_name_of_ofName? hname] at hop
      exact absurd hop (hnone op)
    · rw [hop]
      rfl
  · rename_i v _ hop
    rw [hop]
    rfl
  · rename_i hop
    rw [hop]
    rfl

theorem value?_cases (asked : Option Json.Value) :
    (∃ t, asked = some (.string t) ∧ value? asked = .ok t) ∨
      (∀ t, asked ≠ some (.string t)) ∧ value? asked = .error .valueNotText := by
  unfold value?
  split
  · rename_i t
    exact Or.inl ⟨t, rfl, rfl⟩
  · rename_i hother
    exact Or.inr ⟨hother, rfl⟩

theorem quote?_cases (asked : Option Json.Value) :
    ¬ BadQuote asked ∧ (∃ q, quote? asked = .ok q) ∨
      BadQuote asked ∧ quote? asked = .error .badQuote := by
  unfold quote?
  split
  · exact Or.inl ⟨by simp [BadQuote], none, rfl⟩
  · exact Or.inl ⟨by simp [BadQuote], none, rfl⟩
  · rename_i t
    split
    · rename_i hshort
      exact Or.inl ⟨by simpa [BadQuote] using hshort, some t, rfl⟩
    · rename_i hlong
      exact Or.inr ⟨by simpa [BadQuote] using hlong, rfl⟩
  · rename_i q hnull htext
    refine Or.inr ⟨⟨q, rfl, hnull, ?_⟩, rfl⟩
    intro t ht
    exact absurd ht (htext t)

theorem literal?_cases (asked : Option Json.Value) :
    ¬ BadLiteral asked ∧ (∃ b, literal? asked = .ok b) ∨
      BadLiteral asked ∧ literal? asked = .error .badLiteral := by
  unfold literal?
  split
  · exact Or.inl ⟨by simp [BadLiteral], false, rfl⟩
  · rename_i b
    exact Or.inl ⟨by simp [BadLiteral], b, rfl⟩
  · rename_i l hbool
    exact Or.inr ⟨⟨l, rfl, hbool⟩, rfl⟩

/-! ## The ways in which answering can end -/

/-- What is recorded of an operation other than the quoting of an argument. -/
def plainEntry (d : Dialect) (op : Operation) (v : Text) : Entry where
  op := op.name
  resultLength := (op.apply d v).length
  violation := none
  value := some v

/-- One way for each check that fails, and two for requests that pass all of theirs. -/
inductive Ends (d : Dialect) : Json.Value → Except Fault Answer → Prop
  | notAnObject {request : Json.Value} (h : ∀ members, request ≠ .object members) :
      Ends d request (.error .notAnObject)
  | unknownOperation {members : Dictionary Json.Value} (h : ∀ op, ¬ Asks members op) :
      Ends d (.object members)
        (.error (.unknownOperation ((members.get? "op").getD .null)))
  | valueNotText {members : Dictionary Json.Value} {op : Operation}
      (hop : Asks members op)
      (h : ∀ t, members.get? "value" ≠ some (.string t)) :
      Ends d (.object members) (.error .valueNotText)
  | applied {members : Dictionary Json.Value} {op : Operation} {v : Text}
      (hop : Asks members op)
      (hv : members.get? "value" = some (.string v)) (hother : op ≠ .quoteArgument) :
      Ends d (.object members) (.ok ⟨op.apply d v, plainEntry d op v⟩)
  | badQuote {members : Dictionary Json.Value} {v : Text}
      (hop : Asks members .quoteArgument)
      (hv : members.get? "value" = some (.string v))
      (h : BadQuote (members.get? "quote")) :
      Ends d (.object members) (.error .badQuote)
  | badLiteral {members : Dictionary Json.Value} {v : Text}
      (hop : Asks members .quoteArgument)
      (hv : members.get? "value" = some (.string v))
      (hquote : ¬ BadQuote (members.get? "quote"))
      (h : BadLiteral (members.get? "literal")) :
      Ends d (.object members) (.error .badLiteral)
  | quoted {members : Dictionary Json.Value} {v : Text} {q : Option Text}
      {literal : Bool}
      (hop : Asks members .quoteArgument)
      (hv : members.get? "value" = some (.string v))
      (hquote : ¬ BadQuote (members.get? "quote"))
      (hliteral : ¬ BadLiteral (members.get? "literal"))
      (hasks : AsksQuoting members v q literal) :
      Ends d (.object members)
        (.ok ⟨Argument.quote d v q literal, quotingEntry d v q literal⟩)

theorem value?_of_text {v : Text} (hv : members.get? "value" = some (.string v)) :
    value? (members.get? "value") = .ok v := by
  rw [hv]
  rfl

/-- Behind the first two checks, the quoting of an argument goes on with its own. -/
theorem answer_of_quoting {v : Text} (hop : Asks members .quoteArgument)
    (hv : members.get? "value" = some (.string v)) :
    answer d (.object members) = do
      let q ← quote? (members.get? "quote")
      let literal ← literal? (members.get? "literal")
      return ⟨Argument.quote d v q literal, quotingEntry d v q literal⟩ := by
  simp only [answer, operation?_of_asks hop, value?_of_text hv]
  rfl

theorem answer_of_ends (h : Ends d request r) : answer d request = r := by
  cases h with
  | notAnObject h =>
    unfold answer
    split
    · exact absurd rfl (h _)
    · rfl
  | @unknownOperation members h =>
    rcases operation?_cases members with ⟨op, hop⟩ | ⟨-, herror⟩
    · exact absurd hop (h op)
    · simp only [answer, herror]
      rfl
  | @valueNotText members op hop h =>
    rcases value?_cases (members.get? "value") with ⟨t, ht, -⟩ | ⟨-, herror⟩
    · exact absurd ht (h t)
    · simp only [answer, operation?_of_asks hop, herror]
      rfl
  | applied hop hv hother =>
    simp only [answer, operation?_of_asks hop, value?_of_text hv]
    exact if_neg hother
  | @badQuote members v hop hv h =>
    rcases quote?_cases (members.get? "quote") with ⟨hgood, -⟩ | ⟨-, herror⟩
    · exact absurd h hgood
    · rw [answer_of_quoting hop hv, herror]
      rfl
  | @badLiteral members v hop hv hquote h =>
    rcases quote?_cases (members.get? "quote") with ⟨-, q, hq⟩ | ⟨hbad, -⟩
    · rcases literal?_cases (members.get? "literal") with ⟨hgood, -⟩ | ⟨-, herror⟩
      · exact absurd h hgood
      · rw [answer_of_quoting hop hv, hq, herror]
        rfl
    · exact absurd hbad hquote
  | quoted hop hv hquote hliteral hasks =>
    exact (answer_quoteArgument_iff hop).mpr ⟨_, _, _, hasks, rfl⟩

/-- Some way of ending is the one of this request. -/
theorem exists_ends (d : Dialect) (request : Json.Value) : ∃ r, Ends d request r := by
  cases request with
  | null | bool | int | float | string | array =>
    exact ⟨_, .notAnObject fun members h => by cases h⟩
  | object members =>
    rcases operation?_cases members with ⟨op, hop⟩ | ⟨hnone, -⟩
    · rcases value?_cases (Dictionary.get? "value" members) with
        ⟨v, hv, hvalue⟩ | ⟨hnone, -⟩
      · by_cases hquoting : op = .quoteArgument
        · subst hquoting
          rcases quote?_cases (Dictionary.get? "quote" members) with
            ⟨hquote, q, hq⟩ | ⟨hbad, -⟩
          · rcases literal?_cases (Dictionary.get? "literal" members) with
              ⟨hliteral, b, hb⟩ | ⟨hbad, -⟩
            · exact ⟨_, .quoted hop hv hquote hliteral ⟨hvalue, hq, hb⟩⟩
            · exact ⟨_, .badLiteral hop hv hquote hbad⟩
          · exact ⟨_, .badQuote hop hv hbad⟩
        · exact ⟨_, .applied hop hv hquoting⟩
      · exact ⟨_, .valueNotText hop hnone⟩
    · exact ⟨_, .unknownOperation hnone⟩

/-- The list of ways is complete, and each stands for one answer only. -/
theorem ends_iff : Ends d request r ↔ answer d request = r := by
  constructor
  · exact answer_of_ends
  · intro h
    obtain ⟨r', hends⟩ := exists_ends d request
    rw [answer_of_ends hends] at h
    exact h ▸ hends

/-! ## The first fault

Each check that a request passes rules out one kind of fault, and what can still
be wrong stands further behind in the order. -/

theorem Defect.one_le_rank (h : Defect (.object members) f) : 1 ≤ f.rank := by
  cases h with
  | notAnObject h => exact absurd rfl (h members)
  | unknownOperation | valueNotText | badQuote | badLiteral => simp [Fault.rank]

theorem Defect.two_le_rank (h : Defect (.object members) f) (hop : Asks members op) :
    2 ≤ f.rank := by
  have hrank := h.one_le_rank
  cases h with
  | notAnObject => simp [Fault.rank] at hrank
  | unknownOperation h => exact absurd hop (h op)
  | valueNotText | badQuote | badLiteral => simp [Fault.rank]

theorem Defect.three_le_rank (h : Defect (.object members) f)
    (hop : Asks members op) {v : Text}
    (hv : members.get? "value" = some (.string v)) : 3 ≤ f.rank := by
  have hrank := h.two_le_rank hop
  cases h with
  | notAnObject | unknownOperation => simp [Fault.rank] at hrank
  | valueNotText h => exact absurd hv (h v)
  | badQuote | badLiteral => simp [Fault.rank]

theorem Defect.four_le_rank (h : Defect (.object members) f)
    (hop : Asks members op) {v : Text}
    (hv : members.get? "value" = some (.string v))
    (hquote : ¬ BadQuote (members.get? "quote")) : 4 ≤ f.rank := by
  have hrank := h.three_le_rank hop hv
  cases h with
  | notAnObject | unknownOperation | valueNotText => simp [Fault.rank] at hrank
  | badQuote _ h => exact absurd h hquote
  | badLiteral => simp [Fault.rank]

/-- A request is refused for the first of its faults. -/
theorem firstDefect_of_ends (h : Ends d request (.error f)) :
    FirstDefect request f := by
  cases h with
  | notAnObject h => exact ⟨.notAnObject h, fun f' _ => Nat.zero_le f'.rank⟩
  | unknownOperation h => exact ⟨.unknownOperation h, fun _ h' => h'.one_le_rank⟩
  | valueNotText hop h => exact ⟨.valueNotText h, fun _ h' => h'.two_le_rank hop⟩
  | badQuote hop hv h => exact ⟨.badQuote hop h, fun _ h' => h'.three_le_rank hop hv⟩
  | badLiteral hop hv hquote h =>
    exact ⟨.badLiteral hop h, fun _ h' => h'.four_le_rank hop hv hquote⟩

theorem asks_inj {op' : Operation} (h : Asks members op)
    (h' : Asks members op') : op = op' :=
  Except.ok.inj ((operation?_of_asks h).symm.trans (operation?_of_asks h'))

/-- A request that is answered has no fault. -/
theorem not_defect_of_ends {a : Answer} (h : Ends d request (.ok a)) :
    ¬ Defect request f := by
  intro hdefect
  cases h with
  | applied hop hv hother =>
    have hrank := hdefect.three_le_rank hop hv
    cases hdefect with
    | notAnObject | unknownOperation | valueNotText => simp [Fault.rank] at hrank
    | badQuote hop' | badLiteral hop' => exact hother (asks_inj hop hop')
  | quoted hop hv hquote hliteral =>
    have hrank := hdefect.four_le_rank hop hv hquote
    cases hdefect with
    | notAnObject | unknownOperation | valueNotText | badQuote =>
      simp [Fault.rank] at hrank
    | badLiteral _ h => exact hliteral h

/-! ## All requests -/

theorem answer_eq_error_iff :
    answer d request = .error f ↔ FirstDefect request f := by
  constructor
  · intro h
    exact firstDefect_of_ends (ends_iff.mpr h)
  · intro h
    obtain ⟨r, hends⟩ := exists_ends d request
    rw [answer_of_ends hends]
    cases r with
    | error f' => rw [(firstDefect_of_ends hends).unique h]
    | ok a => exact absurd h.defect (not_defect_of_ends hends)

/-- A request is refused exactly if it has some fault. -/
theorem exists_answer_eq_error_iff :
    (∃ f, answer d request = .error f) ↔ ∃ f, Defect request f := by
  constructor
  · intro h
    obtain ⟨f, hf⟩ := h
    exact ⟨f, (answer_eq_error_iff.mp hf).defect⟩
  · intro h
    obtain ⟨f, hdefect⟩ := h
    cases hanswer : answer d request with
    | error f' => exact ⟨f', rfl⟩
    | ok a => exact absurd hdefect (not_defect_of_ends (ends_iff.mpr hanswer))

/-- Other operations than the quoting of an argument look at nothing but their
name and the value. -/
theorem answer_eq_of_same_members (hop : members'.get? "op" = members.get? "op")
    (hv : members'.get? "value" = members.get? "value")
    (hother : ¬ Asks members .quoteArgument) :
    answer d (.object members') = answer d (.object members) := by
  obtain ⟨r, hends⟩ := exists_ends d (.object members)
  rw [answer_of_ends hends]
  apply answer_of_ends
  cases hends with
  | notAnObject h => exact absurd rfl (h _)
  | unknownOperation h =>
    rw [← hop]
    exact .unknownOperation fun op hasks => h op (hop.symm.trans hasks)
  | valueNotText hasks h =>
    exact .valueNotText (hop.trans hasks) fun t ht => h t (hv.symm.trans ht)
  | applied hasks hvalue hne => exact .applied (hop.trans hasks) (hv.trans hvalue) hne
  | badQuote hasks | badLiteral hasks | quoted hasks => exact absurd hasks hother

/-- An entry is about a request and the fragment that it was answered with. -/
structure Records (request : Json.Value) (fragment : Text) (e : Entry) : Prop where
  op : request.member? "op" = some (.string e.op)
  resultLength : e.resultLength = fragment.length
  value : ∃ v, e.value = some v ∧ request.member? "value" = some (.string v)

theorem records_of_ends {a : Answer} (h : Ends d request (.ok a)) :
    Records request a.fragment a.entry := by
  cases h with
  | applied hop hv => exact ⟨hop, rfl, _, rfl, hv⟩
  | quoted hop hv => exact ⟨hop, rfl, _, rfl, hv⟩

/-! ## What the caller sees -/

/-- The logger goes to a file of the tree. -/
def GoesToFile (w : World) (place : Place) : Prop :=
  w.recorder.logger = some ⟨place, true⟩ ∧ w.tree.isFile place = true

/-- What recording an entry makes of a world.  Without a logger nothing happens.
If the logger goes to a file of the tree, one line that tells the entry comes to
the end of that file, and nothing else changes.  There is no third case where
only calls of the recorder have been at work. -/
structure Logged (w w' : World) (e : Entry) : Prop where
  off : w.recorder.logger = none → w' = w
  on : ∀ place, GoesToFile w place → ∃ line, w' = { w with tree := w'.tree } ∧
    Adds w.tree w'.tree place line ∧ Tells w.recorder.full e line
  reached : ∀ t calls, Logging.run t calls = ⟨w.recorder, w.tree⟩ →
    w.recorder.logger = none ∨ ∃ place, GoesToFile w place

/-- After any calls, a logger goes to a file of the tree. -/
theorem goesToFile_of_run {t : FileTree} {calls : List Logging.Call}
    (h : Logging.run t calls = ⟨w.recorder, w.tree⟩) :
    w.recorder.logger = none ∨ ∃ place, GoesToFile w place := by
  have hholds := Logging.holds_run t calls
  rw [h] at hholds
  cases hstanding : Logging.standing t calls with
  | none =>
    rw [hstanding] at hholds
    have hoff : w.recorder = .off := hholds
    exact Or.inl (by rw [hoff]; rfl)
  | some log =>
    rw [hstanding] at hholds
    obtain ⟨place, -, hfile, hattached⟩ := hholds
    have hlogger : w.recorder = .attach place log.full := hattached
    exact Or.inr ⟨place, by rw [hlogger]; rfl, hfile⟩

theorem logged_afterRecord (w : World) (e : Entry) :
    Logged w (w.afterRecord e) e where
  off hnone := by simp [World.afterRecord, Recorder.record, hnone]
  on place hplace := by
    obtain ⟨hlogger, hfile⟩ := hplace
    refine ⟨_, rfl, ?_, Entry.tells_line w.recorder.full e w.time⟩
    simp only [World.afterRecord, Recorder.record, hlogger, if_true]
    exact FileTree.adds_append hfile _
  reached _ _ := goesToFile_of_run

/-- What answering a request comes to, and the world that it leaves. -/
def handled (d : Dialect) (request : Json.Value) (w : World) :
    Except Failure Text × World :=
  (World.answer d request).run.run w

theorem handled_eq (d : Dialect) (request : Json.Value) (w : World) :
    handled d request w =
      match answer d request with
      | .ok a => (.ok a.fragment, w.afterRecord a.entry)
      | .error f => (.error (.request f), w) :=
  World.run_answer d request w

/-- A request fails exactly if it has a fault.  It fails with the first one and
with nothing else, which the message tells from faults of other kinds, and
leaves no trace.  Any other request comes back with a fragment, and one entry
about the two is recorded.  If it is not for the quoting of an argument, both
are the same whatever else the request holds. -/
theorem answer_validates (d : Dialect) (request : Json.Value) (w : World) :
    ((∃ failure, (handled d request w).1 = .error failure) ↔ ∃ f, Defect request f) ∧
    (∀ failure, (handled d request w).1 = .error failure ↔
      ∃ f, failure = .request f ∧ FirstDefect request f) ∧
    (∀ f f' : Fault, f.message = f'.message → f.rank = f'.rank) ∧
    (∀ failure, (handled d request w).1 = .error failure →
      (handled d request w).2 = w) ∧
    (∀ fragment, (handled d request w).1 = .ok fragment →
      ∃ e, (handled d request w).2 = w.afterRecord e ∧ Records request fragment e ∧
        Logged w (w.afterRecord e) e) ∧
    ∀ members members' : Dictionary Json.Value, request = .object members →
      ¬ Asks members .quoteArgument → members'.get? "op" = members.get? "op" →
        members'.get? "value" = members.get? "value" →
          answer d (.object members') = answer d request ∧
            handled d (.object members') w = handled d request w := by
  refine ⟨?_, ?_, fun _ _ => Fault.rank_eq_of_message_eq, ?_, ?_, ?_⟩
  · rw [← exists_answer_eq_error_iff (d := d), handled_eq]
    cases answer d request <;> simp
  · intro failure
    simp only [← answer_eq_error_iff (d := d)]
    rw [handled_eq]
    cases answer d request <;> simp [eq_comm]
  · intro failure hfails
    rw [handled_eq] at hfails ⊢
    cases hanswer : answer d request with
    | error f => rfl
    | ok a => simp [hanswer] at hfails
  · intro fragment hfragment
    rw [handled_eq] at hfragment ⊢
    cases hanswer : answer d request with
    | error f => simp [hanswer] at hfragment
    | ok a =>
      have hsame : a.fragment = fragment := by simpa [hanswer] using hfragment
      subst hsame
      exact ⟨a.entry, rfl, records_of_ends (ends_iff.mpr hanswer),
        logged_afterRecord w a.entry⟩
  · intro members members' hrequest hother hop hv
    have hanswer := answer_eq_of_same_members (d := d) hop hv hother
    rw [hrequest, handled_eq, handled_eq, hanswer]
    exact ⟨rfl, rfl⟩

/-- A quote of two code points, and a number that says whether the argument is
literal. -/
def twoFaults : Dictionary Json.Value :=
  [("op", .string Operation.quoteArgument.name), ("value", .string "a"),
    ("literal", .int 0), ("quote", .string "ab")]

/-- A request for a pattern, with members that no other operation than quoting
looks at. -/
def starRequest (others : Dictionary Json.Value) : Dictionary Json.Value :=
  ("op", .string Operation.escapeWildcards.name) :: ("value", .string "*") :: others

theorem asks_starRequest (others : Dictionary Json.Value) :
    Asks (starRequest others) .escapeWildcards := rfl

theorem asks_twoFaults : Asks twoFaults .quoteArgument := rfl

theorem firstDefect_twoFaults : FirstDefect (.object twoFaults) .badQuote where
  defect := .badQuote asks_twoFaults
    ⟨.string "ab", rfl, by simp, by simp [Text.ofString]⟩
  first _ h := h.three_le_rank asks_twoFaults (v := "a") rfl

/-- Of two faults the quote is the one that is told.  A pattern comes with one
line in the log, also if the request holds a quote and a flag that would be
refused elsewhere. -/
theorem answer_validates_competing :
    Defect (.object twoFaults) .badLiteral ∧
      handled .powerShell (.object twoFaults) loggedWorld =
        (.error (.request .badQuote), loggedWorld) ∧
      (∃ e line, handled .powerShell (.object (starRequest [])) loggedWorld =
          (.ok "\x60*", loggedWorld.afterRecord e) ∧
        Adds loggedWorld.tree (loggedWorld.afterRecord e).tree ["l"] line ∧
          Tells true e line) ∧
      handled .powerShell
          (.object (starRequest [("quote", .string "ab"), ("literal", .int 0)]))
          loggedWorld =
        handled .powerShell (.object (starRequest [])) loggedWorld := by
  have htwo := answer_validates .powerShell (.object twoFaults) loggedWorld
  have hstar := answer_validates .powerShell (.object (starRequest [])) loggedWorld
  have hrefused : (handled .powerShell (.object twoFaults) loggedWorld).1 =
      .error (.request .badQuote) := (htwo.2.1 _).mpr ⟨_, rfl, firstDefect_twoFaults⟩
  have hanswered : (handled .powerShell (.object (starRequest [])) loggedWorld).1 =
      .ok (Text.ofString "\x60*") := rfl
  refine ⟨.badLiteral asks_twoFaults ⟨.int 0, rfl, by simp⟩, ?_, ?_, ?_⟩
  · exact Prod.ext hrefused (htwo.2.2.2.1 _ hrefused)
  · obtain ⟨e, hworld, -, hlogged⟩ := hstar.2.2.2.2.1 _ hanswered
    obtain ⟨line, -, hadds, htells⟩ := hlogged.on ["l"] ⟨rfl, rfl⟩
    exact ⟨e, line, Prod.ext hanswered hworld, hadds, htells⟩
  · have hother : ¬ Asks (starRequest []) .quoteArgument := fun h =>
      absurd (asks_inj (asks_starRequest []) h) (by decide)
    have hop := (asks_starRequest [("quote", .string "ab"), ("literal", .int 0)]).trans
      (asks_starRequest []).symm
    exact (hstar.2.2.2.2.2 (starRequest []) _ rfl hother hop rfl).2

end Request

end ScriptQuote
