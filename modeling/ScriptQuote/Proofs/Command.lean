import ScriptQuote.Command
import ScriptQuote.Proofs.Config.Faults
import ScriptQuote.Proofs.Json.Numerals
import ScriptQuote.Proofs.Json.ReadBack
import ScriptQuote.Proofs.World

/-!
# How the command ends

A run of the command loads the configuration, sets the recorder up, reads the
request and answers it, and each of these may fail.

* One run.  `Ends` lists the ways in which a run ends, with what it leaves in
  the world, and `ends_iff` says that there are no others.  A dialect never
  fails: a configuration that is loaded has one.
* What the caller sees.  `outcome_cases` sorts the ways by that: a result, no
  answer, or an error that is told.  An answer is one line with one JSON object
  (`prints_result`, `prints_error`).
* Why there is no answer.  `Cause` goes back from the faults that are not told
  to the files, the surroundings and the input.
-/

namespace ScriptQuote.Command

open Config (LoadFault)
open World (run_bind run_get run_try run_lift run_load run_configure)

/-! ## Faults of the configuration -/

/-- The faults of the configuration that the command hands on. -/
inductive HandedOn : LoadFault → Prop
  /-- What stands under the name of a table is none. -/
  | notATable (source name : Text) : HandedOn (.document source (.notATable name))
  /-- The log path of a document starts with a home directory that is not known. -/
  | logHome (source : Text) : HandedOn (.document source (.home .unknown))
  /-- So does the path that the environment names. -/
  | environmentHome : HandedOn (.home .unknown)

theorem isReportedLoad_eq_false_iff {f : LoadFault} :
    isReportedLoad f = false ↔ HandedOn f := by
  constructor
  · intro h
    unfold isReportedLoad at h
    split at h
    case h_2 => exact .notATable _ _
    case h_3 => exact .logHome _
    case h_5 => exact .environmentHome
    all_goals cases h
  · rintro (_ | _ | _) <;> rfl

/-! ## One run -/

variable {w : World} {input : List Char}

/-- The request on the input. -/
def requested (input : List Char) : Except Json.Fault Json.Value :=
  Json.read (Utf8.unifyLineEnds input)

/-- All is ready for the request. -/
structure Prepared (w : World) (c : Config) (d : Dialect) : Prop where
  load : w.loaded = .ok c
  configure : (w.configured c).2.2 = .ok ()
  dialect : c.dialect = .ok d

/-- The ways in which a run ends, and the world that it leaves. -/
inductive Ends (w : World) (input : List Char) : Except Failure Reply → World → Prop
  | answered {c : Config} {d : Dialect} {v : Json.Value} {a : Request.Answer}
      (h : Prepared w c d) (hread : requested input = .ok v)
      (ha : Request.answer d v = .ok a) :
      Ends w input (.ok (.result a.fragment))
        ((w.afterConfigure c).afterRecord a.entry)
  | refused {c : Config} {d : Dialect} {v : Json.Value} {f : Request.Fault}
      (h : Prepared w c d) (hread : requested input = .ok v)
      (hf : Request.answer d v = .error f) :
      Ends w input (.ok (.error f.message)) (w.afterConfigure c)
  | malformed {c : Config} {d : Dialect} {defect : Json.Defect} {left : Nat}
      (h : Prepared w c d)
      (hread : requested input = .error (.malformed defect left)) :
      Ends w input
        (.ok (.error (Text.ofString "invalid JSON: " ++
          (Json.Fault.malformed defect left).message (Utf8.unifyLineEnds input))))
        (w.afterConfigure c)
  | numeralTooLong {c : Config} {d : Dialect} {count : Nat}
      (h : Prepared w c d)
      (hread : requested input = .error (.numeralTooLong count)) :
      Ends w input (.error (.numeralTooLong count)) (w.afterConfigure c)
  | noLog {c : Config} {f : FileTree.Fault}
      (hload : w.loaded = .ok c) (hf : (w.configured c).2.2 = .error f) :
      Ends w input (.ok (.error (Text.ofString "config: " ++ f.message)))
        (w.afterConfigure c)
  | badConfiguration {f : LoadFault} (hload : w.loaded = .error f)
      (hf : ¬ HandedOn f) :
      Ends w input (.ok (.error (Text.ofString "config: " ++ f.message))) w
  | handedOn {f : LoadFault} (hload : w.loaded = .error f) (hf : HandedOn f) :
      Ends w input (.error (.load f)) w

theorem setUp_run (w : World) : setUp.run.run w =
    match w.loaded with
    | .error f => (.error (.load f), w)
    | .ok c =>
      match (w.configured c).2.2 with
      | .error f => (.error (.file f), w.afterConfigure c)
      | .ok () => (c.dialect.mapError .override, w.afterConfigure c) := by
  rw [setUp, run_get, run_bind, run_load]
  cases w.loaded with
  | error f => rfl
  | ok c =>
    simp only [Except.mapError]
    rw [run_bind, run_configure]
    cases (w.configured c).2.2 with
    | error f => rfl
    | ok u => exact run_lift .override c.dialect (w.afterConfigure c)

theorem run_run (w : World) (input : List Char) : (run input).run.run w =
    match setUp.run.run w with
    | (.ok d, w') => (respond d (Utf8.unifyLineEnds input)).run.run w'
    | (.error f, w') =>
      match setupMessage f with
      | some m => (.ok (.error (Text.ofString "config: " ++ m)), w')
      | none => (.error f, w') := by
  rw [run, run_try]
  rcases setUp.run.run w with ⟨f | d, w'⟩
  · simp only
    cases setupMessage f <;> rfl
  · rfl

theorem respond_run (d : Dialect) (input : List Char) (w : World) :
    (respond d (Utf8.unifyLineEnds input)).run.run w =
      match requested input with
      | .error (.malformed defect left) =>
        (.ok (.error (Text.ofString "invalid JSON: " ++
          (Json.Fault.malformed defect left).message (Utf8.unifyLineEnds input))), w)
      | .error (.numeralTooLong count) => (.error (.numeralTooLong count), w)
      | .ok v =>
        match Request.answer d v with
        | .error f => (.ok (.error f.message), w)
        | .ok a => (.ok (.result a.fragment), w.afterRecord a.entry) := by
  rw [respond, requested]
  rcases Json.read (Utf8.unifyLineEnds input) with (⟨defect, left⟩ | count) | v
  · rfl
  · rfl
  · simp only
    cases Request.answer d v <;> rfl

theorem run_of_prepared {c : Config} {d : Dialect} (h : Prepared w c d) :
    (run input).run.run w = (respond d (Utf8.unifyLineEnds input)).run.run
      (w.afterConfigure c) := by
  rw [run_run, setUp_run, h.load]
  simp only [h.configure, h.dialect, Except.mapError]

theorem run_of_ends {r : Except Failure Reply} {w' : World} (h : Ends w input r w') :
    (run input).run.run w = (r, w') := by
  cases h with
  | answered h hread ha =>
    rw [run_of_prepared h, respond_run, hread]
    simp only [ha]
  | refused h hread hf =>
    rw [run_of_prepared h, respond_run, hread]
    simp only [hf]
  | malformed h hread => rw [run_of_prepared h, respond_run, hread]
  | numeralTooLong h hread => rw [run_of_prepared h, respond_run, hread]
  | noLog hload hf =>
    rw [run_run, setUp_run, hload]
    simp only [hf, setupMessage]
  | @badConfiguration f hload hf =>
    have hreported : isReportedLoad f = true := by
      rw [← Bool.not_eq_false, isReportedLoad_eq_false_iff]
      exact hf
    rw [run_run, setUp_run, hload]
    simp only [setupMessage, hreported, if_true]
  | handedOn hload hf =>
    rw [run_run, setUp_run, hload]
    simp only [setupMessage, isReportedLoad_eq_false_iff.mpr hf]
    rfl

/-- Some way of ending is the one of this run. -/
theorem exists_ends (w : World) (input : List Char) : ∃ r w', Ends w input r w' := by
  cases hload : w.loaded with
  | error f =>
    by_cases hf : HandedOn f
    · exact ⟨_, _, .handedOn hload hf⟩
    · exact ⟨_, _, .badConfiguration hload hf⟩
  | ok c =>
    cases hconfigure : (w.configured c).2.2 with
    | error f => exact ⟨_, _, .noLog hload hconfigure⟩
    | ok u =>
      -- A configuration that was loaded has a dialect, so this stage has no
      -- fault of its own.
      obtain ⟨d, hd, -⟩ := Config.dialect_of_wellFormed (Config.wellFormed_load hload)
      have h : Prepared w c d := ⟨hload, hconfigure, hd⟩
      cases hread : requested input with
      | error f =>
        cases f with
        | malformed defect left => exact ⟨_, _, .malformed h hread⟩
        | numeralTooLong count => exact ⟨_, _, .numeralTooLong h hread⟩
      | ok v =>
        cases ha : Request.answer d v with
        | error f => exact ⟨_, _, .refused h hread ha⟩
        | ok a => exact ⟨_, _, .answered h hread ha⟩

/-- The list of ways is complete, and each stands for one run only. -/
theorem ends_iff {r : Except Failure Reply} {w' : World} :
    Ends w input r w' ↔ (run input).run.run w = (r, w') := by
  constructor
  · exact run_of_ends
  · intro h
    obtain ⟨r', w'', hends⟩ := exists_ends w input
    rw [run_of_ends hends] at h
    cases h
    exact hends

/-! ## What the caller sees -/

/-- An answer is one line, and the line is a JSON object with one member. -/
def Prints (r : Reply) (name : Text) (t : Text) : Prop :=
  ∃ line : List Char, r.output = line.map CodePoint.ofChar ∧
    Json.read line = .ok (.object [(name, .string (Json.joinHalves t))])

theorem prints_of_output {r : Reply} {name t : Text}
    (hname : ∀ c ∈ name, c.isSurrogate = false)
    (h : r.output = (Json.Value.object [(name, .string t)]).write ++
      Text.ofString "\n") :
    Prints r name t := by
  obtain ⟨line, hline, hread⟩ := Json.read_write_strings [(name, t)]
  refine ⟨line, h.trans hline, hread.trans ?_⟩
  simp only [Json.joinMembers, List.map_cons, List.map_nil,
    Json.joinHalves_eq_self hname]
  rfl

theorem prints_result (t : Text) : Prints (.result t) "result" t :=
  prints_of_output (by decide) rfl

theorem prints_error (t : Text) : Prints (.error t) "error" t :=
  prints_of_output (by decide) rfl

/-- All goes well, and the request has an answer. -/
def Succeeds (w : World) (input : List Char) (a : Request.Answer) : Prop :=
  ∃ c d v, Prepared w c d ∧ requested input = .ok v ∧ Request.answer d v = .ok a

/-- The fault is one that the command does not tell. -/
inductive Escapes (w : World) (input : List Char) : Failure → Prop
  | load {f : LoadFault} (hload : w.loaded = .error f) (hf : HandedOn f) :
      Escapes w input (.load f)
  | numeralTooLong {c : Config} {d : Dialect} {count : Nat} (h : Prepared w c d)
      (hread : requested input = .error (.numeralTooLong count)) :
      Escapes w input (.numeralTooLong count)

/-- Where such a fault comes from: a table or a log path in a file that
contributes, the path that the environment names, or a numeral on the input. -/
inductive Cause (w : World) (input : List Char) : Failure → Prop
  | file {g : Config.Contribution} {doc : Toml.Table} {fault : Config.Fault}
      (hg : Config.Contributes w.surroundings w.tree w.surroundings.cwd g)
      (hdoc : Config.document? w.tree g.place = some doc)
      (hfault : Config.Culprit w.surroundings.homes doc fault) :
      Cause w input (.load (.document g.path.text fault))
  | environment {text : Text} (hset : w.surroundings.override = some text)
      (hhome : (Path.ofText text).expandHome w.surroundings.homes = .error .unknown) :
      Cause w input (.load (.home .unknown))
  | numeral {count : Nat} (hlong : Decimal.maxDigits < count)
      (hfits : count ≤ input.length) : Cause w input (.numeralTooLong count)

theorem Escapes.cause {f : Failure} (h : Escapes w input f) : Cause w input f := by
  cases h with
  | load hload hf =>
    rcases Config.load_eq_error hload with
      ⟨g, hg, base, hfails⟩ | ⟨text, e, hset, hhome, rfl⟩
    · rcases Config.loadFile_eq_error hfails with ⟨e, rfl⟩ | ⟨fault, rfl, hculprit⟩
      · cases hf
      · have hhas : Config.HasCulprit fault := by
          cases hf with
          | notATable => exact Or.inl ⟨_, rfl⟩
          | logHome => exact Or.inr rfl
        obtain ⟨doc, hdoc, hfault⟩ := hculprit hhas
        exact .file hg hdoc hfault
    · cases hf
      exact .environment hset hhome
  | numeralTooLong _ hread =>
    obtain ⟨hlong, hfits⟩ := Json.fits_of_read hread _ rfl
    exact .numeral hlong (Nat.le_trans hfits (Utf8.length_unifyLineEnds_le input))

/-- What a run comes to. -/
def outcome (w : World) (input : List Char) : Except Failure Reply :=
  ((run input).run.run w).1

theorem outcome_eq_iff {r : Except Failure Reply} :
    outcome w input = r ↔ ∃ w', Ends w input r w' := by
  simp only [ends_iff, outcome]
  constructor
  · rintro rfl
    exact ⟨_, rfl⟩
  · rintro ⟨w', h⟩
    rw [h]

/-- A run without an answer has a fault that is not told, and such a fault
leaves no answer. -/
theorem outcome_eq_error_iff {f : Failure} :
    outcome w input = .error f ↔ Escapes w input f := by
  rw [outcome_eq_iff]
  constructor
  · rintro ⟨w', hends⟩
    cases hends with
    | numeralTooLong h hread => exact .numeralTooLong h hread
    | handedOn hload hhanded => exact .load hload hhanded
  · rintro (⟨hload, hf⟩ | ⟨h, hread⟩)
    · exact ⟨_, .handedOn hload hf⟩
    · exact ⟨_, .numeralTooLong h hread⟩

/-- A run has a result just when all goes well. -/
theorem outcome_eq_result_iff {t : Text} :
    outcome w input = .ok (.result t) ↔ ∃ a, Succeeds w input a ∧ a.fragment = t := by
  rw [outcome_eq_iff]
  constructor
  · rintro ⟨w', hends⟩
    generalize hr : (Except.ok (Reply.result t) : Except Failure Reply) = r at hends
    cases hends with
    | answered h hread ha =>
      cases hr
      exact ⟨_, ⟨_, _, _, h, hread, ha⟩, rfl⟩
    | _ => cases hr
  · rintro ⟨a, ⟨c, d, v, h, hread, ha⟩, rfl⟩
    exact ⟨_, .answered h hread ha⟩

/-- If all goes well the answer has the fragment and the exit code is zero.  A
fault that is not told ends the run without an answer, and it comes from one of
three causes.  Any other fault is told, with the exit code one. -/
theorem outcome_cases (w : World) (input : List Char) :
    (∀ a, Succeeds w input a →
      ∃ r, outcome w input = .ok r ∧ r.exitCode = 0 ∧ Prints r "result" a.fragment) ∧
    (∀ f, Escapes w input f → outcome w input = .error f ∧ Cause w input f) ∧
    ((¬ ∃ a, Succeeds w input a) → (¬ ∃ f, Escapes w input f) →
      ∃ r m, outcome w input = .ok r ∧ r.exitCode = 1 ∧ Prints r "error" m) := by
  refine ⟨?_, ?_, ?_⟩
  · intro a ha
    exact ⟨_, outcome_eq_result_iff.mpr ⟨a, ha, rfl⟩, rfl, prints_result a.fragment⟩
  · intro f hf
    exact ⟨outcome_eq_error_iff.mpr hf, hf.cause⟩
  · intro hfails htold
    cases houtcome : outcome w input with
    | error f => exact absurd ⟨f, outcome_eq_error_iff.mp houtcome⟩ htold
    | ok r =>
      cases r with
      | result t =>
        obtain ⟨a, ha, -⟩ := outcome_eq_result_iff.mp houtcome
        exact absurd ⟨a, ha⟩ hfails
      | error m => exact ⟨_, m, rfl, rfl, prints_error m⟩

/-! ## Three runs -/

/-- A world without files. -/
def bare : World := ⟨⟨[]⟩, ⟨[], ⟨"/h", []⟩, none⟩, .off, []⟩

/-- A world where the project sets the dialect to a number. -/
def numberForDialect : World :=
  { bare with tree := ⟨[([".psquote.toml"], Config.documentNode "dialect=1")]⟩ }

/-- A request with a quote in its value. -/
def quoteRequest : List Char :=
  "\x7b\"op\":\"escape_single_quoted\",\"value\":\"'\"\x7d".toList

theorem prepared_bare : Prepared bare .empty .powerShell := ⟨rfl, rfl, rfl⟩

theorem succeeds_bare :
    Succeeds bare quoteRequest ⟨"''",
      ⟨"escape_single_quoted", 2, none, some "'"⟩⟩ := by
  have hread : requested quoteRequest =
      .ok (.object [("op", .string "escape_single_quoted"),
        ("value", .string "'")]) := by
    cbv
  exact ⟨_, _, _, prepared_bare, hread, rfl⟩

theorem requested_nil : requested [] = .error (.malformed .expectingValue 0) := by
  cbv

theorem loaded_numberForDialect :
    numberForDialect.loaded =
      .error (.document "/.psquote.toml" (.notATable "dialect")) := by
  cbv

/-- A request is answered, an empty input is an error that is told, and a
dialect that is a number is not told. -/
theorem outcome_cases_bare :
    (∃ r, outcome bare quoteRequest = .ok r ∧ r.exitCode = 0 ∧
      Prints r "result" "''") ∧
    outcome numberForDialect quoteRequest =
      .error (.load (.document "/.psquote.toml" (.notATable "dialect"))) ∧
    ∃ r m, outcome bare [] = .ok r ∧ r.exitCode = 1 ∧ Prints r "error" m := by
  refine ⟨(outcome_cases bare quoteRequest).1 _ succeeds_bare, ?_,
    (outcome_cases bare []).2.2 ?_ ?_⟩
  · exact ((outcome_cases numberForDialect quoteRequest).2.1 _
      (.load loaded_numberForDialect (.notATable _ _))).1
  · rintro ⟨a, c, d, v, -, hread, -⟩
    rw [requested_nil] at hread
    cases hread
  · rintro ⟨f, ⟨hload, -⟩ | ⟨-, hread⟩⟩
    · rw [prepared_bare.load] at hload
      cases hload
    · rw [requested_nil] at hread
      cases hread

/-- The project sets the dialect to a number, and the command gives no answer. -/
theorem outcome_numberForDialect :
    ¬ ∃ r, outcome numberForDialect quoteRequest = .ok r := by
  rintro ⟨r, hr⟩
  have hescapes : Escapes numberForDialect quoteRequest
      (.load (.document "/.psquote.toml" (.notATable "dialect"))) :=
    .load loaded_numberForDialect (.notATable _ _)
  rw [outcome_eq_error_iff.mpr hescapes] at hr
  cases hr

end ScriptQuote.Command
