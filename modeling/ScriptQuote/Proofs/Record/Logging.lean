import ScriptQuote.Proofs.FileTree
import ScriptQuote.Proofs.Record.Entry

/-!
# Logging over a history of calls

Two calls work on the recorder: one sets it up and one records an operation.
Setting up closes the old log before it tries anything that can fail, so what it
leaves does not depend on what was there.  This module goes from single calls to
all histories of them, with nothing else writing to the tree.

* The calls.  `run` is the state after a history, and `standing` is the log that
  the history asks for, read off the latest call that sets the recorder up.
* What a history keeps.  `Holds` ties the two together: the recorder is off or
  goes to the file that the path of the standing log leads to.
  `holds_configure` and `holds_record` are one call, and `holds_run` a history.
* `run_follows_latest` is what the caller sees.
-/

namespace ScriptQuote

open Record (Entry Tells)
open FileTree (Grows Adds)

/-- The state of logging, with the tree that the log files are in. -/
structure Logging where
  recorder : Recorder
  tree : FileTree

namespace Logging

/-! ## The calls -/

/-- A call that works on the recorder. -/
inductive Call
  /-- Sets the recorder up, paths being counted from a directory. -/
  | configure (cwd : Place) (c : Config)
  /-- Records an operation at a time. -/
  | record (time : Text) (e : Entry)

/-- What setting the recorder up comes to. -/
def configured (s : Logging) (cwd : Place) (c : Config) :
    Recorder × FileTree × Except FileTree.Fault Unit :=
  s.recorder.configure s.tree cwd c

/-- The state after a call, also if it fails. -/
def step (s : Logging) : Call → Logging
  | .configure cwd c => ⟨(s.configured cwd c).1, (s.configured cwd c).2.1⟩
  | .record time e => ⟨s.recorder, s.recorder.record s.tree time e⟩

/-- The state after some calls, the latest of which comes first; at the start
nothing is open. -/
def run (t : FileTree) : List Call → Logging
  | [] => ⟨.off, t⟩
  | call :: earlier => (run t earlier).step call

/-- A log as it was asked for. -/
structure Log where
  /-- The directory that its path is counted from. -/
  cwd : Place
  path : Path
  /-- Are values logged too? -/
  full : Bool

/-- The log that some calls ask for: the one of the latest call that sets the
recorder up, unless that call fails or has no log path. -/
def standing (t : FileTree) : List Call → Option Log
  | [] => none
  | .record _ _ :: earlier => standing t earlier
  | .configure cwd c :: earlier =>
    match ((run t earlier).configured cwd c).2.2 with
    | .ok () => c.log.map fun path => ⟨cwd, path, c.logFull⟩
    | .error _ => none

/-! ## What a history keeps -/

/-- The recorder goes to the file that the path of the log leads to, or is off
if there is none. -/
def Holds (s : Logging) : Option Log → Prop
  | none => s.recorder = .off
  | some log => ∃ place, s.tree.target? log.cwd log.path = some place ∧
      s.tree.isFile place = true ∧ s.recorder = .attach place log.full

variable {s : Logging} {t : FileTree} {log : Log} {asked : Option Log}
  {cwd : Place} {c : Config}

/-- Setting the recorder up turns it off, or opens the file that the log path
leads to. -/
theorem configured_cases (s : Logging) (cwd : Place) (c : Config) :
    (s.configured cwd c).1 = .off ∧ Grows s.tree (s.configured cwd c).2.1 ∧
        (c.log = none ∧ (s.configured cwd c).2.2 = .ok () ∨
          ∃ f, (s.configured cwd c).2.2 = .error f) ∨
      ∃ path place t', c.log = some path ∧
        s.configured cwd c = (.attach place c.logFull, t', .ok ()) ∧
          Grows s.tree t' ∧ t'.isFile place = true ∧
            t'.target? cwd path = some place := by
  unfold configured Recorder.configure
  split
  · rename_i hlog
    exact Or.inl ⟨rfl, Grows.refl _, Or.inl ⟨hlog, rfl⟩⟩
  · rename_i path hlog
    -- Directories that were made stay, so the tree grows also where the call fails.
    have hdirectory := FileTree.grows_ensureDirectory s.tree cwd path.parent
    split
    · rename_i t' e hfails
      rw [hfails] at hdirectory
      exact Or.inl ⟨rfl, hdirectory, Or.inr ⟨e, rfl⟩⟩
    · rename_i t' hmade
      rw [hmade] at hdirectory
      split
      · rename_i e hfails
        exact Or.inl ⟨rfl, hdirectory, Or.inr ⟨e, rfl⟩⟩
      · rename_i t'' place hopen
        obtain ⟨hgrows, hfile, htarget⟩ := FileTree.openForAppend_cases hopen
        exact Or.inr ⟨path, place, t'', hlog, rfl, hdirectory.trans hgrows,
          hfile, htarget⟩

/-- A call that fails leaves nothing open. -/
theorem recorder_of_configured_error {f : FileTree.Fault}
    (h : (s.configured cwd c).2.2 = .error f) :
    (s.step (.configure cwd c)).recorder = .off := by
  rcases configured_cases s cwd c with ⟨hoff, -, -⟩ | ⟨_, _, _, -, hopen, -⟩
  · exact hoff
  · rw [hopen] at h
    cases h

theorem holds_configure (t : FileTree) (earlier : List Call) (cwd : Place)
    (c : Config) :
    Holds (run t (.configure cwd c :: earlier))
      (standing t (.configure cwd c :: earlier)) := by
  rw [standing, run]
  rcases configured_cases (run t earlier) cwd c with
    ⟨hoff, -, ⟨hlog, hok⟩ | ⟨f, herror⟩⟩ |
      ⟨path, place, t', hlog, hopen, -, hfile, htarget⟩
  · rw [hok, hlog]
    exact hoff
  · rw [herror]
    exact hoff
  · simp only [hopen, hlog, step]
    exact ⟨place, htarget, hfile, rfl⟩

/-- One line comes to the standing log, and it tells the entry. -/
theorem adds_record (h : Holds s (some log)) (time : Text) (e : Entry) :
    ∃ place line, s.tree.target? log.cwd log.path = some place ∧
      Adds s.tree (s.step (.record time e)).tree place line ∧
        Tells log.full e line := by
  obtain ⟨place, htarget, hfile, hattached⟩ := h
  refine ⟨place, _, htarget, ?_, Entry.tells_line log.full e time⟩
  simp only [step, hattached]
  exact FileTree.adds_append hfile _

/-- Without a log nothing happens. -/
theorem step_record_of_off (h : s.recorder = .off) (time : Text) (e : Entry) :
    s.step (.record time e) = s := by
  obtain ⟨recorder, tree⟩ := s
  subst h
  rfl

theorem holds_record (h : Holds s asked) (time : Text) (e : Entry) :
    Holds (s.step (.record time e)) asked := by
  cases asked with
  | none =>
    rw [step_record_of_off h]
    exact h
  | some log =>
    -- The new line leaves the file where it was, so the path still leads to it.
    obtain ⟨_, _, -, hadds, -⟩ := adds_record h time e
    obtain ⟨place, htarget, hfile, hattached⟩ := h
    exact ⟨place, FileTree.target?_of_grows hadds.grows htarget,
      hadds.grows.isFile hfile, hattached⟩

theorem holds_run (t : FileTree) (calls : List Call) :
    Holds (run t calls) (standing t calls) := by
  induction calls with
  | nil => rfl
  | cons call earlier ih =>
    cases call with
    | configure cwd c => exact holds_configure t earlier cwd c
    | record time e => exact holds_record ih time e

/-- Nothing that was written is lost or changed by a call. -/
theorem grows_step (h : Holds s asked) (call : Call) :
    Grows s.tree (s.step call).tree := by
  cases call with
  | configure cwd c =>
    rcases configured_cases s cwd c with
      ⟨-, hgrows, -⟩ | ⟨_, _, _, -, hopen, hgrows, -, -⟩
    · exact hgrows
    · simp only [step, hopen]
      exact hgrows
  | record time e =>
    cases asked with
    | none =>
      rw [step_record_of_off h]
      exact Grows.refl _
    | some log =>
      obtain ⟨_, _, -, hadds, -⟩ := adds_record h time e
      exact hadds.grows

theorem grows_run (t : FileTree) (later earlier : List Call) :
    Grows (run t earlier).tree (run t (later ++ earlier)).tree := by
  induction later with
  | nil => exact Grows.refl _
  | cons call later ih =>
    exact ih.trans (grows_step (holds_run t (later ++ earlier)) call)

/-! ## What the caller sees -/

/-- A logger and an open file come and go together, and values are logged only
with them. -/
theorem Holds.consistent (h : Holds s asked) :
    s.recorder.logger.isSome = s.recorder.file.isSome ∧
      (s.recorder.full = true → s.recorder.logger.isSome = true) := by
  cases asked with
  | none =>
    rw [show s.recorder = .off from h]
    exact ⟨rfl, id⟩
  | some log =>
    obtain ⟨place, -, -, hattached⟩ := h
    rw [hattached]
    exact ⟨rfl, fun _ => rfl⟩

/-- After any calls, a logger is there exactly if a file is open, and values are
logged only if one is there.  An operation that is recorded comes as one line to
the standing log and leaves the tree alone if there is none.  Setting up that
fails leaves no logger and no logging of values.  Nothing that earlier calls
have written is lost. -/
theorem run_follows_latest (t : FileTree) (calls : List Call) :
    ((run t calls).recorder.logger.isSome = (run t calls).recorder.file.isSome) ∧
    ((run t calls).recorder.full = true →
      (run t calls).recorder.logger.isSome = true) ∧
    (∀ time e,
      match standing t calls with
      | some log =>
        ∃ place line, (run t calls).tree.target? log.cwd log.path = some place ∧
          Adds (run t calls).tree (run t (.record time e :: calls)).tree place line ∧
            Tells log.full e line
      | none => (run t (.record time e :: calls)).tree = (run t calls).tree) ∧
    (∀ cwd c f, ((run t calls).configured cwd c).2.2 = .error f →
      (run t (.configure cwd c :: calls)).recorder.logger = none ∧
        (run t (.configure cwd c :: calls)).recorder.full = false) ∧
    ∀ later, Grows (run t calls).tree (run t (later ++ calls)).tree := by
  have hholds := holds_run t calls
  obtain ⟨htogether, hfull⟩ := hholds.consistent
  refine ⟨htogether, hfull, ?_, ?_, fun later => grows_run t later calls⟩
  · intro time e
    cases hstanding : standing t calls with
    | none =>
      rw [hstanding] at hholds
      show ((run t calls).step (.record time e)).tree = _
      rw [step_record_of_off hholds]
    | some log =>
      rw [hstanding] at hholds
      exact adds_record hholds time e
  · intro cwd c f hfails
    have hoff := recorder_of_configured_error hfails
    rw [run, hoff]
    exact ⟨rfl, rfl⟩

/-- Sets the recorder up for a log at a path that is counted from the root. -/
def logAt (parts : List Text) (full : Bool) : Call :=
  .configure [] ⟨[], some ⟨.root, parts⟩, full, []⟩

/-- A log with values is opened. -/
def opened : List Call := [logAt ["l"] true]

/-- Then the root is asked for as a log, which fails, and the log is opened
again without values. -/
def reopened : List Call := logAt ["l"] false :: logAt [] true :: opened

theorem ensureDirectory_root (t : FileTree) :
    t.ensureDirectory [] ⟨.root, []⟩ = (t, .ok ()) := by
  rw [FileTree.ensureDirectory]
  rfl

theorem run_opened :
    run .empty opened = ⟨.attach ["l"] true, ⟨[(["l"], .file [])]⟩⟩ := by
  simp only [opened, logAt, run, step, configured, Recorder.configure,
    Path.parent, List.dropLast, ensureDirectory_root]
  rfl

theorem configured_opened :
    (run .empty opened).configured [] ⟨[], some ⟨.root, []⟩, true, []⟩ =
      (.off, ⟨[(["l"], .file [])]⟩, .error (.isDirectory ⟨.root, []⟩)) := by
  simp only [run_opened, configured, Recorder.configure, Path.parent, List.dropLast,
    ensureDirectory_root]
  rfl

theorem standing_reopened :
    standing .empty reopened = some ⟨[], ⟨.root, ["l"]⟩, false⟩ := by
  simp only [reopened, logAt, run, standing, step, configured_opened]
  simp only [configured, Recorder.configure, Path.parent, List.dropLast,
    ensureDirectory_root]
  rfl

/-- Values are logged at first, nothing is logged after the failure, and when
the log is opened again it takes entries without their values. -/
theorem run_follows_latest_reopened :
    ((run .empty opened).recorder.full = true ∧
      (run .empty opened).recorder.logger.isSome = true) ∧
    (run .empty (logAt [] true :: opened)).recorder.logger = none ∧
    ∃ place line, (run .empty reopened).tree.target? [] ⟨.root, ["l"]⟩ = some place ∧
      Adds (run .empty reopened).tree
        (run .empty (.record "1970-01-01"
          ⟨"quote_argument", 1, none, some "a"⟩ :: reopened)).tree place line ∧
      Tells false ⟨"quote_argument", 1, none, some "a"⟩ line := by
  have hfull : (run .empty opened).recorder.full = true := by rw [run_opened]; rfl
  have hfails :
      ((run .empty opened).configured [] ⟨[], some ⟨.root, []⟩, true, []⟩).2.2 =
      .error (.isDirectory ⟨.root, []⟩) := by
    rw [configured_opened]
  have hrecord := (run_follows_latest .empty reopened).2.2.1 "1970-01-01"
    ⟨"quote_argument", 1, none, some "a"⟩
  rw [standing_reopened] at hrecord
  exact ⟨⟨hfull, (run_follows_latest .empty opened).2.1 hfull⟩,
    ((run_follows_latest .empty opened).2.2.2.1 _ _ _ hfails).1, hrecord⟩

end Logging

end ScriptQuote
