import ScriptQuote.World

/-!
# Actions in a world

An action may fail and keeps what it changed in the world.  These are the
equations by which a run of one is taken apart, so that nothing else has to look
at how actions are made.

* Any actions: `run_bind` for one after another, `run_try` for one whose failure
  is looked at.
* The actions of the library: what `World.load`, `World.configure` and
  `World.answer` come to.
-/

namespace ScriptQuote.World

/-! ## Any actions -/

/-- A step goes on where the one before it left the world, unless that one fails. -/
theorem run_bind {α β : Type} (x : Action α) (f : α → Action β) (w : World) :
    (x >>= f).run.run w =
      match x.run.run w with
      | (.ok a, w') => (f a).run.run w'
      | (.error e, w') => (.error e, w') := by
  rw [ExceptT.run_bind, StateT.run_bind]
  rcases x.run.run w with ⟨r, w'⟩
  cases r <;> rfl

/-- What a step comes to can be looked at without failing. -/
theorem run_try {α β : Type} (x : Action α) (f : Except Failure α → Action β)
    (w : World) :
    ((ExceptT.lift x.run : Action (Except Failure α)) >>= f).run.run w =
      (f (x.run.run w).1).run.run (x.run.run w).2 := by
  rw [run_bind]
  rfl

theorem run_lift {ε α : Type} (failure : ε → Failure) (r : Except ε α) (w : World) :
    (World.lift failure r).run.run w = (r.mapError failure, w) := by
  cases r <;> rfl

theorem run_get {α : Type} (f : World → Action α) (w : World) :
    ((get : Action World) >>= f).run.run w = (f w).run.run w := rfl

/-! ## The actions of the library -/

/-- The configuration that counts for the current directory. -/
def loaded (w : World) : Except Config.LoadFault Config :=
  Config.load w.surroundings w.tree w.surroundings.cwd

/-- What setting the recorder up by a configuration comes to. -/
def configured (w : World) (c : Config) :
    Recorder × FileTree × Except FileTree.Fault Unit :=
  w.recorder.configure w.tree w.surroundings.cwd c

/-- The world after the recorder is set up, well or not. -/
def afterConfigure (w : World) (c : Config) : World :=
  { w with recorder := (w.configured c).1, tree := (w.configured c).2.1 }

/-- The world after an operation is recorded. -/
def afterRecord (w : World) (e : Record.Entry) : World :=
  { w with tree := w.recorder.record w.tree w.time e }

theorem run_load (w : World) :
    (World.load w.surroundings.cwd).run.run w = (w.loaded.mapError .load, w) := by
  rw [World.load, run_get, run_lift, loaded]

theorem run_configure (w : World) (c : Config) :
    (World.configure c).run.run w =
      ((w.configured c).2.2.mapError .file, w.afterConfigure c) := by
  rw [World.configure, run_get]
  exact run_lift .file (w.configured c).2.2 (w.afterConfigure c)

/-- A request that is refused leaves no trace. -/
theorem run_answer (d : Dialect) (request : Json.Value) (w : World) :
    (World.answer d request).run.run w =
      match Request.answer d request with
      | .ok a => (.ok a.fragment, w.afterRecord a.entry)
      | .error f => (.error (.request f), w) := by
  rw [World.answer, run_bind, run_lift]
  cases Request.answer d request <;> rfl

end ScriptQuote.World
