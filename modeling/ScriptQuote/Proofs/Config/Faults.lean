import ScriptQuote.Proofs.Config.Priority

/-!
# Where a fault comes from

Some faults of a configuration are told apart by what they are about and not by
the place where they are found: a table that is none, and a home directory that
is not known.  This module goes back from such a fault to the file, and to the
entry in it.

* `Culprit` is what in a document makes for such a fault, and
  `culprit_of_ofTable` finds it.
* `load_eq_error` goes back from loading to the file, or to the path that the
  environment names.
-/

namespace ScriptQuote.Config

variable {s : Surroundings} {t : FileTree} {directory : Place} {homes : Path.Homes}
  {doc entries : Toml.Table} {base c : Config}

/-! ## In a document -/

/-- What in a document makes for a table that is none or a home directory that
is not known. -/
inductive Culprit (homes : Path.Homes) (doc : Toml.Table) : Fault → Prop
  | table {name : Text} {v : Toml.Value}
      (hname : name = dialectTable ∨ name = settingsTable)
      (hv : Dictionary.get? name doc = some v)
      (hnone : ∀ entries, v ≠ .table entries) :
      Culprit homes doc (.notATable name)
  | logHome {entries : Toml.Table} {key path : Text}
      (hsettings : Dictionary.get? settingsTable doc = some (.table entries))
      (hentry : (key, .string path) ∈ entries) (hkey : normalize key = logKey)
      (hhome : (Path.ofText path).expandHome homes = .error .unknown) :
      Culprit homes doc (.home .unknown)

/-- The faults that have such a culprit. -/
def HasCulprit (f : Fault) : Prop :=
  (∃ name, f = .notATable name) ∨ f = .home .unknown

theorem tableNamed_eq_error {name : Text} {f : Fault}
    (h : tableNamed name doc = .error f) :
    f = .notATable name ∧
      ∃ v, Dictionary.get? name doc = some v ∧ ∀ entries, v ≠ .table entries := by
  rw [tableNamed] at h
  split at h
  · cases h
  · cases h
  · rename_i v hnone hv
    cases h
    exact ⟨rfl, v, hv, hnone⟩

theorem not_hasCulprit_of_override {key : Text} {v : Toml.Value} {f : Fault}
    (h : override key v = .error f) : ¬ HasCulprit f := by
  simp only [override] at h
  repeat' split at h
  all_goals
    cases h
  all_goals
    simp [HasCulprit]

theorem not_hasCulprit_of_overridesOf {f : Fault}
    (h : overridesOf entries = .error f) : ¬ HasCulprit f := by
  obtain ⟨entry, -, d, hstep⟩ := exists_of_foldlM_eq_error h
  rcases bind_eq_error_iff.mp hstep with hoverride | ⟨o, -, hput⟩
  · exact not_hasCulprit_of_override hoverride
  · cases hput

/-- A setting has a culprit only in a log path. -/
theorem logHome_of_setting {settings : Settings} {key : Text}
    {v : Toml.Value} {f : Fault}
    (h : setting homes settings key v = .error f) (hf : HasCulprit f) :
    f = .home .unknown ∧ normalize key = logKey ∧
      ∃ path, v = .string path ∧
        (Path.ofText path).expandHome homes = .error .unknown := by
  simp only [setting] at h
  split at h
  · rename_i hkey
    split at h
    · rename_i path
      split at h
      · cases h
        simp [HasCulprit] at hf
      · split at h
        · cases h
        · rename_i e he
          cases h
          have hunknown : e = .unknown := by simpa [HasCulprit] using hf
          subst hunknown
          exact ⟨rfl, hkey, path, rfl, he⟩
    · cases h
      simp [HasCulprit] at hf
  · split at h
    · split at h
      · cases h
      · cases h
        simp [HasCulprit] at hf
    · cases h
      simp [HasCulprit] at hf

theorem culprit_of_ofTable {f : Fault} (h : ofTable homes doc = .error f)
    (hf : HasCulprit f) : Culprit homes doc f := by
  rw [ofTable] at h
  split at h
  · cases h
    simp [HasCulprit] at hf
  · rcases bind_eq_error_iff.mp h with hdialect | ⟨_, -, h⟩
    · obtain ⟨rfl, v, hv, hnone⟩ := tableNamed_eq_error hdialect
      exact .table (Or.inl rfl) hv hnone
    rcases bind_eq_error_iff.mp h with hoverrides | ⟨_, -, h⟩
    · exact absurd hf (not_hasCulprit_of_overridesOf hoverrides)
    rcases bind_eq_error_iff.mp h with htable | ⟨entries, hentries, h⟩
    · obtain ⟨rfl, v, hv, hnone⟩ := tableNamed_eq_error htable
      exact .table (Or.inr rfl) hv hnone
    rcases bind_eq_error_iff.mp h with hsettings | ⟨_, -, h⟩
    · obtain ⟨⟨key, v⟩, hentry, _, hstep⟩ := exists_of_foldlM_eq_error hsettings
      obtain ⟨rfl, hkey, path, rfl, hhome⟩ := logHome_of_setting hstep hf
      rw [tableNamed] at hentries
      split at hentries
      · cases hentries
        cases hentry
      · rename_i es hes
        cases hentries
        exact .logHome hes hentry hkey hhome
      · cases hentries
    · cases h

/-! ## In the files and the surroundings -/

/-- A file fails because it is no text or because of its document. -/
theorem loadFile_eq_error {scope : Scope} {path : Path} {place : Place}
    {f : LoadFault} (h : loadFile homes t scope path place base = .error f) :
    (∃ e, f = .encoding e) ∨ ∃ fault, f = .document path.text fault ∧
      (HasCulprit fault → ∃ doc, document? t place = some doc ∧
        Culprit homes doc fault) := by
  rw [loadFile] at h
  cases hchars : Utf8.decode ((t.content? place).getD []) with
  | error e =>
    rw [hchars] at h
    cases h
    exact Or.inl ⟨e, rfl⟩
  | ok chars =>
    have hdocument : document? t place =
        (Toml.read (Utf8.unifyLineEnds chars)).toOption := by
      rw [document?, hchars]
    rw [hchars] at h
    simp only [ofDocument] at h
    cases hread : Toml.read (Utf8.unifyLineEnds chars) with
    | error e =>
      rw [hread] at h
      cases h
      exact Or.inr ⟨_, rfl, by simp [HasCulprit]⟩
    | ok doc =>
      rw [hread] at h hdocument
      cases hfault : ofTable homes doc with
      | error fault =>
        simp only [hfault] at h
        cases h
        exact Or.inr ⟨fault, rfl, fun hf =>
          ⟨doc, hdocument, culprit_of_ofTable hfault hf⟩⟩
      | ok o =>
        simp only [hfault] at h
        cases h

/-- Loading fails at a file, or at the path that the environment names. -/
theorem load_eq_error {f : LoadFault} (h : load s t directory = .error f) :
    (∃ g, Contributes s t directory g ∧ ∃ base,
      loadContribution s.homes t base g = .error f) ∨
      ∃ text e, s.override = some text ∧
        (Path.ofText text).expandHome s.homes = .error e ∧
        f = .home e := by
  have hscope : ∀ {scope base}, (contribution? s t directory scope).toList.foldlM
      (loadContribution s.homes t) base = .error f →
        ∃ g, Contributes s t directory g ∧ ∃ base,
          loadContribution s.homes t base g = .error f := by
    intro scope base hfold
    obtain ⟨g, hg, base', hfails⟩ := exists_of_foldlM_eq_error hfold
    exact ⟨g, (contributes_iff.mp (Option.mem_toList.mp hg)).1, base', hfails⟩
  rw [load] at h
  rcases bind_eq_error_iff.mp h with huser | ⟨c₁, -, h⟩
  · rw [loadPath_eq_foldlM] at huser
    exact Or.inl (@hscope .user _ huser)
  rcases bind_eq_error_iff.mp h with hproject | ⟨c₂, -, h⟩
  · rw [loadProject_eq_foldlM] at hproject
    exact Or.inl (hscope hproject)
  rw [loadEnvironment] at h
  split at h
  · cases h
  · rename_i text hset
    split at h
    · cases h
    rename_i hne
    split at h
    · rename_i e he
      cases h
      exact Or.inr ⟨text, e, hset, he, rfl⟩
    rename_i path hpath
    rw [loadPath] at h
    split at h
    · rename_i place hplace
      exact Or.inl ⟨_, .environment hset (by simpa using hne) hpath hplace, c₂, h⟩
    · cases h

end ScriptQuote.Config
