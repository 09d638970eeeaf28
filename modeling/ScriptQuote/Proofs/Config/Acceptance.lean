import ScriptQuote.Proofs.Config.Dialect
import Mathlib

/-!
# Which documents make a configuration

A document is checked entry by entry, and the first entry that offends is what
is told.  Here this is said without the checks: what a document may hold
(`Acceptable`), and which of its entries offends first, and how
(`FirstOffence`).

There are four groups.

* Names.  `isSingleKey_iff` and the two `normalize_eq_*_iff` say which keys the
  checks let pass under which name; for the dialect, `isDialectKey_iff` does.
* Entries.  Each kind of table has a relation for what offends in it, and
  `override_eq_error_iff` and `setting_eq_error_iff` say that an entry fails
  with that and nothing else.
* Documents.  `ofTable_eq_error_iff` goes through the three kinds of entries in
  their order.
* What is told.  `FirstOffence.told` says that the source and the key of the
  entry are in the message.

`ofDocument_exact` is the result.  It is about documents where what stands under
the names of the tables are tables and a log path starts in a home directory
that is found (`Resolvable`); the faults of others are in
`Proofs.Config.Faults`.
-/

namespace ScriptQuote.Config

open Dialect (Field)

variable {homes : Path.Homes} {key name : Text} {value : Toml.Value}
  {entry : Text × Toml.Value} {doc : Toml.Table} {f : Fault}

/-! ## Names -/

/-- The name of an entry of the dialect, or that of the additional token breaks. -/
def IsDialectName (name : Text) : Prop :=
  name = extraTokenBreaks ∨ ∃ field : Field, name = field.name

/-- The name of an entry that is one code point. -/
def IsSingleName (name : Text) : Prop :=
  name = Field.escape.name ∨ name = Field.sigil.name ∨
    name = Field.redirectMarker.name

/-- The two spellings of the setting that says whether values are logged. -/
def IsLogFullKey (key : Text) : Prop :=
  key = logFullKey ∨ key = Text.ofString "log-full"

theorem isSingleKey_iff : isSingleKey name = true ↔ IsSingleName name := by
  constructor
  · intro h
    rw [isSingleKey] at h
    split at h
    · rename_i field hfield
      rw [Field.eq_name_of_ofName? hfield]
      cases field with
      | escape => exact Or.inl rfl
      | sigil => exact Or.inr (Or.inl rfl)
      | redirectMarker => exact Or.inr (Or.inr rfl)
      | _ => cases h
    · cases h
  · rintro (rfl | rfl | rfl) <;> rfl

theorem IsSingleName.isDialectName (h : IsSingleName name) : IsDialectName name := by
  rcases h with h | h | h <;> exact Or.inr ⟨_, h⟩

/-- A name without hyphens and underscores comes from itself alone. -/
theorem normalize_eq_iff (h : ∀ c ∈ name, c ≠ '-' ∧ c ≠ '_') :
    normalize key = name ↔ key = name := by
  induction name generalizing key with
  | nil => exact List.map_eq_nil_iff
  | cons a name ih =>
    obtain ⟨⟨hhyphen, hunderscore⟩, hname⟩ := List.forall_mem_cons.mp h
    constructor
    · intro hkey
      obtain ⟨c, rest, rfl, hc, hrest⟩ := List.map_eq_cons_iff.mp hkey
      rw [(ih hname).mp hrest]
      split at hc
      · exact absurd hc.symm hunderscore
      · rw [hc]
    · rintro rfl
      refine List.cons_eq_cons.mpr ⟨if_neg ?_, (ih hname).mpr rfl⟩
      simpa using hhyphen

theorem normalize_eq_logKey_iff : normalize key = logKey ↔ key = logKey :=
  normalize_eq_iff (by decide)

theorem normalize_eq_logFullKey_iff :
    normalize key = logFullKey ↔ IsLogFullKey key := by
  constructor
  · intro h
    -- The key is cut where the underscore stands in the name.
    change key.map _ = logKey ++ CodePoint.ofChar '_' :: Text.ofString "full" at h
    obtain ⟨log, rest, rfl, hlog, hrest⟩ := List.map_eq_append_iff.mp h
    obtain ⟨c, full, rfl, hc, hfull⟩ := List.map_eq_cons_iff.mp hrest
    have hfull : full = Text.ofString "full" :=
      (normalize_eq_iff (by decide)).mp hfull
    rw [normalize_eq_logKey_iff.mp hlog, hfull]
    split at hc
    · rename_i hhyphen
      rw [eq_of_beq hhyphen]
      exact Or.inr rfl
    · rw [hc]
      exact Or.inl rfl
  · rintro (rfl | rfl) <;> rfl

/-! ## Entries -/

/-- What offends about the name of a table. -/
inductive TableOffence : Text × Toml.Value → Fault → Prop
  | unknown {key : Text} {v : Toml.Value} (hdialect : key ≠ dialectTable)
      (hsettings : key ≠ settingsTable) : TableOffence (key, v) (.unknownTable key)

/-- What offends about an entry of the dialect table. -/
inductive DialectOffence : Text × Toml.Value → Fault → Prop
  | unknown {key : Text} {v : Toml.Value} (hname : ¬ IsDialectName (normalize key)) :
      DialectOffence (key, v) (.unknownDialectKey key)
  | notText {key : Text} {v : Toml.Value} (hname : IsDialectName (normalize key))
      (hv : ∀ t, v ≠ .string t) : DialectOffence (key, v) (.dialectValueNotText key)
  | notSingle {key t : Text} (hname : IsSingleName (normalize key))
      (ht : t.length ≠ 1) : DialectOffence (key, .string t) (.notSingle key t)
  | notDigits {key t : Text} (hname : normalize key = Field.redirectDigits.name)
      (ht : ∃ c ∈ t, c.isAsciiDigit = false) :
      DialectOffence (key, .string t) (.notDigits key t)

/-- What offends about an entry of the settings table. -/
inductive SettingOffence : Text × Toml.Value → Fault → Prop
  | noPath {v : Toml.Value} (hv : ∀ t, v = .string t → t = []) :
      SettingOffence (logKey, v) .badLogPath
  | notBoolean {key : Text} {v : Toml.Value} (hkey : IsLogFullKey key)
      (hv : ∀ b, v ≠ .boolean b) :
      SettingOffence (key, v) (.logFullNotBoolean key)
  | unknown {key : Text} {v : Toml.Value} (hlog : key ≠ logKey)
      (hfull : ¬ IsLogFullKey key) :
      SettingOffence (key, v) (.unknownSetting key)

/-- What an entry of the dialect table may be. -/
def FitsDialect (entry : Text × Toml.Value) : Prop :=
  IsDialectName (normalize entry.1) ∧ ∃ t, entry.2 = .string t ∧
    (IsSingleName (normalize entry.1) → t.length = 1) ∧
      (normalize entry.1 = Field.redirectDigits.name → ∀ c ∈ t, c.isAsciiDigit = true)

/-- What an entry of the settings table may be. -/
def FitsSettings (entry : Text × Toml.Value) : Prop :=
  entry.1 = logKey ∧ (∃ t, entry.2 = .string t ∧ t ≠ []) ∨
    IsLogFullKey entry.1 ∧ ∃ b, entry.2 = .boolean b

theorem override_eq_error_iff :
    override entry.1 entry.2 = .error f ↔ DialectOffence entry f := by
  obtain ⟨key, v⟩ := entry
  constructor
  · intro h
    simp only [override] at h
    split at h
    · rename_i hname
      rw [isDialectKey_iff] at hname
      split at h
      · split at h
        · rename_i hsingle
          cases h
          rw [Bool.and_eq_true, isSingleKey_iff, bne_iff_ne] at hsingle
          exact .notSingle hsingle.1 hsingle.2
        · split at h
          · rename_i hdigits
            cases h
            simp only [Bool.and_eq_true, beq_iff_eq, Bool.not_eq_true',
              List.all_eq_false, Bool.not_eq_true] at hdigits
            exact .notDigits hdigits.1 hdigits.2
          · cases h
      · rename_i hv
        cases h
        exact .notText hname hv
    · rename_i hname
      cases h
      rw [isDialectKey_iff] at hname
      exact .unknown hname
  · intro h
    cases h with
    | unknown hname =>
      have hfalse : isDialectKey (normalize key) = false := by
        rwa [Bool.eq_false_iff, ne_eq, isDialectKey_iff]
      simp only [override, hfalse, Bool.false_eq_true, if_false]
    | notText hname hv =>
      cases v with
      | string t => exact absurd rfl (hv t)
      | _ => simp only [override, isDialectKey_iff.mpr hname, if_true]
    | @notSingle _ t hname ht =>
      simp [override, isDialectKey_iff.mpr hname.isDialectName,
        isSingleKey_iff.mpr hname, ht]
    | @notDigits _ t hname ht =>
      have hknown : isDialectKey Field.redirectDigits.name = true := rfl
      have hsingle : isSingleKey Field.redirectDigits.name = false := rfl
      simp [override, hname, hknown, hsingle, ht]

/-- An entry of the dialect table that fits is one that does not offend. -/
theorem fitsDialect_iff : FitsDialect entry ↔ ∀ f, ¬ DialectOffence entry f := by
  have hok : (∀ f, ¬ DialectOffence entry f) ↔
      ∃ o, override entry.1 entry.2 = .ok o := by
    simp only [exists_eq_ok_iff, ne_eq, override_eq_error_iff]
  rw [hok]
  simp only [override_eq_ok_iff]
  constructor
  · rintro ⟨hname, t, ht, hsingle, hdigits⟩
    refine ⟨_, t, ht, ⟨isDialectKey_iff.mpr hname, ?_, ?_⟩, rfl⟩
    · rwa [isSingleKey_iff]
    · rwa [List.all_eq_true]
  · rintro ⟨_, t, ht, haccepted, -⟩
    refine ⟨isDialectKey_iff.mp haccepted.known, t, ht, ?_, ?_⟩
    · rw [← isSingleKey_iff]
      exact haccepted.single
    · rw [← List.all_eq_true]
      exact haccepted.digits

/-- If the entry is a log path, it starts in a home directory that is found. -/
def LogHomeFound (homes : Path.Homes) (entry : Text × Toml.Value) : Prop :=
  ∀ t, entry = (logKey, .string t) → ∃ p, (Path.ofText t).expandHome homes = .ok p

theorem setting_eq_error_iff (hhome : LogHomeFound homes entry) {s : Settings} :
    setting homes s entry.1 entry.2 = .error f ↔ SettingOffence entry f := by
  obtain ⟨key, v⟩ := entry
  constructor
  · intro h
    simp only [setting] at h
    split at h
    · rename_i hkey
      obtain rfl := normalize_eq_logKey_iff.mp hkey
      split at h
      · rename_i t
        split at h
        · rename_i hempty
          cases h
          refine .noPath fun t' ht' => ?_
          cases ht'
          exact List.isEmpty_iff.mp hempty
        · obtain ⟨p, hp⟩ := hhome t rfl
          rw [hp] at h
          cases h
      · rename_i hv
        cases h
        exact .noPath fun t ht => absurd ht (hv t)
    · rename_i hlog
      split at h
      · rename_i hkey
        split at h
        · cases h
        · rename_i hv
          cases h
          exact .notBoolean (normalize_eq_logFullKey_iff.mp hkey) hv
      · rename_i hfull
        cases h
        exact .unknown (fun hkey => hlog (normalize_eq_logKey_iff.mpr hkey))
          (fun hkey => hfull (normalize_eq_logFullKey_iff.mpr hkey))
  · intro h
    cases h with
    | noPath hv =>
      have hkey : normalize logKey = Text.ofString "log" := rfl
      cases v with
      | string t => simp only [setting, hkey, if_true, hv t rfl, List.isEmpty_nil]
      | _ => simp only [setting, hkey, if_true]
    | notBoolean hkey hv =>
      have hfull : normalize key = Text.ofString "log_full" :=
        normalize_eq_logFullKey_iff.mpr hkey
      have hlog : normalize key ≠ Text.ofString "log" :=
        fun h => logKey_ne_logFullKey (h.symm.trans hfull)
      cases v with
      | boolean b => exact absurd rfl (hv b)
      | _ => simp only [setting, if_neg hlog, if_pos hfull]
    | unknown hlog hfull =>
      have hlog' : normalize key ≠ Text.ofString "log" :=
        fun h => hlog (normalize_eq_logKey_iff.mp h)
      have hfull' : normalize key ≠ Text.ofString "log_full" :=
        fun h => hfull (normalize_eq_logFullKey_iff.mp h)
      simp only [setting, if_neg hlog', if_neg hfull']

/-- An entry of the settings table that fits is one that does not offend. -/
theorem fitsSettings_iff : FitsSettings entry ↔ ∀ f, ¬ SettingOffence entry f := by
  have hapart : ¬ IsLogFullKey logKey := by
    unfold IsLogFullKey
    decide
  constructor
  · rintro (⟨hlog, t, ht, hne⟩ | ⟨hfull, b, hb⟩) f hoffence
    · cases hoffence with
      | noPath hv => exact hne (hv t ht)
      | notBoolean hkey _ => exact hapart (hlog ▸ hkey)
      | unknown hkey _ => exact hkey hlog
    · cases hoffence with
      | noPath _ => exact hapart hfull
      | notBoolean _ hv => exact hv b hb
      | unknown _ hkey => exact hkey hfull
  · intro h
    obtain ⟨key, v⟩ := entry
    by_cases hlog : key = logKey
    · subst key
      refine Or.inl ⟨rfl, ?_⟩
      by_contra hnone
      refine h _ (.noPath fun t ht => ?_)
      by_contra hne
      exact hnone ⟨t, ht, hne⟩
    · by_cases hfull : IsLogFullKey key
      · refine Or.inr ⟨hfull, ?_⟩
        by_contra hnone
        exact h _ (.notBoolean hfull fun b hb => hnone ⟨b, hb⟩)
      · exact absurd (.unknown hlog hfull) (h _)

/-! ## Documents -/

/-- The entries that a document has in a table. -/
def entriesIn (table : Text) (doc : Toml.Table) : Toml.Table :=
  match Dictionary.get? table doc with
  | some (.table entries) => entries
  | _ => []

/-- What stands under the names of the tables are tables, and a log path starts
in a home directory that is found. -/
structure Resolvable (homes : Path.Homes) (doc : Toml.Table) : Prop where
  tables : ∀ name, name = dialectTable ∨ name = settingsTable →
    ∀ v, Dictionary.get? name doc = some v → ∃ entries, v = .table entries
  home : ∀ entry ∈ entriesIn settingsTable doc, LogHomeFound homes entry

/-- What a document may hold. -/
structure Acceptable (doc : Toml.Table) : Prop where
  tables : ∀ entry ∈ doc, entry.1 = dialectTable ∨ entry.1 = settingsTable
  dialect : ∀ entry ∈ entriesIn dialectTable doc, FitsDialect entry
  settings : ∀ entry ∈ entriesIn settingsTable doc, FitsSettings entry

/-- The first entry of a document that offends.  All names of tables come before
the entries of the dialect, and these before the settings. -/
inductive FirstOffence (doc : Toml.Table) : Text × Toml.Value → Fault → Prop
  | table {entry : Text × Toml.Value} {f : Fault}
      (h : FirstOffends TableOffence doc entry f) : FirstOffence doc entry f
  | dialect {entry : Text × Toml.Value} {f : Fault} (htables : Clean TableOffence doc)
      (h : FirstOffends DialectOffence (entriesIn dialectTable doc) entry f) :
      FirstOffence doc entry f
  | setting {entry : Text × Toml.Value} {f : Fault} (htables : Clean TableOffence doc)
      (hdialect : Clean DialectOffence (entriesIn dialectTable doc))
      (h : FirstOffends SettingOffence (entriesIn settingsTable doc) entry f) :
      FirstOffence doc entry f

/-- Has the entry another name than the two tables? -/
def isForeign (entry : Text × Toml.Value) : Bool :=
  !(entry.1 == dialectTable || entry.1 == settingsTable)

theorem tableOffence_iff :
    TableOffence entry f ↔ isForeign entry = true ∧ f = .unknownTable entry.1 := by
  have hforeign : isForeign entry = true ↔ entry.1 ≠ dialectTable ∧
      entry.1 ≠ settingsTable := by
    simp [isForeign]
  rw [hforeign]
  constructor
  · rintro ⟨hdialect, hsettings⟩
    exact ⟨⟨hdialect, hsettings⟩, rfl⟩
  · rintro ⟨⟨hdialect, hsettings⟩, rfl⟩
    exact .unknown hdialect hsettings

theorem clean_table_iff : Clean TableOffence doc ↔ doc.find? isForeign = none := by
  simp only [Clean, tableOffence_iff, List.find?_eq_none]
  constructor
  · intro h entry hentry hforeign
    exact h entry hentry _ ⟨hforeign, rfl⟩
  · intro h entry hentry f hoffence
    exact h entry hentry hoffence.1

theorem ofTable_of_firstOffends (h : FirstOffends TableOffence doc entry f) :
    ofTable homes doc = .error f := by
  obtain ⟨before, after, hdoc, hbefore, hoffence⟩ := h
  obtain ⟨hforeign, rfl⟩ := tableOffence_iff.mp hoffence
  have hfind : doc.find? isForeign = some entry := by
    rw [hdoc, List.find?_append, clean_table_iff.mp hbefore, Option.none_or,
      List.find?_cons_of_pos hforeign]
  rw [ofTable]
  split
  · rename_i hfound
    cases hfind.symm.trans hfound
    rfl
  · rename_i hnone
    cases hfind.symm.trans hnone

theorem tableNamed_of_resolvable (h : Resolvable homes doc)
    (hname : name = dialectTable ∨ name = settingsTable) :
    tableNamed name doc = .ok (entriesIn name doc) := by
  rw [tableNamed, entriesIn]
  cases hv : Dictionary.get? name doc with
  | none => rfl
  | some v =>
    obtain ⟨entries, rfl⟩ := h.tables name hname v hv
    rfl

/-- If no name of a table offends, a document is its two tables. -/
theorem ofTable_of_clean (h : Resolvable homes doc)
    (htables : Clean TableOffence doc) : ofTable homes doc = (do
      let overrides ← overridesOf (entriesIn dialectTable doc)
      let settings ← settingsOf homes (entriesIn settingsTable doc)
      return ⟨overrides, settings.log, settings.logFull, []⟩) := by
  rw [ofTable]
  split
  · rename_i hfound
    cases (clean_table_iff.mp htables).symm.trans hfound
  · rw [tableNamed_of_resolvable h (Or.inl rfl),
      tableNamed_of_resolvable h (Or.inr rfl)]
    rfl

theorem overridesOf_step_eq_error_iff {d : Dictionary Text} :
    (do let o ← override entry.1 entry.2; return d.put o.1 o.2) = Except.error f ↔
      DialectOffence entry f := by
  rw [bind_eq_error_iff, override_eq_error_iff]
  refine or_iff_left ?_
  rintro ⟨o, -, hput⟩
  cases hput

theorem overridesOf_eq_error_iff {entries : Toml.Table} :
    overridesOf entries = .error f ↔
      ∃ entry, FirstOffends DialectOffence entries entry f :=
  foldlM_eq_error_iff fun _ _ _ _ => overridesOf_step_eq_error_iff

theorem exists_overridesOf_eq_ok_iff {entries : Toml.Table} :
    (∃ overrides, overridesOf entries = .ok overrides) ↔
      Clean DialectOffence entries :=
  exists_foldlM_eq_ok_iff fun _ _ _ _ => overridesOf_step_eq_error_iff

theorem settingsOf_eq_error_iff {entries : Toml.Table}
    (h : ∀ entry ∈ entries, LogHomeFound homes entry) :
    settingsOf homes entries = .error f ↔
        ∃ entry, FirstOffends SettingOffence entries entry f :=
  foldlM_eq_error_iff fun entry hentry _ _ => setting_eq_error_iff (h entry hentry)

/-- A document fails with its first offence. -/
theorem ofTable_eq_error_iff (h : Resolvable homes doc) :
    ofTable homes doc = .error f ↔ ∃ entry, FirstOffence doc entry f := by
  constructor
  · intro hf
    rcases clean_or_firstOffends TableOffence doc with htables | ⟨entry, g, hfirst⟩
    · rw [ofTable_of_clean h htables] at hf
      rcases bind_eq_error_iff.mp hf with hoverrides | ⟨overrides, hoverrides, hrest⟩
      · obtain ⟨entry, hfirst⟩ := overridesOf_eq_error_iff.mp hoverrides
        exact ⟨entry, .dialect htables hfirst⟩
      have hdialect := exists_overridesOf_eq_ok_iff.mp ⟨overrides, hoverrides⟩
      rcases bind_eq_error_iff.mp hrest with hsettings | ⟨settings, -, hdone⟩
      · obtain ⟨entry, hfirst⟩ := (settingsOf_eq_error_iff h.home).mp hsettings
        exact ⟨entry, .setting htables hdialect hfirst⟩
      · cases hdone
    · rw [ofTable_of_firstOffends hfirst] at hf
      cases hf
      exact ⟨entry, .table hfirst⟩
  · rintro ⟨entry, hoffence⟩
    cases hoffence with
    | table hfirst => exact ofTable_of_firstOffends hfirst
    | dialect htables hfirst =>
      rw [ofTable_of_clean h htables]
      exact bind_eq_error_iff.mpr
        (Or.inl (overridesOf_eq_error_iff.mpr ⟨entry, hfirst⟩))
    | setting htables hdialect hfirst =>
      rw [ofTable_of_clean h htables]
      obtain ⟨overrides, hoverrides⟩ := exists_overridesOf_eq_ok_iff.mpr hdialect
      have hsettings := (settingsOf_eq_error_iff h.home).mpr ⟨entry, hfirst⟩
      exact bind_eq_error_iff.mpr
        (Or.inr ⟨overrides, hoverrides, bind_eq_error_iff.mpr (Or.inl hsettings)⟩)

/-- The documents that make a configuration are those that may hold what they hold. -/
theorem exists_ofTable_eq_ok_iff (h : Resolvable homes doc) :
    (∃ c, ofTable homes doc = .ok c) ↔ Acceptable doc := by
  have htables : Clean TableOffence doc ↔
      ∀ entry ∈ doc, entry.1 = dialectTable ∨ entry.1 = settingsTable := by
    simp only [clean_table_iff, List.find?_eq_none, isForeign, Bool.not_eq_true,
      Bool.not_eq_false', Bool.or_eq_true, beq_iff_eq]
  have hdialect : Clean DialectOffence (entriesIn dialectTable doc) ↔
      ∀ entry ∈ entriesIn dialectTable doc, FitsDialect entry := by
    simp only [Clean, fitsDialect_iff]
  have hsettings : Clean SettingOffence (entriesIn settingsTable doc) ↔
      ∀ entry ∈ entriesIn settingsTable doc, FitsSettings entry := by
    simp only [Clean, fitsSettings_iff]
  simp only [exists_eq_ok_iff, ne_eq, ofTable_eq_error_iff h]
  constructor
  · intro hnone
    have hcleanTables : Clean TableOffence doc :=
      clean_iff.mpr fun entry f hfirst => hnone f ⟨entry, .table hfirst⟩
    have hcleanDialect : Clean DialectOffence (entriesIn dialectTable doc) :=
      clean_iff.mpr fun entry f hfirst =>
        hnone f ⟨entry, .dialect hcleanTables hfirst⟩
    have hcleanSettings : Clean SettingOffence (entriesIn settingsTable doc) :=
      clean_iff.mpr fun entry f hfirst =>
        hnone f ⟨entry, .setting hcleanTables hcleanDialect hfirst⟩
    exact ⟨htables.mp hcleanTables, hdialect.mp hcleanDialect,
      hsettings.mp hcleanSettings⟩
  · rintro ⟨hacceptedTables, hacceptedDialect, hacceptedSettings⟩ f ⟨entry, hoffence⟩
    cases hoffence with
    | table hfirst => exact hfirst.not_clean (htables.mpr hacceptedTables)
    | dialect _ hfirst => exact hfirst.not_clean (hdialect.mpr hacceptedDialect)
    | setting _ _ hfirst => exact hfirst.not_clean (hsettings.mpr hacceptedSettings)

/-! ## What is told -/

theorem infix_keyShown : key <:+: keyShown key :=
  List.infix_append _ _ _

theorem FirstOffence.offence (h : FirstOffence doc entry f) :
    TableOffence entry f ∨ DialectOffence entry f ∨ SettingOffence entry f := by
  cases h with
  | table hfirst => exact Or.inl hfirst.offends
  | dialect _ hfirst => exact Or.inr (Or.inl hfirst.offends)
  | setting _ _ hfirst => exact Or.inr (Or.inr hfirst.offends)

/-- What is told are the source and then a complaint about the key of the entry. -/
theorem FirstOffence.told (h : FirstOffence doc entry f) :
    (∀ source, f.message source = source ++ Text.ofString ": " ++ f.complaint) ∧
      entry.1 <:+: f.complaint := by
  have hnamed : f.namesSource = true →
      ∀ source, f.message source = source ++ Text.ofString ": " ++ f.complaint := by
    intro hnames source
    rw [Fault.message, if_pos hnames]
  rcases h.offence with htable | hdialect | hsetting
  · cases htable
    exact ⟨hnamed rfl, List.infix_append _ _ _⟩
  · cases hdialect with
    | unknown _ =>
      exact ⟨hnamed rfl, infix_keyShown.trans (List.suffix_append _ _).isInfix⟩
    | notText _ _ =>
      exact ⟨hnamed rfl, infix_keyShown.trans (List.prefix_append _ _).isInfix⟩
    | notSingle _ _ =>
      exact ⟨hnamed rfl, infix_keyShown.trans
        ((List.prefix_append _ _).trans (List.prefix_append _ _)).isInfix⟩
    | notDigits _ _ =>
      exact ⟨hnamed rfl, infix_keyShown.trans
        ((List.prefix_append _ _).trans (List.prefix_append _ _)).isInfix⟩
  · cases hsetting with
    | noPath _ =>
      exact ⟨hnamed rfl, Text.ofString "'", Text.ofString "' requires a path",
        rfl⟩
    | notBoolean _ _ =>
      exact ⟨hnamed rfl, infix_keyShown.trans (List.prefix_append _ _).isInfix⟩
    | unknown _ _ =>
      exact ⟨hnamed rfl, infix_keyShown.trans (List.suffix_append _ _).isInfix⟩

/-- A document makes a configuration exactly if it is acceptable, and the
configuration says what the document says.  Otherwise the first entry that
offends is told, with the source. -/
theorem ofDocument_exact {document : List Char} (hread : Toml.read document = .ok doc)
    (hdoc : Resolvable homes doc) :
    ((∃ c, ofDocument homes document = .ok c) ↔ Acceptable doc) ∧
      (∀ c, ofDocument homes document = .ok c → Says homes doc c) ∧
      (∀ f, ofDocument homes document = .error f ↔
        ∃ entry, FirstOffence doc entry f) ∧
      ∀ entry f, FirstOffence doc entry f →
        (∀ source, f.message source = source ++ Text.ofString ": " ++ f.complaint) ∧
          entry.1 <:+: f.complaint := by
  have hdocument : ofDocument homes document = ofTable homes doc := by
    rw [ofDocument, hread]
  rw [hdocument]
  refine ⟨exists_ofTable_eq_ok_iff hdoc, ?_, ?_, ?_⟩
  · intro c hc
    exact says_of_ofTable hc
  · intro f
    exact ofTable_eq_error_iff hdoc
  · intro entry f hoffence
    exact hoffence.told

/-- Entries under both spellings of a name, and a log path under the home directory. -/
def bothSpellings : Toml.Table :=
  [(dialectTable, .table
      [("redirect-digits", .string ['1', '2']), ("redirect_digits", .string ['3'])]),
    (settingsTable, .table [(logKey, .string "~/l")])]

/-- Three entries that offend, of which the one in the middle comes first. -/
def threeOffences : Toml.Table :=
  [(settingsTable, .table [("verbose", .boolean true)]),
    (dialectTable, .table [("sigil", .string []), ("quote", .string ['x'])])]

theorem resolvable_bothSpellings : Resolvable ⟨"/h", []⟩ bothSpellings where
  tables := by
    rintro _ (rfl | rfl) v hv <;> cases hv <;> exact ⟨_, rfl⟩
  home := by
    intro entry hentry t ht
    cases List.mem_singleton.mp hentry
    cases ht
    exact ⟨_, rfl⟩

theorem resolvable_threeOffences : Resolvable ⟨"/h", []⟩ threeOffences where
  tables := by
    rintro _ (rfl | rfl) v hv <;> cases hv <;> exact ⟨_, rfl⟩
  home := by
    intro entry hentry t ht
    cases List.mem_singleton.mp hentry
    cases ht

theorem acceptable_bothSpellings : Acceptable bothSpellings where
  tables := by
    simp [bothSpellings]
  dialect := by
    refine List.forall_mem_cons.mpr ⟨?_, List.forall_mem_singleton.mpr ?_⟩ <;>
      exact ⟨Or.inr ⟨.redirectDigits, rfl⟩, _,
        rfl, by unfold IsSingleName; decide, by decide⟩
  settings := by
    refine List.forall_mem_singleton.mpr (Or.inl ⟨rfl, _, rfl, ?_⟩)
    decide

/-- The last of two spellings counts, and the dialect is checked before the settings. -/
theorem ofDocument_exact_twoDocuments :
    (∃ c, ofDocument ⟨"/h", []⟩
        "dialect.redirect-digits='12'\ndialect.redirect_digits='3'\nsettings.log='~/l'".toList =
          .ok c ∧ c.overrides.get? Field.redirectDigits.name =
            some (Text.ofString "3")) ∧
      ofDocument ⟨"/h", []⟩
        "settings.verbose=true\ndialect.sigil=''\ndialect.quote='x'".toList =
        .error (.notSingle Field.sigil.name []) := by
  constructor
  · have hread : Toml.read
        "dialect.redirect-digits='12'\ndialect.redirect_digits='3'\nsettings.log='~/l'".toList =
          .ok bothSpellings := by
      cbv
    obtain ⟨haccepted, hsaid, -, -⟩ := ofDocument_exact hread resolvable_bothSpellings
    obtain ⟨c, hc⟩ := haccepted.mpr acceptable_bothSpellings
    refine ⟨c, hc, ?_⟩
    rw [(hsaid c hc).overrides]
    rfl
  · have hread : Toml.read
        "settings.verbose=true\ndialect.sigil=''\ndialect.quote='x'".toList =
          .ok threeOffences := by
      cbv
    obtain ⟨-, -, hfails, -⟩ := ofDocument_exact hread resolvable_threeOffences
    refine (hfails _).mpr ⟨("sigil", .string []), .dialect ?_ ?_⟩
    · exact clean_table_iff.mpr rfl
    · exact ⟨[], [("quote", .string ['x'])], rfl,
        fun _ h => absurd h List.not_mem_nil,
        .notSingle (Or.inr (Or.inl rfl)) (by decide)⟩

end ScriptQuote.Config
