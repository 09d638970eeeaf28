import ScriptQuote.Config.Document
import ScriptQuote.Proofs.Config.LastSaid
import ScriptQuote.Proofs.Dictionary
import ScriptQuote.Proofs.Fallible

/-!
# What a document says

A configuration that a document makes says what the document says, and in a document the
last entry under a key counts, hyphens being read as underscores.  `valueIn?` looks that
entry up, with no look at how the tables are read.

There are three groups.

* The dialect table.  `Accepted` is what may stand under a name.  `WellFormed` is what
  all checks together leave of a dialect table: each name once, with a value for it.
* The settings table.  `setting_cases` gives the two kinds of entries.
* The document.  `Says` puts the parts together, and `says_of_ofTable` is the result.
-/

namespace ScriptQuote

namespace Toml.Value

/-- The text that a value is. -/
def text? : Value → Option Text
  | string t => some t
  | _ => none

/-- The truth value that a value is. -/
def truth? : Value → Option Bool
  | boolean b => some b
  | _ => none

/-- The path that a value is, with its home directory filled in. -/
def path? (homes : Path.Homes) (v : Value) : Option Path :=
  v.text?.bind fun t => ((Path.ofText t).expandHome homes).toOption

end Toml.Value

namespace Config

variable {homes : Path.Homes} {key name : Text} {value : Toml.Value}
  {entries doc : Toml.Table}

/-- What an entry says under a key. -/
def sayAt (key : Text) (entry : Text × Toml.Value) : Option Toml.Value :=
  if normalize entry.1 = key then some entry.2 else none

/-! ## The dialect table -/

/-- What a dialect table may say under a name. -/
structure Accepted (name t : Text) : Prop where
  known : isDialectKey name = true
  single : isSingleKey name = true → t.length = 1
  digits : name = Dialect.Field.redirectDigits.name →
    t.all CodePoint.isAsciiDigit = true

/-- An entry is taken exactly if it is a text that may stand under its name. -/
theorem override_eq_ok_iff {o : Text × Text} :
    override key value = .ok o ↔
      ∃ t, value = .string t ∧ Accepted (normalize key) t ∧
        o = (normalize key, t) := by
  constructor
  · intro h
    simp only [override] at h
    split at h
    · rename_i hknown
      split at h
      · rename_i t
        split at h
        · cases h
        · rename_i hsingle
          split at h
          · cases h
          · rename_i hdigits
            cases h
            exact ⟨t, rfl, ⟨hknown, by simpa using hsingle, by simpa using
              hdigits⟩, rfl⟩
      · cases h
    · cases h
  · rintro ⟨t, rfl, ⟨hknown, hsingle, hdigits⟩, rfl⟩
    have hs : (isSingleKey (normalize key) && t.length != 1) = false := by
      simpa using hsingle
    have hd : (normalize key == Dialect.Field.redirectDigits.name &&
        !t.all CodePoint.isAsciiDigit) = false := by
      simpa using hdigits
    simp only [override, hknown, hs, hd, if_true, Bool.false_eq_true, if_false]

/-- Overrides as they come out of dialect tables. -/
structure WellFormed (overrides : Dictionary Text) : Prop where
  nodup : overrides.NodupKeys
  accepted : ∀ o ∈ overrides, Accepted o.1 o.2

theorem wellFormed_nil : WellFormed [] where
  nodup := Dictionary.nodupKeys_nil
  accepted _ ho := absurd ho List.not_mem_nil

theorem WellFormed.put {overrides : Dictionary Text}
    (h : WellFormed overrides) {t : Text}
    (ht : Accepted name t) : WellFormed (overrides.put name t) where
  nodup := Dictionary.nodupKeys_put h.nodup name t
  accepted o ho := by
    rcases Dictionary.mem_put ho with rfl | ho
    · exact ht
    · exact h.accepted o ho

theorem WellFormed.overlay {base upper : Dictionary Text} (hbase : WellFormed base)
    (hupper : WellFormed upper) : WellFormed (base.overlay upper) where
  nodup := Dictionary.nodupKeys_overlay hbase.nodup
  accepted o ho := by
    rcases Dictionary.mem_overlay ho with ho | ho
    · exact hupper.accepted o ho
    · exact hbase.accepted o ho

/-- One entry puts its text under its name. -/
theorem overridesOf_step {d d' : Dictionary Text} {entry : Text × Toml.Value}
    (h : (do let o ← override entry.1 entry.2; return d.put o.1 o.2) = Except.ok d') :
    ∃ t, entry.2 = .string t ∧ Accepted (normalize entry.1) t ∧
      d' = d.put (normalize entry.1) t := by
  obtain ⟨o, ho, hput⟩ := bind_eq_ok_iff.mp h
  obtain ⟨t, hvalue, ht, rfl⟩ := override_eq_ok_iff.mp ho
  cases hput
  exact ⟨t, hvalue, ht, rfl⟩

theorem wellFormed_overridesOf {d : Dictionary Text}
    (h : overridesOf entries = .ok d) : WellFormed d := by
  refine foldlM_induction (R := fun _ d => WellFormed d) wellFormed_nil ?_ h
  intro _ d entry d' hd hstep
  obtain ⟨t, -, ht, rfl⟩ := overridesOf_step hstep
  exact hd.put ht

/-- Under each name stands the text of the last entry. -/
theorem get?_overridesOf {d : Dictionary Text} (h : overridesOf entries = .ok d)
    (name : Text) :
    d.get? name = (lastSaid (sayAt name) entries).bind Toml.Value.text? := by
  refine foldlM_induction
    (R := fun entries d =>
      Dictionary.get? name d = (lastSaid (sayAt name) entries).bind _)
    rfl ?_ h
  intro done d entry d' hd hstep
  obtain ⟨t, hvalue, -, rfl⟩ := overridesOf_step hstep
  rw [Dictionary.get?_put, lastSaid_concat]
  by_cases hname : normalize entry.1 = name
  · rw [if_pos hname, sayAt, if_pos hname, hvalue]
    rfl
  · rw [if_neg hname, sayAt, if_neg hname]
    exact hd

/-! ## The settings table -/

/-- The name of the setting that says where to log. -/
def logKey : Text := "log"

/-- The name of the setting that says whether values are logged. -/
def logFullKey : Text := "log_full"

theorem logKey_ne_logFullKey : logKey ≠ logFullKey := by decide

/-- An entry of a settings table that is taken sets one of the two settings. -/
theorem setting_cases {s s' : Settings} (h : setting homes s key value = .ok s') :
    (normalize key = logKey ∧ ∃ p, value.path? homes = some p ∧
      s' = { s with log := some p }) ∨
      (normalize key = logFullKey ∧
        ∃ b, value.truth? = some b ∧ s' = { s with logFull := b }) := by
  unfold setting at h
  split at h
  · rename_i hkey
    split at h
    · rename_i t
      split at h
      · cases h
      · split at h
        · rename_i p hp
          cases h
          refine Or.inl ⟨hkey, p, ?_, rfl⟩
          rw [Toml.Value.path?, Toml.Value.text?, Option.bind_some, hp]
          rfl
        · cases h
    · cases h
  · split at h
    · rename_i hkey
      split at h
      · rename_i b
        cases h
        exact Or.inr ⟨hkey, b, rfl, rfl⟩
      · cases h
    · cases h

/-- The log path is the one of the last entry for it. -/
theorem log_settingsOf {s : Settings} (h : settingsOf homes entries = .ok s) :
    s.log = (lastSaid (sayAt logKey) entries).bind (Toml.Value.path? homes) := by
  refine foldlM_induction
    (R := fun entries s =>
      Settings.log s = (lastSaid (sayAt logKey) entries).bind _) rfl ?_ h
  intro done s entry s' hs hstep
  rw [lastSaid_concat]
  rcases setting_cases hstep with ⟨hkey, p, hp, rfl⟩ | ⟨hkey, b, -, rfl⟩
  · rw [sayAt, if_pos hkey]
    exact hp.symm
  · have hne : normalize entry.1 ≠ logKey :=
      fun h => logKey_ne_logFullKey (h.symm.trans hkey)
    rw [sayAt, if_neg hne]
    exact hs

/-- Values are logged if the last entry for it says so. -/
theorem logFull_settingsOf {s : Settings} (h : settingsOf homes entries = .ok s) :
    s.logFull = ((lastSaid (sayAt logFullKey) entries).bind
      Toml.Value.truth?).getD false := by
  refine foldlM_induction
    (R := fun entries s =>
      Settings.logFull s = ((lastSaid (sayAt logFullKey) entries).bind _).getD
        false) rfl ?_ h
  intro done s entry s' hs hstep
  rw [lastSaid_concat]
  rcases setting_cases hstep with ⟨hkey, p, -, rfl⟩ | ⟨hkey, b, hb, rfl⟩
  · have hne : normalize entry.1 ≠ logFullKey :=
      fun h => logKey_ne_logFullKey (hkey.symm.trans h)
    rw [sayAt, if_neg hne]
    exact hs
  · rw [sayAt, if_pos hkey]
    show b = (entry.2.truth?).getD false
    rw [hb]
    rfl

/-! ## The document -/

/-- The value of the last entry that a document has under a key in a table. -/
def valueIn? (table key : Text) (doc : Toml.Table) : Option Toml.Value :=
  match Dictionary.get? table doc with
  | some (.table entries) => lastSaid (sayAt key) entries
  | _ => none

theorem valueIn?_of_tableNamed {table : Text} (h : tableNamed table doc = .ok entries)
    (key : Text) : valueIn? table key doc = lastSaid (sayAt key) entries := by
  rw [tableNamed] at h
  rw [valueIn?]
  split at h
  · rename_i hnone
    cases h
    rw [hnone]
    rfl
  · rename_i es hsome
    cases h
    rw [hsome]
  · cases h

/-- A configuration says what a document says. -/
structure Says (homes : Path.Homes) (doc : Toml.Table) (c : Config) : Prop where
  wellFormed : WellFormed c.overrides
  overrides : ∀ name,
    c.overrides.get? name = (valueIn? dialectTable name doc).bind Toml.Value.text?
  log : c.log = (valueIn? settingsTable logKey doc).bind (Toml.Value.path? homes)
  logFull :
    c.logFull = ((valueIn? settingsTable logFullKey doc).bind
      Toml.Value.truth?).getD false
  sources : c.sources = []

theorem says_of_ofTable {c : Config} (h : ofTable homes doc = .ok c) :
    Says homes doc c := by
  rw [ofTable] at h
  split at h
  · cases h
  · obtain ⟨dialectEntries, hdialect, h⟩ := bind_eq_ok_iff.mp h
    obtain ⟨overrides, hoverrides, h⟩ := bind_eq_ok_iff.mp h
    obtain ⟨settingsEntries, hsettings, h⟩ := bind_eq_ok_iff.mp h
    obtain ⟨settings, hs, h⟩ := bind_eq_ok_iff.mp h
    cases h
    refine ⟨wellFormed_overridesOf hoverrides, ?_, ?_, ?_, rfl⟩
    · intro name
      rw [valueIn?_of_tableNamed hdialect]
      exact get?_overridesOf hoverrides name
    · rw [valueIn?_of_tableNamed hsettings]
      exact log_settingsOf hs
    · rw [valueIn?_of_tableNamed hsettings]
      exact logFull_settingsOf hs

end Config

end ScriptQuote
