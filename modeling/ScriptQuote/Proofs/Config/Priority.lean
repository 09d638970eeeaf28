import ScriptQuote.Proofs.Config.Contribution
import ScriptQuote.Proofs.Config.Dialect
import Mathlib

/-!
# Which file counts

A configuration is made of up to three files, and the file of a higher scope is meant to
have the say over those of lower ones.  `Decides` is that rule: the value that counts is
the one of the highest scope that says something.

* Laying a file over a configuration.  `laidOver_of_loadContribution` says what
  one file does to each part; the lemmas below it say what all files do
  together.
* The dialect and the log path follow the rule.
* Logging of values does not: `logFull_load` says that one file asking for it is enough,
  whatever the files of higher scopes say.
-/

namespace ScriptQuote.Config

open Dialect (Field powerShell)

variable {s : Surroundings} {t : FileTree} {directory : Place} {homes : Path.Homes}
  {base c : Config}

/-! ## What a file says -/

/-- The top-level table of the document at a place, if there is one. -/
def document? (t : FileTree) (place : Place) : Option Toml.Table :=
  match Utf8.decode ((t.content? place).getD []) with
  | .error _ => none
  | .ok chars => (Toml.read (Utf8.unifyLineEnds chars)).toOption

namespace Contribution

/-- The value that a file has under a key in a table. -/
def value? (t : FileTree) (table key : Text) (f : Contribution) : Option Toml.Value :=
  (document? t f.place).bind (valueIn? table key)

/-- The text that a file sets an entry of the dialect to. -/
def override? (t : FileTree) (name : Text) (f : Contribution) : Option Text :=
  (f.value? t dialectTable name).bind Toml.Value.text?

/-- The log path that a file sets. -/
def log? (homes : Path.Homes) (t : FileTree) (f : Contribution) : Option Path :=
  (f.value? t settingsTable logKey).bind (Toml.Value.path? homes)

/-- Whether a file says to log values. -/
def logFull? (t : FileTree) (f : Contribution) : Option Bool :=
  (f.value? t settingsTable logFullKey).bind Toml.Value.truth?

end Contribution

/-! ## Laying a file over a configuration -/

theorem loadFile_eq_ok_iff {scope : Scope} {path : Path} {place : Place} :
    loadFile homes t scope path place base = .ok c ↔
      ∃ doc o, document? t place = some doc ∧ ofTable homes doc = .ok o ∧
        c = base.merge { o with sources := [⟨scope.name, path.text⟩] } := by
  rw [loadFile, document?]
  cases Utf8.decode ((t.content? place).getD []) with
  | error e => simp
  | ok chars =>
    simp only [ofDocument]
    cases Toml.read (Utf8.unifyLineEnds chars) with
    | error e => simp [Except.toOption]
    | ok doc =>
      simp only [Except.toOption, Option.some.injEq]
      cases h : ofTable homes doc with
      | error e => simp [h]
      | ok o => simp [h, eq_comm]

/-- What laying a file over a configuration does to each part of it. -/
structure LaidOver (homes : Path.Homes) (t : FileTree) (f : Contribution)
    (base c : Config) : Prop where
  wellFormed : WellFormed base.overrides → WellFormed c.overrides
  overrides : ∀ name, c.overrides.get? name =
    (f.override? t name).or (base.overrides.get? name)
  log : c.log = (f.log? homes t).or base.log
  logFull : c.logFull = ((f.logFull? t).getD false || base.logFull)
  sources : c.sources = base.sources ++ [f.source]

theorem laidOver_of_loadContribution {f : Contribution}
    (h : loadContribution homes t base f = .ok c) : LaidOver homes t f base c := by
  obtain ⟨doc, o, hdoc, ho, rfl⟩ := loadFile_eq_ok_iff.mp h
  have hsays := says_of_ofTable ho
  have hvalue : ∀ table key, f.value? t table key = valueIn? table key doc := by
    intro table key
    rw [Contribution.value?, hdoc, Option.bind_some]
  refine ⟨fun hbase => hbase.overlay hsays.wellFormed, ?_, ?_, ?_, rfl⟩
  · intro name
    rw [Contribution.override?, hvalue, ← hsays.overrides]
    exact Dictionary.get?_overlay hsays.wellFormed.nodup name
  · rw [Contribution.log?, hvalue, ← hsays.log]
    rfl
  · rw [Contribution.logFull?, hvalue, ← hsays.logFull]
    rfl

section Load

variable (h : load s t directory = .ok c)

include h

theorem wellFormed_load : WellFormed c.overrides := by
  refine foldlM_induction (R := fun _ c => WellFormed c.overrides) wellFormed_nil ?_
    (load_eq_ok_iff.mp h).2
  intro _ base f c hbase hstep
  exact (laidOver_of_loadContribution hstep).wellFormed hbase

theorem get?_overrides_load (name : Text) :
    c.overrides.get? name =
      lastSaid (Contribution.override? t name) (contributions s t directory) := by
  refine foldlM_induction
    (R := fun files c => Dictionary.get? name (Config.overrides c) =
      lastSaid (Contribution.override? t name) files) rfl ?_ (load_eq_ok_iff.mp h).2
  intro files base f c hbase hstep
  rw [(laidOver_of_loadContribution hstep).overrides, hbase, lastSaid_concat]

theorem log_load :
    c.log = lastSaid (Contribution.log? s.homes t)
      (contributions s t directory) := by
  refine foldlM_induction
    (R := fun files c =>
      Config.log c = lastSaid (Contribution.log? s.homes t) files) rfl ?_
    (load_eq_ok_iff.mp h).2
  intro files base f c hbase hstep
  rw [(laidOver_of_loadContribution hstep).log, hbase, lastSaid_concat]

/-- One file that says to log values is enough. -/
theorem logFull_load :
    c.logFull = true ↔ ∃ f ∈ contributions s t directory,
      f.logFull? t = some true := by
  refine foldlM_induction
    (R := fun files c => Config.logFull c = true ↔
      ∃ f ∈ files, f.logFull? t = some true)
    (by simp [empty]) ?_ (load_eq_ok_iff.mp h).2
  intro files base f c hbase hstep
  rw [(laidOver_of_loadContribution hstep).logFull, Bool.or_eq_true, hbase,
    Option.getD_eq_iff]
  simp [or_comm, or_and_right, exists_or]

theorem sources_load :
    c.sources = (contributions s t directory).map Contribution.source := by
  refine foldlM_induction
    (R := fun files c => Config.sources c = files.map Contribution.source) rfl ?_
    (load_eq_ok_iff.mp h).2
  intro files base f c hbase hstep
  rw [(laidOver_of_loadContribution hstep).sources, hbase, List.map_append,
    List.map_singleton]

end Load

/-! ## The rule -/

/-- Of the files that contribute and say something, the one of the highest scope
has the say. -/
inductive Decides {α : Type} (s : Surroundings) (t : FileTree) (directory : Place)
    (say : Contribution → Option α) : Option α → Prop
  | highest {f : Contribution} {v : α} (hf : Contributes s t directory f)
      (hv : say f = some v)
      (hhigher : ∀ g, Contributes s t directory g →
        f.scope.rank < g.scope.rank → say g = none) :
      Decides s t directory say (some v)
  | nobody (h : ∀ f, Contributes s t directory f → say f = none) :
      Decides s t directory say none

theorem decides_lastSaid {α : Type} (say : Contribution → Option α) :
    Decides s t directory say (lastSaid say (contributions s t directory)) := by
  cases hsaid : lastSaid say (contributions s t directory) with
  | none =>
    refine .nobody ?_
    intro f hf
    exact lastSaid_eq_none_iff.mp hsaid f (mem_contributions.mpr hf)
  | some v =>
    obtain ⟨before, f, after, hlist, hv, hafter⟩ := lastSaid_eq_some_iff.mp hsaid
    have hf : f ∈ contributions s t directory := by
      rw [hlist]
      exact List.mem_append_right before List.mem_cons_self
    refine .highest (mem_contributions.mp hf) hv ?_
    intro g hg hrank
    have hordered := pairwise_contributions s t directory
    have hmem := mem_contributions.mpr hg
    rw [hlist] at hordered hmem
    -- A file before `f` in the list, or `f` itself, is of no higher scope.
    rcases List.mem_append.mp hmem with hbefore | hmem
    · have := (List.pairwise_append.mp hordered).2.2 g hbefore f List.mem_cons_self
      omega
    · rcases List.mem_cons.mp hmem with rfl | hmem
      · omega
      · exact hafter g hmem

theorem Contributes.eq_of_rank {f g : Contribution} (hf : Contributes s t directory f)
    (hg : Contributes s t directory g) (h : f.scope.rank = g.scope.rank) : f = g := by
  have hscope : g.scope = f.scope := by
    cases hfs : f.scope <;> cases hgs : g.scope <;> rw [hfs, hgs] at h <;>
      first | rfl | cases h
  have hfsome := contributes_iff.mpr ⟨hf, rfl⟩
  rw [contributes_iff.mpr ⟨hg, hscope⟩] at hfsome
  exact (Option.some.inj hfsome).symm

/-- The rule has one answer. -/
theorem Decides.unique {α : Type} {say : Contribution → Option α} {o o' : Option α}
    (h : Decides s t directory say o)
    (h' : Decides s t directory say o') : o = o' := by
  cases h with
  | nobody hnone =>
    cases h' with
    | nobody _ => rfl
    | highest hg hw _ =>
      rw [hnone _ hg] at hw
      cases hw
  | @highest f v hf hv hf' =>
    cases h' with
    | nobody hnone =>
      rw [hnone f hf] at hv
      cases hv
    | @highest g w hg hw hg' =>
      rcases Nat.lt_trichotomy f.scope.rank g.scope.rank with hlt | heq | hlt
      · rw [hf' g hg hlt] at hw
        cases hw
      · rw [← hv, ← hw, hf.eq_of_rank hg heq]
      · rw [hg' f hf hlt] at hv
        cases hv

/-! ## A file in each scope -/

/-- A file with a document in it. -/
def documentNode (document : String) : Node := .file (Utf8.encode document.toList)

/-- The user logs values and adds a token break, the project turns the logging
off, and the environment names a file with other token breaks. -/
def threeScopes : FileTree where
  nodes :=
    [(["h"], .directory), (["h", ".psquote"], .directory),
      (["h", ".psquote", "config.toml"],
        documentNode "settings.log_full=true\ndialect.extra-token-breaks='!'"),
      ([".psquote.toml"], documentNode "settings.log-full=false"),
      (["e"], documentNode "dialect.token_breaks='.'")]

/-- Seen from the root. -/
def fromRoot : Surroundings := ⟨[], ⟨"/h", []⟩, some "e"⟩

/-- What the three files come to. -/
def threeScopesConfig : Config where
  overrides := [(extraTokenBreaks, ['!']), (Field.tokenBreaks.name, ['.'])]
  log := none
  logFull := true
  sources := [⟨"user", "/h/.psquote/config.toml"⟩,
    ⟨"project", "/.psquote.toml"⟩, ⟨"env", "e"⟩]

theorem document?_user : document? threeScopes ["h", ".psquote", "config.toml"] =
    some [(settingsTable, .table [(logFullKey, .boolean true)]),
      (dialectTable, .table [("extra-token-breaks", .string ['!'])])] := by
  cbv

theorem document?_project : document? threeScopes [".psquote.toml"] =
    some [(settingsTable, .table [("log-full", .boolean false)])] := by
  cbv

theorem document?_environment : document? threeScopes ["e"] =
    some [(dialectTable, .table [(Field.tokenBreaks.name, .string ['.'])])] := by
  cbv

theorem load_threeScopes : load fromRoot threeScopes [] = .ok threeScopesConfig := by
  refine load_eq_ok_iff.mpr ⟨?_, ?_⟩
  · intro text htext _
    cases htext
    exact ⟨_, rfl⟩
  · refine foldlM_cons_eq_ok_iff.mpr ⟨_,
      loadFile_eq_ok_iff.mpr ⟨_, _, document?_user, rfl, rfl⟩, ?_⟩
    refine foldlM_cons_eq_ok_iff.mpr
      ⟨_, loadFile_eq_ok_iff.mpr ⟨_, _, document?_project, rfl, rfl⟩, ?_⟩
    refine foldlM_cons_eq_ok_iff.mpr
      ⟨_, loadFile_eq_ok_iff.mpr ⟨_, _, document?_environment, rfl, rfl⟩, ?_⟩
    rfl

/-! ## What counts in a configuration -/

/-- Each entry of the dialect is decided by the rule, and so are the additional
token breaks, which come behind the others.  The sources are the files that
contribute, in the order of the scopes. -/
theorem dialect_load (h : load s t directory = .ok c) :
    (∃ d, c.dialect = .ok d ∧
      (∀ f : Field, f ≠ .tokenBreaks →
        ∃ value, Decides s t directory (Contribution.override? t f.name) value ∧
          d.get f = value.getD (powerShell.get f)) ∧
      ∃ breaks extra,
        Decides s t directory (Contribution.override? t Field.tokenBreaks.name)
          breaks ∧
          Decides s t directory (Contribution.override? t extraTokenBreaks) extra ∧
            d.tokenBreaks = breaks.getD powerShell.tokenBreaks ++ extra.getD []) ∧
    ∃ files : List Contribution, c.sources = files.map Contribution.source ∧
      (∀ f, f ∈ files ↔ Contributes s t directory f) ∧
        files.Pairwise fun f g => f.scope.rank < g.scope.rank := by
  obtain ⟨d, hd, hget, hbreaks⟩ := dialect_of_wellFormed (wellFormed_load h)
  refine ⟨⟨d, hd, ?_, _, _, decides_lastSaid _, decides_lastSaid _, ?_⟩, _,
    sources_load h, fun f => mem_contributions,
    pairwise_contributions s t directory⟩
  · intro f hf
    refine ⟨_, decides_lastSaid _, ?_⟩
    rw [hget f hf, get?_overrides_load h]
  · rw [hbreaks, get?_overrides_load h, get?_overrides_load h]

/-- The token breaks come from one file and the additional ones from a file of a
lower scope. -/
theorem dialect_load_threeScopes :
    load fromRoot threeScopes [] = .ok threeScopesConfig ∧
      (∃ d, threeScopesConfig.dialect = .ok d ∧ d.tokenBreaks = Text.ofString ".!") ∧
      ∃ files : List Contribution, threeScopesConfig.sources =
        files.map Contribution.source ∧
        (∀ f, f ∈ files ↔ Contributes fromRoot threeScopes [] f) ∧
          files.Pairwise fun f g => f.scope.rank < g.scope.rank := by
  refine ⟨load_threeScopes, ?_, (dialect_load load_threeScopes).2⟩
  obtain ⟨d, hd, -⟩ := (dialect_load load_threeScopes).1
  refine ⟨d, hd, ?_⟩
  cases hd
  rfl

/-- The rule decides where to log.  Values are logged if any file says so, which
is what the rule says unless the file that has the say is against it and another
one for it. -/
theorem settings_load (h : load s t directory = .ok c) :
    Decides s t directory (Contribution.log? s.homes t) c.log ∧
      (c.logFull = true ↔ ∃ f, Contributes s t directory f ∧
        f.logFull? t = some true) ∧
      ∀ value, Decides s t directory (Contribution.logFull? t) value →
        (c.logFull = value.getD false ↔
          ¬ (value = some false ∧ ∃ f, Contributes s t directory f ∧
            f.logFull? t = some true)) := by
  have hlog : Decides s t directory (Contribution.log? s.homes t) c.log :=
    log_load h ▸ decides_lastSaid _
  have hfull : c.logFull = true ↔ ∃ f, Contributes s t directory f ∧
      f.logFull? t = some true := by
    simp only [logFull_load h, mem_contributions]
  refine ⟨hlog, hfull, ?_⟩
  intro value hvalue
  rw [← hfull]
  cases hvalue with
  | nobody hnone =>
    have hoff : c.logFull = false := by
      rw [Bool.eq_false_iff, Ne, hfull]
      rintro ⟨f, hf, htrue⟩
      rw [hnone f hf] at htrue
      cases htrue
    simp [hoff]
  | @highest f v hf hv _ =>
    cases v with
    | true => simp [hfull.mpr ⟨f, hf, hv⟩]
    | false => simp

theorem settings_load_threeScopes :
    load fromRoot threeScopes [] = .ok threeScopesConfig ∧
      Decides fromRoot threeScopes []
        (Contribution.log? fromRoot.homes threeScopes) none ∧
      ∃ f, Contributes fromRoot threeScopes [] f ∧
        f.logFull? threeScopes = some true :=
  ⟨load_threeScopes, (settings_load load_threeScopes).1,
    (settings_load load_threeScopes).2.1.mp rfl⟩

/-- The project says not to log values and has the say, and values are logged
all the same. -/
theorem logFull_ne_decided :
    load fromRoot threeScopes [] = .ok threeScopesConfig ∧
      Decides fromRoot threeScopes [] (Contribution.logFull? threeScopes)
        (some false) ∧
      threeScopesConfig.logFull = true := by
  refine ⟨load_threeScopes, ?_, rfl⟩
  have henvironment : Contribution.logFull? threeScopes
      ⟨.environment, ⟨.relative, ["e"]⟩, ["e"]⟩ = none := by
    rw [Contribution.logFull?, Contribution.value?, document?_environment]
    rfl
  have hproject : Contribution.logFull? threeScopes
      ⟨.project, ⟨.root, [".psquote.toml"]⟩, [".psquote.toml"]⟩ = some false := by
    rw [Contribution.logFull?, Contribution.value?, document?_project]
    rfl
  have hlast : lastSaid (Contribution.logFull? threeScopes)
      (contributions fromRoot threeScopes []) = some false := by
    have hlist : contributions fromRoot threeScopes [] =
        [⟨.user, ⟨.root, ["h", ".psquote", "config.toml"]⟩,
          ["h", ".psquote", "config.toml"]⟩] ++
          [⟨.project, ⟨.root, [".psquote.toml"]⟩, [".psquote.toml"]⟩] ++
            [⟨.environment, ⟨.relative, ["e"]⟩, ["e"]⟩] := rfl
    rw [hlist, lastSaid_concat, henvironment, Option.none_or,
      lastSaid_concat, hproject]
    rfl
  exact hlast ▸ decides_lastSaid _

end ScriptQuote.Config
