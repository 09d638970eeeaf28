import ScriptQuote.Proofs.Config.Priority

/-!
# Configurations by reading and merging

Each document is checked on its own, under the keys as they are spelled in it,
and merging goes by names and checks nothing.  What the checks make sure of
lasts all the same: merging keeps overrides well formed, and well-formed
overrides make a dialect that is regular.

`Made` is what reading and merging can come to, in any order and any number of
steps.  `regularDialect_of_load_or_made` is the result for these configurations
and for those that are loaded.
-/

namespace ScriptQuote

/-- What stands for one code point is one, and the redirect digits are digits. -/
structure Dialect.Regular (d : Dialect) : Prop where
  escape : d.escape.length = 1
  sigil : d.sigil.length = 1
  redirectMarker : d.redirectMarker.length = 1
  redirectDigits : ∀ c ∈ d.redirectDigits, c.isAsciiDigit = true

namespace Config

open Dialect (Field)

variable {c : Config}

/-- A configuration that is read from a document or merged from such. -/
inductive Made : Config → Prop
  | read {homes : Path.Homes} {document : List Char} {c : Config}
      (h : ofDocument homes document = .ok c) : Made c
  | merged {base overlay : Config} (hbase : Made base) (hoverlay : Made overlay) :
      Made (base.merge overlay)

/-- Every override has the name of an entry or of the additional token breaks,
none comes twice, and the overrides make a regular dialect. -/
structure RegularDialect (c : Config) : Prop where
  known : ∀ o ∈ c.overrides, o.1 = extraTokenBreaks ∨ ∃ f : Field, o.1 = f.name
  nodup : c.overrides.NodupKeys
  dialect : ∃ d, c.dialect = .ok d ∧ d.Regular

theorem regularDialect_of_wellFormed (h : WellFormed c.overrides) :
    RegularDialect c where
  known o ho := isDialectKey_iff.mp (h.accepted o ho).known
  nodup := h.nodup
  dialect := by
    obtain ⟨d, hd, -⟩ := dialect_of_wellFormed h
    have hsingle : ∀ f : Field, f.isSingle = true → (d.get f).length = 1 := by
      intro f hf
      exact length_get_of_wellFormed h hd hf
    have hdigits := all_redirectDigits_of_wellFormed h hd
    rw [List.all_eq_true] at hdigits
    exact ⟨d, hd, hsingle .escape rfl, hsingle .sigil rfl,
      hsingle .redirectMarker rfl, hdigits⟩

theorem wellFormed_of_ofDocument {homes : Path.Homes} {document : List Char}
    (h : ofDocument homes document = .ok c) : WellFormed c.overrides := by
  rw [ofDocument] at h
  split at h
  · exact (says_of_ofTable h).wellFormed
  · cases h

/-- The induction is over the steps; the names of the upper overrides stand over
the same ones of the lower, so that merging leaves one of two texts that were
both checked. -/
theorem Made.wellFormed (h : Made c) : WellFormed c.overrides := by
  induction h with
  | read h => exact wellFormed_of_ofDocument h
  | merged _ _ hbase hoverlay => exact hbase.overlay hoverlay

/-- All configurations that are loaded have a regular dialect, and so do all
that are read and merged. -/
theorem regularDialect_of_load_or_made :
    (∀ {s : Surroundings} {t : FileTree} {directory : Place} {c : Config},
      load s t directory = .ok c → RegularDialect c) ∧
    ∀ {c : Config}, Made c → RegularDialect c := by
  constructor
  · intro s t directory c h
    exact regularDialect_of_wellFormed (wellFormed_load h)
  · intro c h
    exact regularDialect_of_wellFormed h.wellFormed

/-- A configuration with some redirect digits. -/
def digitsConfig (t : Text) : Config :=
  ⟨[(Field.redirectDigits.name, t)], none, false, []⟩

theorem made_hyphenated : Made (digitsConfig ['1', '2']) := by
  have hread : Toml.read "dialect.redirect-digits='12'".toList =
      .ok [(dialectTable, .table [("redirect-digits", .string ['1', '2'])])] := by
    cbv
  have hmade : ofDocument ⟨"/h", []⟩ "dialect.redirect-digits='12'".toList =
      .ok (digitsConfig ['1', '2']) := by
    rw [ofDocument, hread]
    rfl
  exact .read hmade

theorem made_underscored : Made (digitsConfig ['3']) := by
  have hread : Toml.read "dialect.redirect_digits='3'".toList =
      .ok [(dialectTable, .table [("redirect_digits", .string ['3'])])] := by
    cbv
  have hmade : ofDocument ⟨"/h", []⟩ "dialect.redirect_digits='3'".toList =
      .ok (digitsConfig ['3']) := by
    rw [ofDocument, hread]
    rfl
  exact .read hmade

/-- The files of three scopes, and two documents that spell one key in two ways. -/
theorem regularDialect_of_load_or_made_spellings :
    (load fromRoot threeScopes [] = .ok threeScopesConfig ∧
      RegularDialect threeScopesConfig) ∧
      Made ((digitsConfig ['1', '2']).merge (digitsConfig ['3'])) ∧
        RegularDialect ((digitsConfig ['1', '2']).merge (digitsConfig ['3'])) := by
  have hmade : Made ((digitsConfig ['1', '2']).merge (digitsConfig ['3'])) :=
    .merged made_hyphenated made_underscored
  exact ⟨⟨load_threeScopes, regularDialect_of_load_or_made.1 load_threeScopes⟩, hmade,
    regularDialect_of_load_or_made.2 hmade⟩

end Config

end ScriptQuote
