import ScriptQuote.Proofs.Config.Document

/-!
# The dialect that overrides make

Overrides are applied one after the other, each by its name.  If they are well
formed, no name is unknown and none comes twice, so the order does not matter:
`dialect_of_wellFormed` says what each entry of the dialect is.  Additional
token breaks are no entry of their own and come behind the others at the end.
-/

namespace ScriptQuote

namespace Dialect.Field

theorem ofName?_name (f : Field) : ofName? f.name = some f := by
  cases f <;> rfl

theorem eq_name_of_ofName? {f : Field} {name : Text} (h : ofName? name = some f) :
    name = f.name := by
  have hbeq := List.find?_some (p := fun g : Field => g.name == name) h
  exact (eq_of_beq hbeq).symm

theorem name_inj {f g : Field} : f.name = g.name ↔ f = g := by
  constructor
  · intro h
    have hg := ofName?_name g
    rw [← h, ofName?_name f] at hg
    exact Option.some.inj hg
  · rintro rfl
    rfl

theorem name_ne_extraTokenBreaks (f : Field) : f.name ≠ Config.extraTokenBreaks := by
  cases f <;> decide

end Dialect.Field

namespace Config

open Dialect (Field powerShell)

variable {name t : Text} {overrides : Dictionary Text}

theorem isDialectKey_iff :
    isDialectKey name = true ↔ name = extraTokenBreaks ∨
      ∃ f : Field, name = f.name := by
  rw [isDialectKey, Bool.or_eq_true, beq_iff_eq, Option.isSome_iff_exists]
  constructor
  · rintro (⟨f, hf⟩ | hextra)
    · exact Or.inr ⟨f, Field.eq_name_of_ofName? hf⟩
    · exact Or.inl hextra
  · rintro (hextra | ⟨f, rfl⟩)
    · exact Or.inr hextra
    · exact Or.inl ⟨f, f.ofName?_name⟩

/-- An override with a known name is applied, and changes at most the entry of
that name. -/
theorem applyOverride_of_isDialectKey (d : Dialect)
    (h : isDialectKey name = true) (t : Text) :
    ∃ d', applyOverride d (name, t) = .ok d' ∧
      ∀ f : Field, d'.get f = if name = f.name then t else d.get f := by
  by_cases hextra : name = extraTokenBreaks
  · refine ⟨d, if_pos hextra, ?_⟩
    intro f
    rw [if_neg (hextra ▸ (f.name_ne_extraTokenBreaks).symm)]
  · rw [isDialectKey, Bool.or_eq_true, beq_iff_eq, or_iff_left hextra,
      Option.isSome_iff_exists] at h
    obtain ⟨g, hg⟩ := h
    refine ⟨d.set g t, ?_, ?_⟩
    · rw [applyOverride, if_neg hextra, hg]
    · intro f
      rw [Dialect.get_set, Field.eq_name_of_ofName? hg]
      by_cases hfg : f = g
      · rw [if_pos hfg, if_pos (Field.name_inj.mpr hfg.symm)]
      · rw [if_neg hfg, if_neg fun hname => hfg (Field.name_inj.mp hname).symm]

/-- Well-formed overrides can be applied, and each entry gets the value under
its name. -/
theorem foldlM_applyOverride (h : WellFormed overrides) (d : Dialect) :
    ∃ d', overrides.foldlM applyOverride d = .ok d' ∧
      ∀ f : Field, d'.get f = (overrides.get? f.name).getD (d.get f) := by
  induction overrides generalizing d with
  | nil => exact ⟨d, rfl, fun f => rfl⟩
  | cons o overrides ih =>
    obtain ⟨hfresh, hnodup⟩ := Dictionary.nodupKeys_cons.mp h.nodup
    have hrest : WellFormed overrides :=
      ⟨hnodup, fun p hp => h.accepted p (List.mem_cons_of_mem o hp)⟩
    obtain ⟨d₁, hstep, hget₁⟩ :=
      applyOverride_of_isDialectKey d (h.accepted o List.mem_cons_self).known o.2
    obtain ⟨d₂, hfold, hget₂⟩ := ih hrest d₁
    refine ⟨d₂, foldlM_cons_eq_ok_iff.mpr ⟨d₁, hstep, hfold⟩, ?_⟩
    intro f
    rw [hget₂, hget₁, Dictionary.get?_cons]
    by_cases hname : o.1 = f.name
    · rw [if_pos hname, if_pos hname,
        Dictionary.get?_eq_none_iff.mpr (hname ▸ hfresh)]
      rfl
    · rw [if_neg hname, if_neg hname]

/-- Well-formed overrides make a dialect.  Its token breaks are followed by the
additional ones, and any other entry is the override under its name, or
PowerShell's if there is none. -/
theorem dialect_of_wellFormed {c : Config} (h : WellFormed c.overrides) :
    ∃ d, c.dialect = .ok d ∧
      (∀ f : Field, f ≠ .tokenBreaks →
        d.get f = (c.overrides.get? f.name).getD (powerShell.get f)) ∧
      d.tokenBreaks =
        (c.overrides.get? Field.tokenBreaks.name).getD powerShell.tokenBreaks ++
          (c.overrides.get? extraTokenBreaks).getD [] := by
  obtain ⟨d, hfold, hget⟩ := foldlM_applyOverride h powerShell
  refine ⟨_, bind_eq_ok_iff.mpr ⟨d, hfold, rfl⟩, ?_, ?_⟩
  · intro f hf
    rw [← hget]
    cases f with
    | tokenBreaks => exact absurd rfl hf
    | _ => rfl
  · show d.get .tokenBreaks ++ _ = _
    rw [hget]
    rfl

/-- An entry is PowerShell's, or a text that may stand under its name. -/
theorem get_of_wellFormed {c : Config} (h : WellFormed c.overrides) {d : Dialect}
    (hd : c.dialect = .ok d) {f : Field} (hf : f ≠ .tokenBreaks) :
    d.get f = powerShell.get f ∨ Accepted f.name (d.get f) := by
  obtain ⟨d', hd', hget, -⟩ := dialect_of_wellFormed h
  rw [hd] at hd'
  cases hd'
  rw [hget f hf]
  cases hv : c.overrides.get? f.name with
  | none => exact Or.inl rfl
  | some v => exact Or.inr (h.accepted _ (Dictionary.mem_of_get?_eq_some hv))

/-- An entry that must be one code point long is. -/
theorem length_get_of_wellFormed {c : Config}
    (h : WellFormed c.overrides) {d : Dialect}
    (hd : c.dialect = .ok d) {f : Field} (hf : f.isSingle = true) :
    (d.get f).length = 1 := by
  rcases get_of_wellFormed h hd (f := f) (by rintro rfl; cases hf) with
    hdefault | haccepted
  · rw [hdefault]
    cases f <;> first | rfl | cases hf
  · exact haccepted.single (by rw [isSingleKey, Field.ofName?_name]; exact hf)

/-- The redirect digits are digits. -/
theorem all_redirectDigits_of_wellFormed {c : Config}
    (h : WellFormed c.overrides) {d : Dialect}
    (hd : c.dialect = .ok d) :
    d.redirectDigits.all CodePoint.isAsciiDigit = true := by
  have hne : Field.redirectDigits ≠ .tokenBreaks := by decide
  change (d.get .redirectDigits).all _ = true
  rcases get_of_wellFormed h hd hne with hdefault | haccepted
  · rw [hdefault]
    rfl
  · exact haccepted.digits rfl

end Config

end ScriptQuote
