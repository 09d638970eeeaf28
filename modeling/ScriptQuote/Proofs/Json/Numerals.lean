import ScriptQuote.Json.Reader
import ScriptQuote.Proofs.Fallible

/-!
# Numerals that are too long

Of the faults that a JSON document can have one is not about its grammar: a
whole number with too many digits.  All those digits stand in the document, one
after the other, so a document that is not long has no such fault
(`fits_of_read`).

The proof goes along the recursion of the readers; `Fits` is what each of them keeps.
-/

namespace ScriptQuote.Json

variable {start length length' : Nat} {s : List Char} {f : Fault}

/-- If the fault is a numeral that is too long, the numeral is among so many
characters. -/
def Fits (length : Nat) (f : Fault) : Prop :=
  ∀ count, f = .numeralTooLong count → Decimal.maxDigits < count ∧ count ≤ length

theorem fits_malformed (length : Nat) (defect : Defect) (left : Nat) :
    Fits length (.malformed defect left) := by
  intro count h
  cases h

theorem Fits.mono (h : Fits length f) (hle : length ≤ length') : Fits length' f := by
  intro count hcount
  obtain ⟨hlong, hfits⟩ := h count hcount
  exact ⟨hlong, Nat.le_trans hfits hle⟩

/-! ## Strings -/

theorem fits_of_readLowHalf (h : readLowHalf s = .error f) : Fits length f := by
  unfold readLowHalf at h
  repeat' split at h
  all_goals
    cases h
  exact fits_malformed length _ _

theorem fits_of_readUnicodeEscape (h : readUnicodeEscape s = .error f) :
    Fits length f := by
  unfold readUnicodeEscape at h
  split at h
  · split at h
    · cases h
      exact fits_malformed length _ _
    split at h
    · cases h
      exact fits_malformed length _ _
    dsimp only at h
    split at h
    · rcases bind_eq_error_iff.mp h with hlow | ⟨low, -, h⟩
      · exact fits_of_readLowHalf hlow
      · split at h <;> cases h
    · cases h
  · cases h
    exact fits_malformed length _ _

/-- A string that cannot be read is malformed itself, or has a fault in a
numeric escape or further on. -/
theorem readString_error_cases (h : readString start s = .error f) :
    (∃ defect left, f = .malformed defect left) ∨
    (∃ rest, readUnicodeEscape rest = .error f) ∨
    ∃ s', s'.length < s.length ∧ readString start s' = .error f := by
  unfold readString at h
  split at h
  · cases h
    exact Or.inl ⟨_, _, rfl⟩
  · cases h
  · cases h
    exact Or.inl ⟨_, _, rfl⟩
  · rename_i rest
    rcases bind_eq_error_iff.mp h with hescape | ⟨x, -, h⟩
    · exact Or.inr (Or.inl ⟨rest, hescape⟩)
    rcases bind_eq_error_iff.mp h with hmore | ⟨more, -, h⟩
    · have hx := x.rest_lt
      exact Or.inr (Or.inr ⟨x.rest, by simp only [List.length_cons]; omega, hmore⟩)
    · cases h
  · rename_i c rest _
    split at h
    · cases h
      exact Or.inl ⟨_, _, rfl⟩
    · rcases bind_eq_error_iff.mp h with hmore | ⟨more, -, h⟩
      · exact Or.inr (Or.inr ⟨rest, by simp only [List.length_cons]; omega, hmore⟩)
      · cases h
  · rename_i c rest _ _ _ _
    split at h
    · cases h
      exact Or.inl ⟨_, _, rfl⟩
    · rcases bind_eq_error_iff.mp h with hmore | ⟨more, -, h⟩
      · exact Or.inr (Or.inr ⟨rest, Nat.lt_succ_self _, hmore⟩)
      · cases h

theorem fits_of_readString {s : List Char} (h : readString start s = .error f) :
    Fits length f := by
  rcases readString_error_cases h with
    ⟨defect, left, rfl⟩ | ⟨rest, hescape⟩ | ⟨s', hshorter, hmore⟩
  · exact fits_malformed length defect left
  · exact fits_of_readUnicodeEscape hescape
  · exact fits_of_readString hmore
termination_by s.length

/-! ## Numbers -/

theorem fits_of_number {negative : Bool} {whole frac : List Char}
    {exponent : Option Int}
    (h : number negative whole frac exponent = .error f) : Fits whole.length f := by
  rw [number] at h
  split at h
  · split at h
    · rename_i hlong
      cases h
      intro count hcount
      cases hcount
      exact ⟨hlong, Nat.le_refl _⟩
    · cases h
  · cases h

theorem fits_of_readUnsigned {negative : Bool} {left : Nat}
    (h : readUnsigned negative s left = .error f) : Fits s.length f := by
  unfold readUnsigned at h
  split at h
  · cases h
    exact fits_malformed _ _ _
  · rename_i c rest
    split at h
    · rcases bind_eq_error_iff.mp h with hnumber | ⟨v, -, h⟩
      · refine (fits_of_number hnumber).mono ?_
        have hdigits := length_spanDigits rest
        simp only [List.length_cons]
        split
        · simp
        · omega
      · cases h
    · cases h
      exact fits_malformed _ _ _

theorem fits_of_readNumber (h : readNumber s = .error f) : Fits s.length f := by
  unfold readNumber at h
  split at h
  · cases h
  · cases h
  · cases h
  · rename_i rest _
    cases hread : readUnsigned true rest ('-' :: rest).length with
    | ok t =>
      rw [hread] at h
      cases h
    | error f' =>
      rw [hread] at h
      cases h
      exact (fits_of_readUnsigned hread).mono (Nat.le_succ _)
  · exact fits_of_readUnsigned h

/-! ## Documents -/

theorem length_skipBlank_lt {c : Char} {rest : List Char}
    (h : skipBlank s = c :: rest) : (skipBlank rest).length < s.length := by
  have hs := length_skipBlank_le s
  have hrest := length_skipBlank_le rest
  rw [h, List.length_cons] at hs
  omega

/-- A value that cannot be read is a string, an object or an array with a fault
in it, or no number. -/
theorem readValue_error_cases (h : readValue s = .error f) :
    (∃ rest, s = '\x22' :: rest ∧ readString s.length rest = .error f) ∨
    (∃ rest, s = '\x7b' :: rest ∧ readMembers (skipBlank rest) = .error f) ∨
    (∃ rest, s = '[' :: rest ∧ readItems (skipBlank rest) = .error f) ∨
    readNumber s = .error f := by
  unfold readValue at h
  split at h
  · rename_i rest
    rcases bind_eq_error_iff.mp h with hstring | ⟨t, -, h⟩
    · exact Or.inl ⟨rest, rfl, hstring⟩
    · cases h
  · rename_i rest
    dsimp only at h
    split at h
    · cases h
    · rcases bind_eq_error_iff.mp h with hmembers | ⟨t, -, h⟩
      · exact Or.inr (Or.inl ⟨rest, rfl, hmembers⟩)
      · cases h
  · rename_i rest
    dsimp only at h
    split at h
    · cases h
    · rcases bind_eq_error_iff.mp h with hitems | ⟨t, -, h⟩
      · exact Or.inr (Or.inr (Or.inl ⟨rest, rfl, hitems⟩))
      · cases h
  · cases h
  · cases h
  · cases h
  · exact Or.inr (Or.inr (Or.inr h))

/-- Items that cannot be read have a fault in the first one, behind it, or in
the further ones. -/
theorem readItems_error_cases (h : readItems s = .error f) :
    readValue s = .error f ∨
    (∃ defect left, f = .malformed defect left) ∨
    ∃ s', s'.length < s.length ∧ readItems s' = .error f := by
  rw [readItems] at h
  rcases bind_eq_error_iff.mp h with hvalue | ⟨v, -, h⟩
  · exact Or.inl hvalue
  dsimp only at h
  split at h
  · cases h
  · rename_i rest hcomma
    rcases bind_eq_error_iff.mp h with hitems | ⟨more, -, h⟩
    · have hrest := length_skipBlank_lt hcomma
      have hv := v.rest_lt
      exact Or.inr (Or.inr ⟨skipBlank rest, by omega, hitems⟩)
    · cases h
  · cases h
    exact Or.inr (Or.inl ⟨_, _, rfl⟩)

/-- Members that cannot be read have a fault in the first key, in its value,
beside these, or in the further members. -/
theorem readMembers_error_cases (h : readMembers s = .error f) :
    (∃ start rest, readString start rest = .error f) ∨
    (∃ defect left, f = .malformed defect left) ∨
    (∃ s', s'.length < s.length ∧ readValue s' = .error f) ∨
    ∃ s', s'.length < s.length ∧ readMembers s' = .error f := by
  unfold readMembers at h
  split at h
  · rename_i rest
    rcases bind_eq_error_iff.mp h with hkey | ⟨k, -, h⟩
    · exact Or.inl ⟨_, _, hkey⟩
    dsimp only at h
    split at h
    · rename_i rest1 hcolon
      have hrest1 := length_skipBlank_lt hcolon
      have hk := k.rest_lt
      rw [List.length_cons]
      rcases bind_eq_error_iff.mp h with hvalue | ⟨v, -, h⟩
      · exact Or.inr (Or.inr (Or.inl ⟨_, by omega, hvalue⟩))
      split at h
      · cases h
      · rename_i rest2 hcomma
        rcases bind_eq_error_iff.mp h with hmembers | ⟨more, -, h⟩
        · have hrest2 := length_skipBlank_lt hcomma
          have hv := v.rest_lt
          exact Or.inr (Or.inr (Or.inr ⟨_, by omega, hmembers⟩))
        · cases h
      · cases h
        exact Or.inr (Or.inl ⟨_, _, rfl⟩)
    · cases h
      exact Or.inr (Or.inl ⟨_, _, rfl⟩)
  · cases h
    exact Or.inr (Or.inl ⟨_, _, rfl⟩)

/-- What the three readers keep on lists of fewer characters. -/
structure ReadersFit (length : Nat) : Prop where
  value : ∀ s f, s.length < length → readValue s = .error f → Fits s.length f
  items : ∀ s f, s.length < length → readItems s = .error f → Fits s.length f
  members : ∀ s f, s.length < length → readMembers s = .error f → Fits s.length f

theorem fits_of_readValue (hfewer : ReadersFit s.length)
    (h : readValue s = .error f) : Fits s.length f := by
  have hbehind : ∀ c rest, s = c :: rest → (skipBlank rest).length < s.length := by
    rintro c rest rfl
    exact Nat.lt_succ_of_le (length_skipBlank_le rest)
  rcases readValue_error_cases h with
    ⟨rest, rfl, hstring⟩ | ⟨rest, hs, hmembers⟩ | ⟨rest, hs, hitems⟩ | hnumber
  · exact fits_of_readString hstring
  · have hlt := hbehind _ rest hs
    exact (hfewer.members _ f hlt hmembers).mono (Nat.le_of_lt hlt)
  · have hlt := hbehind _ rest hs
    exact (hfewer.items _ f hlt hitems).mono (Nat.le_of_lt hlt)
  · exact fits_of_readNumber hnumber

theorem fits_of_readItems (hfewer : ReadersFit s.length)
    (h : readItems s = .error f) : Fits s.length f := by
  rcases readItems_error_cases h with hvalue | ⟨defect, left, rfl⟩ | ⟨s', hlt, hitems⟩
  · exact fits_of_readValue hfewer hvalue
  · exact fits_malformed s.length defect left
  · exact (hfewer.items s' f hlt hitems).mono (Nat.le_of_lt hlt)

theorem fits_of_readMembers (hfewer : ReadersFit s.length)
    (h : readMembers s = .error f) : Fits s.length f := by
  rcases readMembers_error_cases h with
    ⟨start, rest, hkey⟩ | ⟨defect, left, rfl⟩ | ⟨s', hlt, hvalue⟩ |
      ⟨s', hlt, hmembers⟩
  · exact fits_of_readString hkey
  · exact fits_malformed s.length defect left
  · exact (hfewer.value s' f hlt hvalue).mono (Nat.le_of_lt hlt)
  · exact (hfewer.members s' f hlt hmembers).mono (Nat.le_of_lt hlt)

/-- By induction on the number of characters, as what the readers call each
other on is shorter, or a value that starts the items. -/
theorem readersFit (length : Nat) : ReadersFit length := by
  induction length with
  | zero => exact ⟨nofun, nofun, nofun⟩
  | succ length ih =>
    have hfewer : ∀ s : List Char, s.length < length + 1 → ReadersFit s.length := by
      intro s hs
      exact ⟨fun s' f hs' => ih.value s' f (by omega),
        fun s' f hs' => ih.items s' f (by omega),
        fun s' f hs' => ih.members s' f (by omega)⟩
    exact ⟨fun s f hs => fits_of_readValue (hfewer s hs),
      fun s f hs => fits_of_readItems (hfewer s hs),
      fun s f hs => fits_of_readMembers (hfewer s hs)⟩

theorem fits_of_read {doc : List Char} (h : read doc = .error f) :
    Fits doc.length f := by
  unfold read at h
  split at h
  · cases h
    exact fits_malformed _ _ _
  · rcases bind_eq_error_iff.mp h with hvalue | ⟨t, -, h⟩
    · exact (fits_of_readValue (readersFit _) hvalue).mono (length_skipBlank_le doc)
    · split at h
      · cases h
      · cases h
        exact fits_malformed _ _ _

end ScriptQuote.Json
