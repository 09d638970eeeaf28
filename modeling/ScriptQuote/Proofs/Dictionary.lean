import ScriptQuote.Dictionary

/-!
# Dictionaries laid over each other

A dictionary is a list, and nothing in its type says that a key stands in it
once.  `NodupKeys` says it, and both ways of making one keep it.  Such a
dictionary can be laid over another one without a look at the order of either:
`get?_overlay` gives the value of each key, and `keys_overlay` the order that
the keys come in.

The two together are all there is to a dictionary (`eq_of_keys_eq`), and so
laying one over another is associative (`overlay_assoc`) with the order of the
keys and all.
-/

namespace ScriptQuote.Dictionary

variable {α : Type} {d base upper : Dictionary α} {k : Text} {v : α}

/-- Every key occurs at most once. -/
def NodupKeys (d : Dictionary α) : Prop := d.keys.Nodup

theorem nodupKeys_nil : NodupKeys ([] : Dictionary α) := List.nodup_nil

theorem nodupKeys_cons {p : Text × α} :
    NodupKeys (p :: d) ↔ p.1 ∉ keys d ∧ NodupKeys d := List.nodup_cons

theorem get?_cons (p : Text × α) (d : Dictionary α) (k : Text) :
    get? k (p :: d) = if p.1 = k then some p.2 else get? k d := rfl

theorem get?_eq_none_iff : get? k d = none ↔ k ∉ keys d := by
  induction d with
  | nil => exact ⟨fun _ => List.not_mem_nil, fun _ => rfl⟩
  | cons p d ih =>
    rw [get?_cons, keys_cons, List.mem_cons, not_or, ← ih]
    by_cases h : p.1 = k
    · simp [h]
    · simp [h, Ne.symm h]

theorem mem_of_get?_eq_some (h : get? k d = some v) : (k, v) ∈ d := by
  induction d with
  | nil => cases h
  | cons p d ih =>
    rw [get?_cons] at h
    split at h
    · rename_i hk
      cases h
      rw [← hk]
      exact List.mem_cons_self
    · exact List.mem_cons_of_mem p (ih h)

/-- An entry of a dictionary that was put into is the new one or an old one. -/
theorem mem_put {p : Text × α} (h : p ∈ put d k v) : p = (k, v) ∨ p ∈ d := by
  induction d with
  | nil => exact Or.inl (List.mem_singleton.mp h)
  | cons q d ih =>
    obtain ⟨a, b⟩ := q
    by_cases hak : a = k
    · rw [put, if_pos hak] at h
      rcases List.mem_cons.mp h with h | h
      · exact Or.inl h
      · exact Or.inr (List.mem_cons_of_mem _ h)
    · rw [put, if_neg hak] at h
      rcases List.mem_cons.mp h with rfl | h
      · exact Or.inr List.mem_cons_self
      · rcases ih h with h | h
        · exact Or.inl h
        · exact Or.inr (List.mem_cons_of_mem _ h)

theorem nodupKeys_put (h : NodupKeys d) (k : Text) (v : α) :
    NodupKeys (put d k v) := by
  rw [NodupKeys, keys_put]
  split
  · exact h
  · rename_i hk
    refine List.nodup_append.mpr ⟨h, by simp, ?_⟩
    intro a ha b hb hab
    rw [List.mem_singleton.mp hb] at hab
    exact hk (hab ▸ ha)

theorem overlay_cons (base : Dictionary α) (p : Text × α) (upper : Dictionary α) :
    overlay base (p :: upper) = overlay (put base p.1 p.2) upper := rfl

theorem nodupKeys_overlay (h : NodupKeys base) : NodupKeys (overlay base upper) := by
  induction upper generalizing base with
  | nil => exact h
  | cons p upper ih => exact ih (nodupKeys_put h p.1 p.2)

theorem mem_overlay {p : Text × α} (h : p ∈ overlay base upper) :
    p ∈ upper ∨ p ∈ base := by
  induction upper generalizing base with
  | nil => exact Or.inr h
  | cons q upper ih =>
    rcases ih h with h | h
    · exact Or.inl (List.mem_cons_of_mem _ h)
    · rcases mem_put h with rfl | h
      · exact Or.inl List.mem_cons_self
      · exact Or.inr h

/-- The upper dictionary has the say, and the base on the keys that it leaves out. -/
theorem get?_overlay (h : NodupKeys upper) (k : Text) :
    get? k (overlay base upper) = (get? k upper).or (get? k base) := by
  induction upper generalizing base with
  | nil => rfl
  | cons p upper ih =>
    obtain ⟨hp, hupper⟩ := nodupKeys_cons.mp h
    rw [overlay_cons, ih hupper, get?_put, get?_cons]
    by_cases hk : p.1 = k
    · rw [if_pos hk, if_pos hk, get?_eq_none_iff.mpr (hk ▸ hp)]
      rfl
    · rw [if_neg hk, if_neg hk]

/-! ## The order of the keys -/

/-- The keys of the base keep their places, and those that are new follow in the
order of the upper dictionary. -/
theorem keys_overlay (h : NodupKeys upper) :
    keys (overlay base upper) = keys base ++ (keys upper).filter (· ∉ keys base) := by
  induction upper generalizing base with
  | nil => exact (List.append_nil _).symm
  | cons p upper ih =>
    obtain ⟨hp, hupper⟩ := nodupKeys_cons.mp h
    rw [overlay_cons, ih hupper, keys_put, keys_cons]
    by_cases hk : p.1 ∈ keys base
    · rw [if_pos hk, List.filter_cons_of_neg (by simpa using hk)]
    · have hfilter : (keys upper).filter (· ∉ keys base ++ [p.1]) =
          (keys upper).filter (· ∉ keys base) := by
        refine List.filter_congr fun k hmem => ?_
        have hne : k ≠ p.1 := by
          rintro rfl
          exact hp hmem
        simp [hne]
      rw [if_neg hk, hfilter, List.filter_cons_of_pos (by simpa using hk),
        List.append_assoc]
      rfl

/-- Two dictionaries with the same keys in the same order and the same values
are the same. -/
theorem eq_of_keys_eq {e : Dictionary α} (hd : NodupKeys d) (hkeys : keys d = keys e)
    (hget : ∀ k, get? k d = get? k e) : d = e := by
  induction d generalizing e with
  | nil =>
    cases e with
    | nil => rfl
    | cons q e => cases hkeys
  | cons p d ih =>
    cases e with
    | nil => cases hkeys
    | cons q e =>
      have hrest : keys d = keys e := (List.cons.inj hkeys).2
      obtain ⟨hp, hnodup⟩ := nodupKeys_cons.mp hd
      have hvalue := hget p.1
      have hkey : p.1 = q.1 := (List.cons.inj hkeys).1
      rw [get?_cons, get?_cons, if_pos rfl, if_pos hkey.symm] at hvalue
      have hhead : p = q := Prod.ext hkey (Option.some.inj hvalue)
      subst q
      rw [ih hnodup hrest fun k => ?_]
      by_cases hk : p.1 = k
      · -- The first key stands nowhere else.
        subst k
        rw [get?_eq_none_iff.mpr hp, get?_eq_none_iff.mpr (hrest ▸ hp)]
      · have hbehind := hget k
        rwa [get?_cons, get?_cons, if_neg hk, if_neg hk] at hbehind

theorem overlay_assoc (hbase : NodupKeys base) (hd : NodupKeys d)
    (hupper : NodupKeys upper) :
    overlay (overlay base d) upper = overlay base (overlay d upper) := by
  have hover : NodupKeys (overlay d upper) := nodupKeys_overlay hd
  refine eq_of_keys_eq (nodupKeys_overlay (nodupKeys_overlay hbase)) ?_ ?_
  · -- A key is new to the base with `d` over it if it is new to each of the two.
    rw [keys_overlay hupper, keys_overlay hd, keys_overlay hover, keys_overlay hupper,
      List.append_assoc, List.filter_append, List.filter_filter]
    refine congrArg _ (congrArg _ (List.filter_congr fun k _ => ?_))
    by_cases hk : k ∈ keys base <;> simp [hk]
  · intro k
    rw [get?_overlay hupper, get?_overlay hd, get?_overlay hover, get?_overlay hupper,
      Option.or_assoc]

theorem nil_overlay (h : NodupKeys d) : overlay [] d = d := by
  refine eq_of_keys_eq (nodupKeys_overlay nodupKeys_nil) ?_ ?_
  · rw [keys_overlay h]
    exact List.filter_eq_self.mpr (by simp [keys])
  · intro k
    rw [get?_overlay h]
    exact Option.or_none

theorem overlay_self (h : NodupKeys d) : overlay d d = d := by
  refine eq_of_keys_eq (nodupKeys_overlay h) ?_ ?_
  · rw [keys_overlay h, List.filter_eq_nil_iff.mpr (by simp), List.append_nil]
  · intro k
    rw [get?_overlay h, Option.or_self]

end ScriptQuote.Dictionary
