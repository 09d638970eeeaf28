import ScriptQuote.Text.Basic

/-!
# Dictionaries in order of first mention

Pairs of a key and a value, where a key that is put again keeps its place and takes
the new value.  `get?_put` and `keys_put` say just that.
-/

namespace ScriptQuote

/-- Pairs of keys and values, in order of first mention. -/
abbrev Dictionary (α : Type) := List (Text × α)

namespace Dictionary

variable {α : Type}

/-- The value of a key. -/
def get? (k : Text) : Dictionary α → Option α
  | [] => none
  | (k', v) :: rest => if k' = k then some v else get? k rest

/-- The keys in order. -/
def keys (d : Dictionary α) : List Text := d.map Prod.fst

/-- Gives a key a value: in its place if it has one, at the end if not. -/
def put (d : Dictionary α) (k : Text) (v : α) : Dictionary α :=
  match d with
  | [] => [(k, v)]
  | (k', v') :: rest => if k' = k then (k, v) :: rest else (k', v') :: put rest k v

/-- The dictionary that a sequence of pairs leaves behind. -/
def ofPairs (pairs : List (Text × α)) : Dictionary α :=
  pairs.foldl (fun d p => d.put p.1 p.2) []

/-- Puts every pair of the overlay over the base. -/
def overlay (base upper : Dictionary α) : Dictionary α :=
  upper.foldl (fun d p => d.put p.1 p.2) base

theorem get?_put (d : Dictionary α) (k k' : Text) (v : α) :
    (d.put k v).get? k' = if k = k' then some v else d.get? k' := by
  induction d with
  | nil => simp [put, get?]
  | cons p rest ih =>
    obtain ⟨a, b⟩ := p
    by_cases h : a = k
    · subst h
      by_cases h' : a = k' <;> simp [put, get?, h']
    · by_cases h' : a = k'
      · subst h'
        simp [put, get?, h, Ne.symm h]
      · simp [put, get?, h, h', ih]

theorem keys_cons (p : Text × α) (rest : Dictionary α) :
    keys (p :: rest) = p.1 :: keys rest := rfl

theorem keys_put (d : Dictionary α) (k : Text) (v : α) :
    (d.put k v).keys = if k ∈ d.keys then d.keys else d.keys ++ [k] := by
  induction d with
  | nil => simp [put, keys]
  | cons p rest ih =>
    obtain ⟨a, b⟩ := p
    by_cases h : a = k
    · simp [put, keys_cons, h]
    · by_cases hm : k ∈ keys rest
      · rw [if_pos hm] at ih
        simp [put, keys_cons, h, ih, hm]
      · rw [if_neg hm] at ih
        simp [put, keys_cons, h, ih, Ne.symm h, hm]

end Dictionary

end ScriptQuote
