import ScriptQuote.Text.Basic
import Mathlib.Data.List.Chain

/-!
# Marks of two code points

A mark is two code points side by side.  `separate` puts a code point between each two
neighbours that a test picks, which is what breaks up marks in a text.

* `replaceAll_pair` says that replacing a mark by its broken form is such a separation.
* `separate_append` says that a separation looks at neighbours only.
* `separate_separate` makes one separation of two, as long as the first makes no new
  neighbours for the second.
* `isChain_separate` says that no picked neighbours are left, as long as what is put
  between them is picked with nothing.
* `firstAt_append_pair` places the first mark of a text that has none before it.
-/

namespace ScriptQuote.Text

/-! ## Separating neighbours -/

/-- What comes between two neighbours: `e` if `p` picks them, and nothing at an end. -/
def gap (p : CodePoint → CodePoint → Bool) (e : CodePoint) :
    Option CodePoint → Option CodePoint → Text
  | some a, some b => if p a b then [e] else []
  | _, _ => []

/-- Puts `e` between each two neighbours that `p` picks. -/
def separate (p : CodePoint → CodePoint → Bool) (e : CodePoint) : Text → Text
  | [] => []
  | a :: rest => a :: (gap p e (some a) rest.head? ++ separate p e rest)

variable {p q : CodePoint → CodePoint → Bool} {a b e x y : CodePoint} {t rest : Text}

theorem separate_cons_cons (h : p a b = true) :
    separate p e (a :: b :: rest) = a :: e :: separate p e (b :: rest) := by
  simp [separate, gap, h]

theorem separate_cons_of_gap (h : gap p e (some a) rest.head? = []) :
    separate p e (a :: rest) = a :: separate p e rest := by
  rw [separate, h, List.nil_append]

@[simp] theorem head?_separate : (separate p e t).head? = t.head? := by
  cases t <;> rfl

/-- Two texts are separated apart from each other, but for the neighbours where
they meet. -/
theorem separate_append (p : CodePoint → CodePoint → Bool) (e : CodePoint)
    (s t : Text) :
    separate p e (s ++ t) =
      separate p e s ++ gap p e s.getLast? t.head? ++ separate p e t := by
  induction s with
  | nil => rfl
  | cons a s ih =>
    cases s with
    | nil => rfl
    | cons b s =>
      calc separate p e (a :: b :: s ++ t)
          = a :: (gap p e (some a) (some b) ++ separate p e (b :: s ++ t)) := rfl
        _ = a :: (gap p e (some a) (some b) ++
              (separate p e (b :: s) ++ gap p e (b :: s).getLast? t.head? ++
                separate p e t)) := by rw [ih]
        _ = separate p e (a :: b :: s) ++ gap p e (a :: b :: s).getLast? t.head? ++
              separate p e t := by
            rw [List.getLast?_cons_cons]
            simp [separate]

/-- Two separations by the same code point are one, if the first makes no
neighbours that the second would pick. -/
theorem separate_separate
    (h : ∀ x y, p x y = true → q x e = false ∧ q e y = false) (t : Text) :
    separate q e (separate p e t) = separate (fun x y => p x y || q x y) e t := by
  induction t with
  | nil => rfl
  | cons a rest ih =>
    cases rest with
    | nil => rfl
    | cons b rest =>
      by_cases hp : p a b = true
      · obtain ⟨hae, heb⟩ := h a b hp
        rw [separate_cons_cons hp, separate_cons_of_gap (by simp [gap, hae]),
          separate_cons_of_gap (by simp [gap, heb]), ih]
        exact (separate_cons_cons (by rw [hp, Bool.true_or])).symm
      · calc separate q e (separate p e (a :: b :: rest))
            = separate q e (a :: separate p e (b :: rest)) := by
              rw [separate_cons_of_gap (by simp [gap, hp])]
          _ = a :: (gap q e (some a) (some b) ++
                separate q e (separate p e (b :: rest))) := rfl
          _ = a :: (gap (fun x y => p x y || q x y) e (some a) (some b) ++
                separate (fun x y => p x y || q x y) e (b :: rest)) := by
              rw [ih]
              simp [gap, hp]
          _ = separate (fun x y => p x y || q x y) e (a :: b :: rest) := rfl

/-- After a separation no neighbours are picked, if the separator is picked with
nothing. -/
theorem isChain_separate (hl : ∀ x, p x e = false)
    (hr : ∀ y, p e y = false) (t : Text) :
    (separate p e t).IsChain fun x y => p x y = false := by
  induction t with
  | nil => exact List.IsChain.nil
  | cons a rest ih =>
    cases rest with
    | nil => exact List.IsChain.singleton a
    | cons b rest =>
      by_cases hp : p a b = true
      · rw [separate_cons_cons hp, List.isChain_cons_cons, List.isChain_cons]
        exact ⟨hl a, fun y _ => hr y, ih⟩
      · rw [separate_cons_of_gap (by simp [gap, hp]), List.isChain_cons,
          head?_separate]
        refine ⟨?_, ih⟩
        intro y hy
        rw [List.head?_cons, Option.mem_some_iff] at hy
        subst y
        simpa using hp

/-! ## One mark -/

/-- Picks the mark `a` `b`. -/
def isPair (a b x y : CodePoint) : Bool := x == a && y == b

theorem isPair_iff : isPair a b x y = true ↔ x = a ∧ y = b := by
  simp [isPair]

private theorem replaceFrom_pair_second (hab : a ≠ b) (new rest : Text) :
    replaceFrom [a, b] new 0 (b :: rest) = b :: replaceFrom [a, b] new 0 rest := by
  rw [replaceFrom, if_neg]
  simp [hab]

/-- Replacing a mark by its broken form separates its two code points, wherever
they stand side by side. -/
theorem replaceAll_pair (hab : a ≠ b) (t : Text) :
    replaceAll t [a, b] [a, e, b] = separate (isPair a b) e t := by
  show replaceFrom [a, b] [a, e, b] 0 t = separate (isPair a b) e t
  induction t with
  | nil => rfl
  | cons x rest ih =>
    by_cases hx : x = a ∧ ∃ rest', rest = b :: rest'
    · obtain ⟨rfl, rest', rfl⟩ := hx
      rw [separate_cons_cons (isPair_iff.mpr ⟨rfl, rfl⟩), ← ih,
        replaceFrom_pair_second hab, replaceFrom, if_pos (by simp)]
      rfl
    · have hpre : ¬ List.isPrefixOf [a, b] (x :: rest) = true := by
        rw [List.isPrefixOf_iff_prefix]
        rintro ⟨tail, htail⟩
        simp only [List.cons_append, List.cons.injEq, List.nil_append] at htail
        exact hx ⟨htail.1.symm, tail, htail.2.symm⟩
      have hgap : gap (isPair a b) e (some x) rest.head? = [] := by
        cases rest with
        | nil => rfl
        | cons y rest' =>
          have hxy : ¬ isPair a b x y = true := by
            rw [isPair_iff]
            rintro ⟨hxa, rfl⟩
            exact hx ⟨hxa, rest', rfl⟩
          simp [gap, hxy]
      rw [replaceFrom, if_neg hpre, separate_cons_of_gap hgap, ih]

/-! ## Where a mark occurs -/

/-- The piece occurs in the text at index `n` and at no smaller one. -/
def FirstAt (piece t : Text) (n : Nat) : Prop :=
  piece <+: t.drop n ∧ ∀ m, m < n → ¬ piece <+: t.drop m

theorem firstAt_cons {piece : Text} {n : Nat} (hfirst : ¬ piece <+: x :: t)
    (h : FirstAt piece t n) : FirstAt piece (x :: t) (n + 1) := by
  refine ⟨h.1, ?_⟩
  intro m hm
  cases m with
  | zero => exact hfirst
  | succ m => exact h.2 m (by omega)

/-- No mark straddles the end of a text that has none: the first one is the one
put there. -/
theorem firstAt_append_pair (hab : a ≠ b) (h : ¬ [a, b] <:+: t) (rest : Text) :
    FirstAt [a, b] (t ++ [a, b] ++ rest) t.length := by
  induction t with
  | nil => exact ⟨⟨rest, rfl⟩, fun m hm => absurd hm (Nat.not_lt_zero m)⟩
  | cons x t ih =>
    rw [List.cons_append, List.cons_append]
    refine firstAt_cons ?_ (ih fun hin => h (List.infix_cons hin))
    rintro ⟨tail, htail⟩
    cases t with
    | nil =>
      simp only [List.cons_append, List.nil_append, List.cons.injEq] at htail
      exact hab htail.2.1.symm
    | cons y t =>
      simp only [List.cons_append, List.nil_append, List.cons.injEq] at htail
      obtain ⟨rfl, rfl, -⟩ := htail
      exact h ⟨[], t, rfl⟩

/-- A text where no two neighbours are `a` `b` has no mark in it. -/
theorem not_infix_pair (h : t.IsChain fun x y => isPair a b x y = false) :
    ¬ [a, b] <:+: t := by
  intro hin
  have hchain := List.IsChain.infix h hin
  have hpair := List.isChain_pair.mp hchain
  rw [isPair_iff.mpr ⟨rfl, rfl⟩] at hpair
  exact Bool.noConfusion hpair

end ScriptQuote.Text
