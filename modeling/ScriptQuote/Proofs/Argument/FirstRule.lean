import ScriptQuote.Proofs.Argument.Bareword

/-!
# The rule that a text breaks first

The rules for barewords are of two kinds.  Two are about the opening of a text
and come before the others.  Four are about single positions, and of these the
answer is the one that the least position breaks; a position that breaks several
counts for the first of them.

* What it is to break a rule.  `BreaksAt` says it of a position without the scan: what
  stands before the position is looked up in the text.
* The scan.  `Passed` is what holds wherever the scan has come to: nothing
  before it breaks a rule, and its flag says whether the code point before it is
  the sigil.  `Passed.step` goes one code point further, and `scan_eq_some_iff`
  is what the whole way comes to.
* The answer.  `violation_eq_some_iff` puts the opening before the positions.
  Every reason to quote a text is still there when more stands behind it.
-/

namespace ScriptQuote.Bareword

variable {d : Dialect} {afterSigil : Bool} {c : CodePoint} {v u rest : Text}
  {i : Nat} {r : Rule}

/-! ## What it is to break a rule -/

/-- The text opens with something that may not open a bareword. -/
def OpensForbidden (d : Dialect) (v : Text) : Prop := ∃ c ∈ v[0]?, c ∈ d.barewordFirst

/-- The text opens with the number of a stream, and the marker is right behind it. -/
def OpensRedirection (d : Dialect) (v : Text) : Prop :=
  ∃ c ∈ v[0]?, ∃ m ∈ v[1]?, c ∈ d.redirectDigits ∧ [m] = d.redirectMarker

/-- What the code point `c` breaks behind `before`.  The rules about the opening
are not about single code points. -/
def Breaks (d : Dialect) (before : Option CodePoint) (c : CodePoint) : Rule → Prop
  | .firstChar | .redirection => False
  | .tokenBreak => d.forcesNewToken c = true
  | .quote => d.isSingleQuote c = true ∨ d.isDoubleQuote c = true
  | .escape => [c] = d.escape
  | .variableStart => (∃ b ∈ before, [b] = d.sigil) ∧ d.isVariableStart c = true

/-- What stands before a position. -/
def before? (v : Text) : Nat → Option CodePoint
  | 0 => none
  | i + 1 => v[i]?

/-- Position `i` of the text breaks the rule `r`. -/
def BreaksAt (d : Dialect) (v : Text) (i : Nat) (r : Rule) : Prop :=
  ∃ c ∈ v[i]?, Breaks d (before? v i) c r

/-- The rules in the order in which they are tried. -/
def Rule.order : List Rule :=
  [.firstChar, .redirection, .tokenBreak, .quote, .escape, .variableStart]

/-- Where a rule stands in that order. -/
def Rule.rank (r : Rule) : Nat := order.idxOf r

/-- Position `i` is the least one that breaks any rule, and `r` is the first of
those it breaks. -/
structure BreaksFirst (d : Dialect) (v : Text) (i : Nat) (r : Rule) : Prop where
  broken : BreaksAt d v i r
  least : ∀ j, j < i → ∀ r', ¬ BreaksAt d v j r'
  foremost : ∀ r', r'.rank < r.rank → ¬ BreaksAt d v i r'

theorem Rule.order_rank (r : Rule) : order[r.rank]? = some r := by
  cases r <;> rfl

theorem Rule.rank_inj {r r' : Rule} (h : r.rank = r'.rank) : r = r' := by
  have hsome := congrArg (order[·]?) h
  simpa only [order_rank, Option.some.injEq] using hsome

theorem BreaksAt.lt_length (h : BreaksAt d v i r) : i < v.length := by
  obtain ⟨c, hc, -⟩ := h
  exact (List.getElem?_eq_some_iff.mp hc).1

/-- No position breaks a rule about the opening. -/
theorem not_breaksAt_opening (d : Dialect) (v : Text) (i : Nat) :
    ¬ BreaksAt d v i .firstChar ∧ ¬ BreaksAt d v i .redirection := by
  constructor <;> rintro ⟨c, -, hbreaks⟩ <;> exact hbreaks

/-- There is only one such position, and one such rule. -/
theorem BreaksFirst.unique {i' : Nat} {r' : Rule} (h : BreaksFirst d v i r)
    (h' : BreaksFirst d v i' r') : r = r' := by
  have hi : i = i' := by
    rcases Nat.lt_trichotomy i i' with hlt | heq | hgt
    · exact absurd h.broken (h'.least i hlt r)
    · exact heq
    · exact absurd h'.broken (h.least i' hgt r')
  subst i'
  rcases Nat.lt_trichotomy r.rank r'.rank with hlt | heq | hgt
  · exact absurd h.broken (h'.foremost r hlt)
  · exact Rule.rank_inj heq
  · exact absurd h'.broken (h.foremost r' hgt)

/-! ## The scan -/

theorem breaks_quote_iff {before : Option CodePoint} :
    Breaks d before c .quote ↔ d.isQuote c = true := by
  rw [Dialect.isQuote, Bool.or_eq_true]
  rfl

theorem breaks_escape_iff {before : Option CodePoint} :
    Breaks d before c .escape ↔ d.isEscape c = true := by
  rw [Dialect.isEscape, beq_iff_eq]
  rfl

/-- The flag of the scan stands for the code point before. -/
theorem breaks_variableStart_iff {before : Option CodePoint} :
    Breaks d before c .variableStart ↔
      (before.any d.isSigil && d.isVariableStart c) = true := by
  cases before with
  | none => simp [Breaks]
  | some b =>
    rw [Option.any_some, Bool.and_eq_true, Dialect.isSigil, beq_iff_eq]
    show (∃ a ∈ some b, [a] = d.sigil) ∧ _ ↔ _
    simp only [Option.mem_some_iff, exists_eq_left']

/-- What the scan finds at a code point is broken there. -/
theorem breaks_of_ruleAt {before : Option CodePoint}
    (h : ruleAt d (before.any d.isSigil) c = some r) : Breaks d before c r := by
  unfold ruleAt at h
  split_ifs at h with hbreak hquote hescape hvariable <;> cases h
  · exact hbreak
  · exact breaks_quote_iff.mpr hquote
  · exact breaks_escape_iff.mpr hescape
  · exact breaks_variableStart_iff.mpr hvariable

/-- Where a rule is broken, the scan finds that rule or one that is tried before it. -/
theorem rank_le_of_breaks {before : Option CodePoint} (h : Breaks d before c r) :
    ∃ r', ruleAt d (before.any d.isSigil) c = some r' ∧ r'.rank ≤ r.rank := by
  cases r with
  | firstChar | redirection => exact h.elim
  | tokenBreak => exact ⟨_, if_pos h, by decide⟩
  | quote =>
    rw [ruleAt, if_pos (breaks_quote_iff.mp h)]
    split_ifs <;> exact ⟨_, rfl, by decide⟩
  | escape =>
    rw [ruleAt, if_pos (breaks_escape_iff.mp h)]
    split_ifs <;> exact ⟨_, rfl, by decide⟩
  | variableStart =>
    rw [ruleAt, if_pos (breaks_variableStart_iff.mp h)]
    split_ifs <;> exact ⟨_, rfl, by decide⟩

/-- The scan has come to the place between `u` and `rest`: nothing in `u` breaks
a rule, and the flag says whether `u` ends in the sigil. -/
structure Passed (d : Dialect) (u rest : Text) (afterSigil : Bool) : Prop where
  clean : ∀ j, j < u.length → ∀ r, ¬ BreaksAt d (u ++ rest) j r
  flag : afterSigil = u.getLast?.any d.isSigil

theorem passed_start (d : Dialect) (v : Text) : Passed d [] v false where
  clean j hj := absurd hj (Nat.not_lt_zero j)
  flag := rfl

theorem before?_length_append (u rest : Text) :
    before? (u ++ rest) u.length = u.getLast? := by
  rcases List.eq_nil_or_concat u with rfl | ⟨u, a, rfl⟩
  · rfl
  · simp [before?]

/-- What the next position breaks is read off the next code point and the one
before it. -/
theorem breaksAt_length_append (u : Text) (c : CodePoint) (rest : Text) (r : Rule) :
    BreaksAt d (u ++ c :: rest) u.length r ↔ Breaks d u.getLast? c r := by
  rw [BreaksAt, before?_length_append,
    List.getElem?_append_right (Nat.le_refl _), Nat.sub_self]
  simp

/-- The scan goes on to the next code point if that breaks no rule. -/
theorem Passed.step (h : Passed d u (c :: rest) afterSigil)
    (hc : ruleAt d afterSigil c = none) :
    Passed d (u ++ [c]) rest (d.isSigil c) where
  clean j hj r' := by
    rw [List.append_assoc, List.singleton_append]
    rw [List.length_append, List.length_singleton] at hj
    rcases Nat.lt_or_eq_of_le (Nat.le_of_lt_succ hj) with hlt | rfl
    · exact h.clean j hlt r'
    · rw [breaksAt_length_append]
      intro hbreaks
      obtain ⟨r, hr, -⟩ := rank_le_of_breaks hbreaks
      rw [← h.flag, hc] at hr
      cases hr
  flag := by rw [List.getLast?_concat, Option.any_some]

/-- The scan stops at the first position that breaks a rule. -/
theorem Passed.breaksFirst (h : Passed d u (c :: rest) afterSigil)
    (hc : ruleAt d afterSigil c = some r) :
    BreaksFirst d (u ++ c :: rest) u.length r where
  broken := by
    rw [h.flag] at hc
    exact (breaksAt_length_append u c rest r).mpr (breaks_of_ruleAt hc)
  least := h.clean
  foremost r' hlt hbroken := by
    obtain ⟨r'', hr'', hle⟩ :=
      rank_le_of_breaks ((breaksAt_length_append u c rest r').mp hbroken)
    rw [← h.flag, hc] at hr''
    cases hr''
    omega

/-- A scan that stops has found the first rule that the whole text breaks. -/
theorem exists_breaksFirst_of_scan (h : Passed d u rest afterSigil)
    (hr : scan d afterSigil rest = some r) : ∃ i, BreaksFirst d (u ++ rest) i r := by
  induction rest generalizing u afterSigil with
  | nil => cases hr
  | cons c rest ih =>
    rw [scan] at hr
    cases hc : ruleAt d afterSigil c with
    | some r' =>
      rw [hc, Option.some_or] at hr
      cases hr
      exact ⟨u.length, h.breaksFirst hc⟩
    | none =>
      rw [hc, Option.none_or] at hr
      have hwhole := ih (h.step hc) hr
      rwa [List.append_assoc, List.singleton_append] at hwhole

/-- A scan that does not stop has been everywhere, and no position breaks a rule. -/
theorem not_breaksAt_of_scan (h : Passed d u rest afterSigil)
    (hr : scan d afterSigil rest = none) (i : Nat) (r : Rule) :
    ¬ BreaksAt d (u ++ rest) i r := by
  induction rest generalizing u afterSigil with
  | nil =>
    intro hbroken
    have hi := hbroken.lt_length
    rw [List.append_nil] at hi
    exact h.clean i hi r hbroken
  | cons c rest ih =>
    obtain ⟨hc, hrest⟩ := scan_cons_eq_none_iff.mp hr
    have hwhole := ih (h.step hc) hrest
    rwa [List.append_assoc, List.singleton_append] at hwhole

theorem scan_eq_none_iff : scan d false v = none ↔ ∀ i r, ¬ BreaksAt d v i r := by
  constructor
  · exact not_breaksAt_of_scan (passed_start d v)
  · intro h
    cases hr : scan d false v with
    | none => rfl
    | some r =>
      obtain ⟨i, hi⟩ := exists_breaksFirst_of_scan (passed_start d v) hr
      exact absurd hi.broken (h i r)

theorem scan_eq_some_iff : scan d false v = some r ↔ ∃ i, BreaksFirst d v i r := by
  constructor
  · exact exists_breaksFirst_of_scan (passed_start d v)
  · intro h
    obtain ⟨i, hi⟩ := h
    cases hr : scan d false v with
    | none => exact absurd hi.broken (scan_eq_none_iff.mp hr i r)
    | some r' =>
      obtain ⟨i', hi'⟩ := exists_breaksFirst_of_scan (passed_start d v) hr
      rw [hi.unique hi']

/-- The scan is not about the opening. -/
theorem scan_ne_opening (d : Dialect) (v : Text) :
    scan d false v ≠ some .firstChar ∧ scan d false v ≠ some .redirection := by
  constructor <;> intro hr <;> obtain ⟨i, hi⟩ := scan_eq_some_iff.mp hr
  · exact (not_breaksAt_opening d v i).1 hi.broken
  · exact (not_breaksAt_opening d v i).2 hi.broken

/-! ## The answer -/

/-- The rule that is reported: the one about the opening, then the one about
redirections, then the one that a position breaks first. -/
inductive Reports (d : Dialect) (v : Text) : Rule → Prop
  | firstChar (h : OpensForbidden d v) : Reports d v .firstChar
  | redirection (hfirst : ¬ OpensForbidden d v) (h : OpensRedirection d v) :
      Reports d v .redirection
  | position {i : Nat} {r : Rule} (hfirst : ¬ OpensForbidden d v)
      (hredirection : ¬ OpensRedirection d v)
      (h : BreaksFirst d v i r) : Reports d v r

theorem opensForbidden_cons_iff :
    OpensForbidden d (c :: v) ↔ d.barewordFirst.contains c = true := by
  simp [OpensForbidden]

theorem opensRedirection_iff :
    OpensRedirection d v ↔ opensRedirection d v = true := by
  match v with
  | [] | [c] => simp [OpensRedirection, opensRedirection]
  | c :: m :: rest => simp [OpensRedirection, opensRedirection]

theorem violation_of_opensForbidden (h : OpensForbidden d v) :
    violation d v = some .firstChar := by
  cases v with
  | nil => simp [OpensForbidden] at h
  | cons c v => rw [violation_cons, if_pos (opensForbidden_cons_iff.mp h)]

theorem violation_of_opensRedirection (hfirst : ¬ OpensForbidden d v)
    (h : OpensRedirection d v) : violation d v = some .redirection := by
  cases v with
  | nil => simp [OpensRedirection] at h
  | cons c v =>
    rw [opensForbidden_cons_iff] at hfirst
    rw [violation_cons, if_neg hfirst, if_pos (opensRedirection_iff.mp h)]

theorem violation_of_not_opens (hfirst : ¬ OpensForbidden d v)
    (hredirection : ¬ OpensRedirection d v) : violation d v = scan d false v := by
  cases v with
  | nil => rfl
  | cons c v =>
    rw [opensForbidden_cons_iff] at hfirst
    rw [opensRedirection_iff] at hredirection
    rw [violation_cons, if_neg hfirst, if_neg hredirection]

theorem violation_eq_some_iff : violation d v = some r ↔ Reports d v r := by
  constructor
  · intro h
    by_cases hfirst : OpensForbidden d v
    · rw [violation_of_opensForbidden hfirst] at h
      cases h
      exact .firstChar hfirst
    by_cases hredirection : OpensRedirection d v
    · rw [violation_of_opensRedirection hfirst hredirection] at h
      cases h
      exact .redirection hfirst hredirection
    rw [violation_of_not_opens hfirst hredirection] at h
    obtain ⟨i, hi⟩ := scan_eq_some_iff.mp h
    exact .position hfirst hredirection hi
  · intro h
    cases h with
    | firstChar h => exact violation_of_opensForbidden h
    | redirection hfirst h => exact violation_of_opensRedirection hfirst h
    | position hfirst hredirection h =>
      rw [violation_of_not_opens hfirst hredirection]
      exact scan_eq_some_iff.mpr ⟨_, h⟩

theorem violation_eq_none_iff : violation d v = none ↔
    ¬ OpensForbidden d v ∧ ¬ OpensRedirection d v ∧ ∀ i r, ¬ BreaksAt d v i r := by
  by_cases hfirst : OpensForbidden d v
  · simp [violation_of_opensForbidden hfirst, hfirst]
  by_cases hredirection : OpensRedirection d v
  · simp [violation_of_opensRedirection hfirst hredirection, hredirection]
  rw [violation_of_not_opens hfirst hredirection, scan_eq_none_iff]
  exact ⟨fun h => ⟨hfirst, hredirection, h⟩, fun h => h.2.2⟩

theorem requiresQuoting_iff : requiresQuoting d v = true ↔
    OpensForbidden d v ∨ OpensRedirection d v ∨ ∃ i r, BreaksAt d v i r := by
  rw [requiresQuoting, Option.isSome_iff_ne_none, ne_eq, violation_eq_none_iff]
  simp only [Classical.not_and_iff_not_or_not, Classical.not_not,
    Classical.not_forall]

/-! ## Longer texts -/

theorem mem_getElem?_append (w : Text) (h : c ∈ v[i]?) : c ∈ (v ++ w)[i]? := by
  have hi : i < v.length := (List.getElem?_eq_some_iff.mp h).1
  rwa [List.getElem?_append_left hi]

theorem OpensForbidden.append (h : OpensForbidden d v) (w : Text) :
    OpensForbidden d (v ++ w) := by
  obtain ⟨c, hc, hfirst⟩ := h
  exact ⟨c, mem_getElem?_append w hc, hfirst⟩

theorem OpensRedirection.append (h : OpensRedirection d v) (w : Text) :
    OpensRedirection d (v ++ w) := by
  obtain ⟨c, hc, m, hm, hredirection⟩ := h
  exact ⟨c, mem_getElem?_append w hc, m, mem_getElem?_append w hm, hredirection⟩

theorem before?_append (w : Text) (hi : i < v.length) :
    before? (v ++ w) i = before? v i := by
  cases i with
  | zero => rfl
  | succ i => exact List.getElem?_append_left (Nat.lt_of_succ_lt hi)

theorem BreaksAt.append (h : BreaksAt d v i r) (w : Text) :
    BreaksAt d (v ++ w) i r := by
  have hi := h.lt_length
  obtain ⟨c, hc, hbreaks⟩ := h
  refine ⟨c, mem_getElem?_append w hc, ?_⟩
  rwa [before?_append w hi]

/-- A text that must be quoted must also be quoted when more stands behind it. -/
theorem requiresQuoting_append (h : requiresQuoting d v = true) (w : Text) :
    requiresQuoting d (v ++ w) = true := by
  rw [requiresQuoting_iff] at h ⊢
  rcases h with hfirst | hredirection | ⟨i, r, hbroken⟩
  · exact Or.inl (hfirst.append w)
  · exact Or.inr (Or.inl (hredirection.append w))
  · exact Or.inr (Or.inr ⟨i, r, hbroken.append w⟩)

/-- The rule that is reported is the one of the opening, or else the one that
the least offending position breaks first; none is reported exactly if there is
nothing of the kind.  What must be quoted must also be quoted when more stands
behind it. -/
theorem violation_reports (d : Dialect) :
    (∀ v r, violation d v = some r ↔ Reports d v r) ∧
    (∀ v, violation d v = none ↔
      ¬ OpensForbidden d v ∧ ¬ OpensRedirection d v ∧ ∀ i r, ¬ BreaksAt d v i r) ∧
    ∀ v w, requiresQuoting d v = true → requiresQuoting d (v ++ w) = true := by
  refine ⟨?_, ?_, ?_⟩
  · intro v r
    exact violation_eq_some_iff
  · intro v
    exact violation_eq_none_iff
  · intro v w h
    exact requiresQuoting_append h w

/-- The question mark breaks a rule only because the sigil is before it, and the
blank is too late.  A redirection stays one. -/
theorem violation_reports_powerShell :
    Reports .powerShell "a$? b" .variableStart ∧
      requiresQuoting .powerShell "2>" = true ∧
      requiresQuoting .powerShell (Text.ofString "2>" ++ Text.ofString " x") = true :=
  have hopen : requiresQuoting .powerShell "2>" = true := by decide
  ⟨((violation_reports .powerShell).1 _ _).mp (by decide), hopen,
    (violation_reports .powerShell).2.2 "2>" " x" hopen⟩

end ScriptQuote.Bareword
