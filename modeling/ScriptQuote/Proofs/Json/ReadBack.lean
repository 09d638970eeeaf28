import ScriptQuote.Json.Reader
import ScriptQuote.Json.Writer

/-!
# Reading back what was written

The writer spells every text in ASCII, and a code point beyond 65535 as two
surrogates.  The reader joins the two again, but it cannot tell them from two
code points of the text that are surrogates themselves and stand side by side
(`joinHalves`).

* Spellings.  There are four ways in which a code point is spelled
  (`spelling_writtenChar`).
* Strings.  One lemma for each of them takes a code point off the front, and
  `readString_of_spelled` goes through a whole string, whatever follows its
  closing quote.
* Objects.  `readMembers_last` and `readMembers_more` take members off the front.
  `read_write_object` is the result, for lines with an object whose values read back
  (`ReadsBack`); strings do.
-/

namespace ScriptQuote.Json

open CodePoint (ofChar)

/-! ## Hexadecimal words -/

/-- The four hexadecimal digits of a number below 65536. -/
def word (n : Nat) : List Char :=
  [(n / 4096).digitChar, (n / 256 % 16).digitChar, (n / 16 % 16).digitChar,
    (n % 16).digitChar]

/-- The last digit comes off the end, unless it is the only one. -/
theorem padded_succ_succ (width n : Nat) :
    Hexadecimal.padded (width + 2) n =
      Hexadecimal.padded (width + 1) (n / 16) ++ [ofChar (n % 16).digitChar] := by
  unfold Hexadecimal.padded
  rw [Nat.toDigits_eq_if (n := n) (by decide)]
  split
  · have hzero : n / 16 = 0 := Nat.div_eq_of_lt ‹_›
    have hzeroDigits : Nat.toDigits 16 0 = ['0'] := rfl
    rw [hzero, hzeroDigits, Nat.mod_eq_of_lt ‹_›]
    simp [List.replicate_succ']
  · simp

theorem unitEscape_eq {n : Nat} (h : n < 65536) :
    unitEscape n = ('\\' :: 'u' :: word n).map ofChar := by
  have hpadded : Hexadecimal.padded 1 (n / 16 / 16 / 16) =
      [ofChar (n / 16 / 16 / 16).digitChar] := by
    rw [Hexadecimal.padded, Nat.toDigits_of_lt_base (by omega)]
    rfl
  rw [unitEscape, padded_succ_succ, padded_succ_succ, padded_succ_succ, hpadded]
  simp only [Nat.div_div_eq_div_mul]
  rfl

theorem hexDigit?_digitChar {k : Nat} (h : k < 16) :
    hexDigit? k.digitChar = some k := by
  revert h k
  decide

theorem hexWord?_word {n : Nat} (h : n < 65536) :
    hexWord? (n / 4096).digitChar (n / 256 % 16).digitChar (n / 16 % 16).digitChar
      (n % 16).digitChar = some n := by
  rw [hexWord?, hexDigit?_digitChar (by omega), hexDigit?_digitChar (by omega),
    hexDigit?_digitChar (by omega), hexDigit?_digitChar (by omega)]
  refine congrArg some ?_
  omega

/-! ## Spellings -/

/-- The number of the first half of a code point beyond 65535. -/
def highHalf (c : CodePoint) : Nat := 0xD800 + (c.val - 0x10000) / 0x400

/-- The number of the second half of a code point beyond 65535. -/
def lowHalf (c : CodePoint) : Nat := 0xDC00 + (c.val - 0x10000) % 0x400

theorem isHighSurrogate_iff {n : Nat} :
    isHighSurrogate n = true ↔ 0xD800 ≤ n ∧ n ≤ 0xDBFF := by
  simp [isHighSurrogate]

theorem isLowSurrogate_iff {n : Nat} :
    isLowSurrogate n = true ↔ 0xDC00 ≤ n ∧ n ≤ 0xDFFF := by
  simp [isLowSurrogate]

theorem isHighSurrogate_highHalf (c : CodePoint) :
    isHighSurrogate (highHalf c) = true := by
  have := c.isLt
  rw [isHighSurrogate_iff, highHalf]
  omega

theorem isLowSurrogate_lowHalf (c : CodePoint) :
    isLowSurrogate (lowHalf c) = true := by
  rw [isLowSurrogate_iff, lowHalf]
  omega

theorem highHalf_lt (c : CodePoint) : highHalf c < 65536 := by
  have := isHighSurrogate_iff.mp (isHighSurrogate_highHalf c)
  omega

theorem lowHalf_lt (c : CodePoint) : lowHalf c < 65536 := by
  have := isLowSurrogate_iff.mp (isLowSurrogate_lowHalf c)
  omega

/-- The ways in which a code point is spelled in a string. -/
inductive Spelling : CodePoint → List Char → Prop
  | plain {a : Char} (hquote : a ≠ '\x22') (hslash : a ≠ '\\') (h : 0x20 ≤ a.toNat) :
      Spelling (ofChar a) [a]
  | letter {e x : Char} (h : simpleEscape? e = some x) (hu : e ≠ 'u') :
      Spelling (ofChar x) ['\\', e]
  | unit {c : CodePoint} (h : c.val < 0x10000) :
      Spelling c ('\\' :: 'u' :: word c.val)
  | pair {c : CodePoint} (h : 0x10000 ≤ c.val) :
      Spelling c ('\\' :: 'u' :: word (highHalf c) ++ '\\' :: 'u' :: word (lowHalf c))

theorem spelling_writtenChar (c : CodePoint) :
    ∃ cs, Spelling c cs ∧ writtenChar c = cs.map ofChar := by
  have letter : ∀ (e x : Char), simpleEscape? e = some x → e ≠ 'u' → c = ofChar x →
      ∃ cs, Spelling c cs ∧ [ofChar '\\', ofChar e] = cs.map ofChar := by
    rintro e x h hu rfl
    exact ⟨_, .letter h hu, rfl⟩
  unfold writtenChar
  split
  · exact letter '\x22' '\x22' rfl (by decide) (beq_iff_eq.mp ‹_›)
  split
  · exact letter '\\' '\\' rfl (by decide) (beq_iff_eq.mp ‹_›)
  split
  · exact letter 'n' '\n' rfl (by decide) (beq_iff_eq.mp ‹_›)
  split
  · exact letter 'r' '\r' rfl (by decide) (beq_iff_eq.mp ‹_›)
  split
  · exact letter 't' '\t' rfl (by decide) (beq_iff_eq.mp ‹_›)
  split
  · exact letter 'f' '\x0c' rfl (by decide) (beq_iff_eq.mp ‹_›)
  split
  · exact letter 'b' '\x08' rfl (by decide) (beq_iff_eq.mp ‹_›)
  split
  · rename_i hquote hslash _ _ _ _ _ hvisible
    have hchar : c.toChar?.isSome := by
      rw [CodePoint.toChar?, dif_pos (by omega)]
      rfl
    obtain ⟨a, ha⟩ := Option.isSome_iff_exists.mp hchar
    obtain rfl := CodePoint.toChar?_eq_some_iff.mp ha
    simp only [beq_iff_eq, CodePoint.ofChar_inj] at hquote hslash
    exact ⟨_, .plain hquote hslash hvisible.1, rfl⟩
  split
  · exact ⟨_, .unit ‹_›, unitEscape_eq ‹_›⟩
  · refine ⟨_, .pair (Nat.not_lt.mp ‹_›), ?_⟩
    rw [List.map_append, ← unitEscape_eq (highHalf_lt c),
      ← unitEscape_eq (lowHalf_lt c)]
    rfl

/-- The ways in which a text is spelled in a string. -/
inductive Spelled : Text → List Char → Prop
  | nil : Spelled [] []
  | cons {c : CodePoint} {t : Text} {cs s : List Char} (hc : Spelling c cs)
      (ht : Spelled t s) : Spelled (c :: t) (cs ++ s)

theorem spelled_flatMap (t : Text) :
    ∃ s, Spelled t s ∧ t.flatMap writtenChar = s.map ofChar := by
  induction t with
  | nil => exact ⟨[], .nil, rfl⟩
  | cons c t ih =>
    obtain ⟨cs, hc, hwritten⟩ := spelling_writtenChar c
    obtain ⟨s, hs, hrest⟩ := ih
    exact ⟨cs ++ s, .cons hc hs, by rw [List.flatMap_cons, hwritten, hrest,
      List.map_append]⟩

/-! ## Strings -/

/-- The text with every two surrogates that make a pair read as one code point. -/
def joinHalves : Text → Text
  | a :: b :: rest =>
    if isHighSurrogate a.val && isLowSurrogate b.val then
      joinSurrogates a.val b.val :: joinHalves rest
    else a :: joinHalves (b :: rest)
  | t => t

theorem joinHalves_eq_self {t : Text} (h : ∀ c ∈ t, c.isSurrogate = false) :
    joinHalves t = t := by
  induction t with
  | nil => rfl
  | cons a t ih =>
    have hrest := ih fun c hc => h c (List.mem_cons_of_mem a hc)
    cases t with
    | nil => rfl
    | cons b t =>
      have hhigh : isHighSurrogate a.val = false := by
        have ha := h a List.mem_cons_self
        rw [Bool.eq_false_iff, Ne, isHighSurrogate_iff]
        simp only [CodePoint.isSurrogate, Bool.and_eq_false_iff,
          decide_eq_false_iff_not] at ha
        omega
      rw [joinHalves, hhigh, hrest]
      rfl

/-- A reader takes a value off the front and leaves the rest. -/
def Takes {α : Type} {s : List Char} (r : Except Fault (Taken α s)) (v : α)
    (rest : List Char) : Prop :=
  ∃ h, r = .ok ⟨v, rest, h⟩

section Strings

variable {start : Nat} {s rest : List Char} {t : Text} {c : CodePoint}

theorem codeUnit_val (c : CodePoint) : codeUnit c.val = c := by
  rw [codeUnit, CodePoint.ofNat?_eq_some.mpr rfl]
  rfl

theorem joinSurrogates_halves (h : 0x10000 ≤ c.val) :
    joinSurrogates (highHalf c) (lowHalf c) = c := by
  have hval : 0x10000 + (highHalf c - 0xD800) * 0x400 +
      (lowHalf c - 0xDC00) = c.val := by
    unfold highHalf lowHalf
    omega
  rw [joinSurrogates, hval, codeUnit_val]

theorem readString_closing : Takes (readString start ('\x22' :: rest)) [] rest := by
  rw [readString]
  exact ⟨_, rfl⟩

theorem readString_plain {a : Char} (hquote : a ≠ '\x22') (hslash : a ≠ '\\')
    (h : 0x20 ≤ a.toNat) (ht : Takes (readString start s) t rest) :
    Takes (readString start (a :: s)) (ofChar a :: t) rest := by
  obtain ⟨_, ht⟩ := ht
  rw [readString, if_neg (by omega), ht]
  · exact ⟨_, rfl⟩
  all_goals
    intros
    contradiction

theorem readString_letter {e x : Char} (h : simpleEscape? e = some x) (hu : e ≠ 'u')
    (ht : Takes (readString start s) t rest) :
    Takes (readString start ('\\' :: e :: s)) (ofChar x :: t) rest := by
  obtain ⟨_, ht⟩ := ht
  rw [readString, h]
  · simp only [ht]
    exact ⟨_, rfl⟩
  · exact hu

theorem readString_numeric {s' : List Char} (hc : Takes (readUnicodeEscape s) c s')
    (ht : Takes (readString start s') t rest) :
    Takes (readString start ('\\' :: 'u' :: s)) (c :: t) rest := by
  obtain ⟨_, hc⟩ := hc
  obtain ⟨_, ht⟩ := ht
  rw [readString, hc]
  simp only [bind, Except.bind, ht]
  exact ⟨_, rfl⟩

/-- Only a number for the second half of a pair counts as one. -/
theorem readLowHalf_of_spelling {cs : List Char} (hc : Spelling c cs)
    (hlow : isLowSurrogate c.val = false) (hs : s ≠ []) :
    readLowHalf (cs ++ s) = .ok none := by
  cases hc with
  | plain _ hslash _ =>
    rw [readLowHalf]
    rintro _ _ _ _ _ h
    exact hslash (List.cons.inj h).1
  | letter _ hu =>
    rw [readLowHalf]
    rintro _ _ _ _ _ h
    exact hu (List.cons.inj (List.cons.inj h).2).1
  | unit h =>
    simp only [word, List.cons_append, List.nil_append, readLowHalf, hexWord?_word h]
    simp [hs, hlow]
  | pair h =>
    have hhigh : isLowSurrogate (highHalf c) = false := by
      have := (isHighSurrogate_iff.mp (isHighSurrogate_highHalf c)).2
      rw [Bool.eq_false_iff, Ne, isLowSurrogate_iff]
      omega
    simp only [word, List.cons_append, List.nil_append, readLowHalf,
      hexWord?_word (highHalf_lt c)]
    simp [hhigh]

theorem readUnicodeEscape_unit (hc : c.val < 0x10000) (hs : s ≠ [])
    (h : isHighSurrogate c.val = true → readLowHalf s = .ok none) :
    Takes (readUnicodeEscape (word c.val ++ s)) c s := by
  simp only [word, List.cons_append, List.nil_append, readUnicodeEscape,
    hexWord?_word hc]
  rw [if_neg (by simpa using hs)]
  simp only [codeUnit_val]
  split
  · rw [h ‹_›]
    exact ⟨_, rfl⟩
  · exact ⟨_, rfl⟩

theorem readUnicodeEscape_pair {high low : Nat} (hhigh : isHighSurrogate high = true)
    (hlow : isLowSurrogate low = true) (hs : s ≠ []) :
    Takes (readUnicodeEscape (word high ++ '\\' :: 'u' :: (word low ++ s)))
      (joinSurrogates high low) s := by
  have hhighWord : high < 65536 := by
    have := isHighSurrogate_iff.mp hhigh
    omega
  have hlowWord : low < 65536 := by
    have := isLowSurrogate_iff.mp hlow
    omega
  simp only [word, List.cons_append, List.nil_append, readUnicodeEscape,
    hexWord?_word hhighWord, readLowHalf, hexWord?_word hlowWord]
  simp only [List.isEmpty_cons, Bool.false_eq_true, if_false, if_true, hhigh,
    List.isEmpty_iff, hs, hlow]
  exact ⟨_, rfl⟩

theorem readString_spelling {cs : List Char} (hc : Spelling c cs) (hs : s ≠ [])
    (hnext : isHighSurrogate c.val = true → readLowHalf s = .ok none)
    (ht : Takes (readString start s) t rest) :
    Takes (readString start (cs ++ s)) (c :: t) rest := by
  cases hc with
  | plain hquote hslash h => exact readString_plain hquote hslash h ht
  | letter h hu => exact readString_letter h hu ht
  | unit h => exact readString_numeric (readUnicodeEscape_unit h hs hnext) ht
  | pair h =>
    have hpair := readUnicodeEscape_pair (isHighSurrogate_highHalf c)
      (isLowSurrogate_lowHalf c) hs
    rw [joinSurrogates_halves h] at hpair
    rw [List.append_assoc]
    exact readString_numeric hpair ht

theorem Spelling.eq_of_isSurrogate {cs : List Char} (hc : Spelling c cs)
    (h : c.isSurrogate = true) : cs = '\\' :: 'u' :: word c.val := by
  simp only [CodePoint.isSurrogate, Bool.and_eq_true, decide_eq_true_eq] at h
  have hchar : ∀ a : Char, c ≠ ofChar a := by
    rintro a rfl
    have hvalid : a.toNat < 0xD800 ∨ 0xDFFF < a.toNat ∧ a.toNat < 0x110000 := a.valid
    simp only [ofChar] at h
    omega
  cases hc with
  | plain => exact absurd rfl (hchar _)
  | letter => exact absurd rfl (hchar _)
  | unit => rfl
  | pair => omega

/-- A string reads back with its surrogates joined, whatever follows.  The
induction is on the length, since a first half of a pair is read with the code
point behind it. -/
theorem readString_of_spelled (h : Spelled t s) (rest : List Char) :
    Takes (readString start (s ++ '\x22' :: rest)) (joinHalves t) rest := by
  induction hlength : t.length using Nat.strongRecOn generalizing t s with
  | ind n ih =>
    cases h with
    | nil => exact readString_closing
    | @cons a t ca s ha h =>
      cases h with
      | nil =>
        rw [List.append_nil]
        refine readString_spelling ha (by simp) ?_ readString_closing
        intro _
        rw [readLowHalf]
        rintro _ _ _ _ _ hquote
        exact absurd (List.cons.inj hquote).1 (by decide)
      | @cons b t cb s hb h =>
        simp only [List.length_cons] at hlength
        cases hjoin : isHighSurrogate a.val && isLowSurrogate b.val with
        | true =>
          obtain ⟨hhigh, hlow⟩ := Bool.and_eq_true_iff.mp hjoin
          have := isHighSurrogate_iff.mp hhigh
          have := isLowSurrogate_iff.mp hlow
          obtain rfl := ha.eq_of_isSurrogate (by simp [CodePoint.isSurrogate]; omega)
          obtain rfl := hb.eq_of_isSurrogate (by simp [CodePoint.isSurrogate]; omega)
          have hrest := ih t.length (by omega) h rfl
          rw [joinHalves, if_pos hjoin]
          simp only [List.cons_append]
          exact readString_numeric (readUnicodeEscape_pair hhigh hlow (by simp)) hrest
        | false =>
          have hrest := ih (b :: t).length (by simp; omega) (.cons hb h) rfl
          rw [joinHalves, if_neg (by rw [hjoin]; exact Bool.false_ne_true),
            List.append_assoc]
          refine readString_spelling ha (by simp) ?_ hrest
          intro hhigh
          rw [hhigh, Bool.true_and] at hjoin
          rw [List.append_assoc]
          exact readLowHalf_of_spelling hb hjoin (by simp)

end Strings

/-! ## Objects -/

section Objects

variable {k : Text} {v : Value} {ks vs s rest : List Char}
  {members : List (Text × Value)}

/-- The last member of an object. -/
theorem readMembers_last (hk : Spelled k ks)
    (hv : Takes (readValue (skipBlank vs)) v ('\x7d' :: rest)) :
    Takes (readMembers ('\x22' :: (ks ++ '\x22' :: ':' :: vs)))
      [(joinHalves k, v)] rest := by
  obtain ⟨_, hkey⟩ := readString_of_spelled hk (':' :: vs)
  obtain ⟨_, hv⟩ := hv
  rw [readMembers, hkey]
  simp only [bind, Except.bind]
  split
  · rename_i hcolon
    obtain rfl := (List.cons.inj hcolon).2
    rw [hv]
    exact ⟨_, rfl⟩
  · rename_i hcolon
    exact absurd rfl (hcolon vs)

/-- A member of an object with others behind it. -/
theorem readMembers_more (hk : Spelled k ks)
    (hv : Takes (readValue (skipBlank vs)) v (',' :: s))
    (hmore : Takes (readMembers (skipBlank s)) members rest) :
    Takes (readMembers ('\x22' :: (ks ++ '\x22' :: ':' :: vs)))
      ((joinHalves k, v) :: members) rest := by
  obtain ⟨_, hkey⟩ := readString_of_spelled hk (':' :: vs)
  obtain ⟨_, hv⟩ := hv
  obtain ⟨_, hmore⟩ := hmore
  rw [readMembers, hkey]
  simp only [bind, Except.bind]
  split
  · rename_i hcolon
    obtain rfl := (List.cons.inj hcolon).2
    rw [hv]
    simp only
    split
    · rename_i hcomma
      exact absurd (List.cons.inj hcomma).1 (by decide)
    · rename_i hcomma
      obtain rfl := (List.cons.inj hcomma).2
      rw [hmore]
      exact ⟨_, rfl⟩
    · rename_i hcomma
      exact absurd rfl (hcomma s)
  · rename_i hcolon
    exact absurd rfl (hcolon vs)

end Objects

/-- The value with its surrogates joined, if it is a text. -/
def Value.joined : Value → Value
  | .string t => .string (joinHalves t)
  | v => v

/-- A member with its surrogates joined, in its name and in its value. -/
def joinMember (m : Text × Value) : Text × Value := (joinHalves m.1, m.2.joined)

/-- What is written for the value is read as the value, wherever an object goes
on or ends. -/
def ReadsBack (v : Value) : Prop :=
  ∃ s : List Char, v.write = s.map ofChar ∧
    ∀ c rest, c = ',' ∨ c = '\x7d' →
      Takes (readValue (skipBlank (' ' :: (s ++ c :: rest)))) v.joined (c :: rest)

theorem writeString_eq (t : Text) :
    ∃ s, Spelled t s ∧ writeString t = ('\x22' :: (s ++ ['\x22'])).map ofChar := by
  obtain ⟨s, hs, hwritten⟩ := spelled_flatMap t
  refine ⟨s, hs, ?_⟩
  rw [writeString, hwritten]
  simp [Text.ofString]

theorem readsBack_string (t : Text) : ReadsBack (.string t) := by
  obtain ⟨s, hs, hwritten⟩ := writeString_eq t
  refine ⟨_, hwritten, ?_⟩
  intro c rest _
  obtain ⟨_, hread⟩ := readString_of_spelled hs (c :: rest)
  rw [List.cons_append, List.append_assoc]
  change Takes (readValue ('\x22' :: (s ++ '\x22' :: c :: rest))) _ _
  rw [readValue, hread]
  exact ⟨_, rfl⟩

/-- What is written for the members of an object reads back up to the closing brace. -/
theorem readMembers_written (m : Text × Value) (members : List (Text × Value))
    (h : ∀ a ∈ m :: members, ReadsBack a.2) :
    ∃ s : List Char,
      Text.join (Text.ofString ", ") (Value.writeMembers (m :: members)) =
        ('\x22' :: s).map ofChar ∧
      ∀ rest, Takes (readMembers ('\x22' :: (s ++ '\x7d' :: rest)))
        ((m :: members).map joinMember) rest := by
  induction members generalizing m with
  | nil =>
    obtain ⟨ks, hks, hkey⟩ := writeString_eq m.1
    obtain ⟨vs, hvalue, hread⟩ := h m List.mem_cons_self
    refine ⟨ks ++ '\x22' :: ':' :: ' ' :: vs, ?_, ?_⟩
    · simp [Value.writeMembers, Text.join, hkey, hvalue, Text.ofString]
    · intro rest
      have hshape : ks ++ '\x22' :: ':' :: ' ' :: vs ++ '\x7d' :: rest =
          ks ++ '\x22' :: ':' :: ' ' :: (vs ++ '\x7d' :: rest) := by simp
      rw [hshape]
      exact readMembers_last hks (hread '\x7d' rest (Or.inr rfl))
  | cons m' members ih =>
    obtain ⟨ks, hks, hkey⟩ := writeString_eq m.1
    obtain ⟨vs, hvalue, hread⟩ := h m List.mem_cons_self
    obtain ⟨s, hwritten, hmore⟩ := ih m' fun a ha => h a (List.mem_cons_of_mem m ha)
    refine ⟨ks ++ '\x22' :: ':' :: ' ' :: (vs ++ ',' :: ' ' :: '\x22' :: s), ?_, ?_⟩
    · have hjoin : Text.join (Text.ofString ", ")
          (Value.writeMembers (m :: m' :: members)) =
          writeString m.1 ++ Text.ofString ": " ++ m.2.write ++ Text.ofString ", " ++
            Text.join (Text.ofString ", ") (Value.writeMembers (m' :: members)) := by
        simp [Value.writeMembers, Text.join]
      rw [hjoin, hwritten, hkey, hvalue]
      simp [Text.ofString]
    · intro rest
      have hshape : ks ++ '\x22' :: ':' :: ' ' :: (vs ++ ',' :: ' ' :: '\x22' :: s) ++
          '\x7d' :: rest =
            ks ++ '\x22' :: ':' :: ' ' ::
              (vs ++ ',' :: ' ' :: '\x22' :: (s ++ '\x7d' :: rest)) := by
        simp
      rw [hshape]
      exact readMembers_more hks (hread ',' _ (Or.inl rfl)) (hmore rest)

theorem read_object_line {s : List Char} {v : Value}
    (h : Takes (readValue ('\x7b' :: s)) v ['\n']) : read ('\x7b' :: s) = .ok v := by
  obtain ⟨_, hvalue⟩ := h
  rw [read]
  · change (do let t ← readValue ('\x7b' :: s); _) = _
    rw [hvalue]
    rfl
  · intro _ hmark
    exact absurd (List.cons.inj hmark).1 (by decide)

/-- A line with an object reads back if the values of its members do. -/
theorem read_write_object (members : List (Text × Value))
    (h : ∀ a ∈ members, ReadsBack a.2) :
    ∃ line : List Char,
      (Value.object members).write ++ Text.ofString "\n" = line.map ofChar ∧
        read line = .ok (.object (Dictionary.ofPairs (members.map joinMember))) := by
  cases members with
  | nil =>
    refine ⟨['\x7b', '\x7d', '\n'], rfl, read_object_line ?_⟩
    rw [readValue]
    exact ⟨_, rfl⟩
  | cons m members =>
    obtain ⟨s, hwritten, hread⟩ := readMembers_written m members h
    refine ⟨'\x7b' :: '\x22' :: (s ++ ['\x7d', '\n']), ?_, read_object_line ?_⟩
    · rw [Value.write, hwritten]
      simp [Text.ofString]
    · obtain ⟨_, hread⟩ := hread ['\n']
      rw [readValue]
      split
      · rename_i hbrace
        exact absurd (List.cons.inj hbrace).1 (by decide)
      · change Takes (do let t ← readMembers ('\x22' :: (s ++ ['\x7d', '\n'])); _) _ _
        rw [hread]
        exact ⟨_, rfl⟩

/-- The members of an object of strings. -/
def stringMembers (members : List (Text × Text)) : List (Text × Value) :=
  members.map fun m => (m.1, .string m.2)

/-- Members with their surrogates joined, in names and values. -/
def joinMembers (members : List (Text × Text)) : List (Text × Text) :=
  members.map fun m => (joinHalves m.1, joinHalves m.2)

/-- A line with an object of strings reads back. -/
theorem read_write_strings (members : List (Text × Text)) :
    ∃ line : List Char,
      (Value.object (stringMembers members)).write ++ Text.ofString "\n" =
          line.map ofChar ∧
        read line = .ok (.object
          (Dictionary.ofPairs (stringMembers (joinMembers members)))) := by
  have hjoined : (stringMembers members).map joinMember =
      stringMembers (joinMembers members) := by
    simp [stringMembers, joinMembers, joinMember, Value.joined]
  rw [← hjoined]
  apply read_write_object
  intro a ha
  obtain ⟨m, -, hm⟩ := List.mem_map.mp ha
  rw [← hm]
  exact readsBack_string m.2

end ScriptQuote.Json
