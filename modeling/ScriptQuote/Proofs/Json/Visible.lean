import ScriptQuote.Json.Writer
import ScriptQuote.Text.Utf8

/-!
# JSON on one line

Whatever the writer puts is a visible ASCII character or a blank.  So a written
value never breaks its line, and one byte is enough for each of its characters.

`visible_write` goes along the two recursions of the writer, over items and over
members; the lemmas before it are about the pieces.
-/

namespace ScriptQuote

open CodePoint (ofChar)

/-- Visible ASCII characters and blanks, nothing else. -/
def Text.Visible (t : Text) : Prop := ∀ c ∈ t, 0x20 ≤ c.val ∧ c.val ≤ 0x7E

namespace Text

variable {s t : Text}

instance (t : Text) : Decidable t.Visible :=
  inferInstanceAs (Decidable (∀ c ∈ t, 0x20 ≤ c.val ∧ c.val ≤ 0x7E))

theorem Visible.append (hs : s.Visible) (ht : t.Visible) : Visible (s ++ t) := by
  intro c hc
  rcases List.mem_append.mp hc with hc | hc
  · exact hs c hc
  · exact ht c hc

theorem Visible.ite {p : Prop} [Decidable p] (hs : s.Visible) (ht : t.Visible) :
    Visible (if p then s else t) := by
  split
  · exact hs
  · exact ht

/-- A part of a visible text is visible, in whatever order. -/
theorem Visible.subset (ht : t.Visible) (h : s ⊆ t) : s.Visible :=
  fun c hc => ht c (h hc)

theorem visible_replicate (n : Nat) {c : Char} (hc : Visible [ofChar c]) :
    Visible (List.replicate n (ofChar c)) := by
  intro a ha
  rw [List.eq_of_mem_replicate ha]
  exact hc _ List.mem_cons_self

theorem visible_join {ts : List Text} (hs : s.Visible) (hts : ∀ t ∈ ts, Visible t) :
    Visible (join s ts) := by
  induction ts with
  | nil =>
    intro c hc
    cases hc
  | cons t ts ih =>
    have ht := hts t List.mem_cons_self
    cases ts with
    | nil =>
      rw [join, List.intersperse_singleton, List.flatten_singleton]
      exact ht
    | cons t' ts =>
      have hmore := ih fun a ha => hts a (List.mem_cons_of_mem t ha)
      have hjoin : join s (t :: t' :: ts) = t ++ (s ++ join s (t' :: ts)) := by
        simp [join]
      rw [hjoin]
      exact ht.append (hs.append hmore)

theorem visible_toDigits {base : Nat} (hbase : 1 < base) (hle : base ≤ 16) (n : Nat) :
    Visible ((Nat.toDigits base n).map ofChar) := by
  have hdigit : ∀ k, k < 16 → Visible [ofChar k.digitChar] := by decide
  induction n using Nat.strongRecOn with
  | ind n ih =>
    rw [Nat.toDigits_eq_if hbase]
    split
    · exact hdigit n (by omega)
    · have hlt : n / base < n := Nat.div_lt_self (by omega) hbase
      have hmod : n % base < base := Nat.mod_lt n (by omega)
      rw [List.map_append]
      exact (ih (n / base) hlt).append (hdigit (n % base) (by omega))

theorem visible_digits (n : Nat) : Visible (Decimal.digits n) :=
  visible_toDigits (by decide) (by decide) n

/-- Such a text is one of characters, and each of them is one byte. -/
theorem Visible.exists_chars (ht : t.Visible) :
    ∃ chars : List Char, t = chars.map ofChar ∧
      (∀ c ∈ chars, 0x20 ≤ c.toNat ∧ c.toNat ≤ 0x7E) ∧
      t.map (fun c => c.val.toUInt8) = Utf8.encode chars := by
  induction t with
  | nil => exact ⟨[], rfl, fun c hc => absurd hc List.not_mem_nil, rfl⟩
  | cons a t ih =>
    obtain ⟨chars, hchars, hvisible, hbytes⟩ :=
      ih fun c hc => ht c (List.mem_cons_of_mem a hc)
    have ha := ht a List.mem_cons_self
    have hchar : a.toChar?.isSome := by
      rw [CodePoint.toChar?, dif_pos (by omega)]
      rfl
    obtain ⟨c, hc⟩ := Option.isSome_iff_exists.mp hchar
    have hac : a = ofChar c := CodePoint.toChar?_eq_some_iff.mp hc
    subst hac
    refine ⟨c :: chars, by rw [hchars, List.map_cons], ?_, ?_⟩
    · intro b hb
      rcases List.mem_cons.mp hb with hb | hb
      · rw [hb]
        exact ha
      · exact hvisible b hb
    · have hsize : c.utf8Size = 1 := by
        have hval : c.val.toNat = (ofChar c).val := rfl
        have hlast : (127 : UInt32).toNat = 127 := rfl
        rw [Char.utf8Size_eq_one_iff, UInt32.le_iff_toNat_le]
        omega
      rw [List.map_cons, hbytes, Utf8.encode, Utf8.encode, List.flatMap_cons,
        String.utf8EncodeChar_eq_singleton hsize]
      rfl

end Text

namespace Json

open Text (Visible visible_digits visible_join visible_replicate visible_toDigits)

theorem visible_unitEscape (n : Nat) : Visible (unitEscape n) := by
  have hpadded : Visible (Hexadecimal.padded 4 n) :=
    (visible_replicate _ (by decide)).append
      (visible_toDigits (by decide) (by decide) n)
  exact Text.Visible.append (by decide) hpadded

theorem visible_writtenChar (c : CodePoint) : Visible (writtenChar c) := by
  have hself :
      Visible (if 0x20 ≤ c.val ∧ c.val ≤ 0x7E then [c]
        else if c.val < 0x10000 then unitEscape c.val
        else unitEscape (0xD800 + (c.val - 0x10000) / 0x400) ++
          unitEscape (0xDC00 + (c.val - 0x10000) % 0x400)) := by
    split
    · rename_i hc
      intro a ha
      rw [List.mem_singleton.mp ha]
      exact hc
    · exact .ite (visible_unitEscape _)
        ((visible_unitEscape _).append (visible_unitEscape _))
  unfold writtenChar
  iterate 7 refine .ite (by decide) ?_
  exact hself

theorem visible_writeString (t : Text) : Visible (writeString t) := by
  have hbody : Visible (t.flatMap writtenChar) := by
    intro c hc
    obtain ⟨a, -, ha⟩ := List.mem_flatMap.mp hc
    exact visible_writtenChar a c ha
  exact Text.Visible.append (Text.Visible.append (by decide) hbody) (by decide)

theorem visible_render (n : Int) : Visible (Decimal.render n) := by
  cases n with
  | ofNat n => exact visible_digits n
  | negSucc n =>
    exact Text.Visible.append (s := [ofChar '-']) (by decide)
      (visible_digits (n + 1))

theorem visible_trimmed (d : Shortest.Approximation) :
    Visible (Shortest.trimmed d).1 := by
  refine (visible_digits d.digits).subset ?_
  intro c hc
  have hdropped := (List.dropWhile_suffix _).subset (List.mem_reverse.mp hc)
  exact List.mem_reverse.mp hdropped

theorem visible_renderPositive (style : Shortest.Display)
    (d : Shortest.Approximation) :
    Visible (Shortest.renderPositive style d) := by
  have hds := visible_trimmed d
  have hzeros : ∀ n, Visible (Shortest.zeros n) :=
    fun n => visible_replicate n (by decide)
  have htake : ∀ n, Visible ((Shortest.trimmed d).1.take n) :=
    fun n => hds.subset (List.take_subset n _)
  have hdrop : ∀ n, Visible ((Shortest.trimmed d).1.drop n) :=
    fun n => hds.subset (List.drop_subset n _)
  have hpoint : Visible (if (Shortest.trimmed d).1.length = 1 then [] else
      ofChar '.' :: (Shortest.trimmed d).1.drop 1) :=
    .ite (by decide) (Text.Visible.append (s := [ofChar '.']) (by decide) (hdrop 1))
  have hmark : ∀ x : Int, Visible (Text.ofString (if x < 0 then "e-" else "e+")) := by
    intro x
    split <;> decide
  refine .ite (.ite ?_ (.ite ?_ ?_)) ?_
  · exact (Text.Visible.append (by decide) (hzeros _)).append hds
  · exact (hds.append (hzeros _)).append (by decide)
  · exact ((htake _).append (by decide)).append (hdrop _)
  · exact ((((htake 1).append hpoint).append (hmark _)).append
      (hzeros _)).append (visible_digits _)

theorem visible_writeFloat (x : Binary64) : Visible (writeFloat x) := by
  cases x with
  | nan => decide
  | infinity negative => cases negative <;> decide
  | finite negative m e =>
    have hsign : Visible (if negative then Text.ofString "-" else []) := by
      cases negative <;> decide
    refine hsign.append ?_
    split
    · decide
    · exact visible_renderPositive _ _

namespace Value

mutual

/-- A value is written in visible characters. -/
theorem visible_write : ∀ v : Value, Visible v.write
  | .null => by decide
  | .bool true => by decide
  | .bool false => by decide
  | .int n => visible_render n
  | .float x => visible_writeFloat x
  | .string t => visible_writeString t
  | .array items =>
    ((by decide : Visible (Text.ofString "[")).append
      (visible_join (by decide) (visible_writeItems items))).append (by decide)
  | .object members =>
    ((by decide : Visible (Text.ofString "\x7b")).append
      (visible_join (by decide) (visible_writeMembers members))).append (by decide)

theorem visible_writeItems : ∀ items : List Value, ∀ t ∈ writeItems items, Visible t
  | [], _, h => absurd h List.not_mem_nil
  | v :: rest, t, h => by
    rcases List.mem_cons.mp h with h | h
    · rw [h]
      exact visible_write v
    · exact visible_writeItems rest t h

theorem visible_writeMembers :
    ∀ members : List (Text × Value), ∀ t ∈ writeMembers members, Visible t
  | [], _, h => absurd h List.not_mem_nil
  | (k, v) :: rest, t, h => by
    rcases List.mem_cons.mp h with h | h
    · rw [h]
      exact ((visible_writeString k).append (by decide)).append (visible_write v)
    · exact visible_writeMembers rest t h

end

end Value

end Json

end ScriptQuote
