import ScriptQuote.Argument.Quoting
import ScriptQuote.Proofs.Argument.Bareword
import ScriptQuote.Proofs.Context.DoubleQuoted
import ScriptQuote.Proofs.Context.SingleQuoted
import ScriptQuote.Proofs.Context.Wildcard

/-!
# Command arguments read back

A command argument is written in two layers: the wildcard escapes of the
pattern, and the quotes around it.  The reader has to guess from the first and
the last code point whether there are quotes and of which kind.

* The delimiters.  `body?_cons` says what the reader takes for quotes.
* The outer layer.  `unwrap_quote` says that reading off the quotes gives the
  pattern, in all three forms in which `quote` writes it.  `Faithful` collects
  what the quote must be for that.
* Both layers.  `unquote_quote` is the round trip of the value.
* The inner layer.  `unquote_quote_pattern` says what is left when only the
  quotes are read off: the pattern, in which no wildcard is live.
-/

namespace ScriptQuote.Argument

open Dialect

variable {d : Dialect} {e s q : CodePoint}

/-! ## The delimiters -/

theorem body?_cons {p : CodePoint → Bool} {t : Text} (a : CodePoint) (ht : t ≠ []) :
    body? p (a :: t) = if p a && p (t.getLast ht) then some t.dropLast else none := by
  cases t with
  | nil => exact absurd rfl ht
  | cons b rest => rfl

/-- What stands between two delimiters is read off, whatever it is. -/
theorem body?_enclosed {p : CodePoint → Bool} (hq : p q = true) (t : Text) :
    body? p (q :: (t ++ [q])) = some t := by
  have hne : t ++ [q] ≠ [] :=
    List.append_ne_nil_of_right_ne_nil t (List.cons_ne_nil q [])
  rw [body?_cons q hne, List.getLast_concat, hq, List.dropLast_concat]
  rfl

/-- A fragment that does not open with a delimiter has no body. -/
theorem body?_eq_none {p : CodePoint → Bool} {t : Text}
    (h : ∀ a ∈ t.head?, p a = false) : body? p t = none := by
  cases t with
  | nil => rfl
  | cons a t =>
    cases t with
    | nil => rfl
    | cons b rest =>
      rw [body?_cons a (List.cons_ne_nil b rest), h a rfl]
      rfl

/-! ## The outer layer -/

/-- The quotes with which arguments can be read back.  Auto mode may come to
single quotes, and the straight one has to be a single quote and no double quote
for that.  A quote that is asked for is of one kind, and if that is the double
one, double-quoted strings can be read back. -/
inductive Faithful (d : Dialect) (e s : CodePoint) : Option Text → Prop
  | auto {asked : Option Text} (hauto : isAuto asked = true)
      (hsingle : d.isSingleQuote '\x27' = true)
      (hdouble : d.isDoubleQuote '\x27' = false) : Faithful d e s asked
  | single {q : CodePoint} (hq : q ≠ '\x00') (hsingle : d.isSingleQuote q = true)
      (hdouble : d.isDoubleQuote q = false) : Faithful d e s (some [q])
  | double {q : CodePoint} (hq : q ≠ '\x00') (hsingle : d.isSingleQuote q = false)
      (hdouble : d.isDoubleQuote q = true) (hd : DoubleQuoted.Invertible d e s) :
      Faithful d e s (some [q])

theorem isAuto_some_singleton (hq : q ≠ '\x00') : isAuto (some [q]) = false := by
  simp [isAuto, hq]

theorem quote_nil (d : Dialect) (asked : Option Text) (literal : Bool) :
    quote d [] asked literal = [] := rfl

/-- A quote that is asked for is put around the pattern. -/
theorem quote_of_ne_nul (hq : q ≠ '\x00') {v : Text} (hv : v ≠ []) (literal : Bool) :
    quote d v (some [q]) literal = wrap d [q] (pattern d literal v) := by
  rw [quote, if_neg (by simpa using hv), isAuto_some_singleton hq]

/-- Without one, the pattern stays bare or is put between straight single quotes. -/
theorem quote_of_isAuto {asked : Option Text} (hauto : isAuto asked = true) {v : Text}
    (hv : v ≠ []) (literal : Bool) :
    quote d v asked literal =
      if Bareword.requiresQuoting d (pattern d literal v) then
        wrap d ['\x27'] (pattern d literal v)
      else pattern d literal v := by
  rw [quote, if_neg (by simpa using hv), hauto]
  cases asked <;> rfl

theorem unwrap_wrap_single (hsingle : d.isSingleQuote q = true)
    (hdouble : d.isDoubleQuote q = false) (w : Text) :
    unwrap d (wrap d [q] w) = .ok w := by
  have hwrap : wrap d [q] w = q :: (SingleQuoted.escape d w ++ [q]) := by
    rw [wrap, isDoubleQuoteText_singleton, hdouble]
    rfl
  rw [hwrap, unwrap, body?_enclosed hsingle]
  exact congrArg Except.ok (SingleQuoted.unescape_escape d w)

theorem unwrap_wrap_double (hd : DoubleQuoted.Invertible d e s)
    (hsingle : d.isSingleQuote q = false) (hdouble : d.isDoubleQuote q = true)
    (w : Text) : unwrap d (wrap d [q] w) = .ok w := by
  have hwrap : wrap d [q] w = q :: (DoubleQuoted.escape d w ++ [q]) := by
    rw [wrap, isDoubleQuoteText_singleton, hdouble]
    rfl
  have hnone :
      body? d.isSingleQuote (q :: (DoubleQuoted.escape d w ++ [q])) = none := by
    apply body?_eq_none
    intro a ha
    rw [List.head?_cons, Option.mem_some_iff] at ha
    rwa [← ha]
  rw [hwrap, unwrap, hnone, body?_enclosed hdouble]
  exact DoubleQuoted.unescape_escape hd w

/-- A bareword has no quotes to be read off, since there is no quote in it. -/
theorem unwrap_bareword {w : Text} (h : Bareword.violation d w = none) :
    unwrap d w = .ok w := by
  have hquote : ∀ a ∈ w.head?, d.isSingleQuote a = false ∧
      d.isDoubleQuote a = false := by
    intro a ha
    have := Bareword.isQuote_eq_false_of_violation h a (List.mem_of_mem_head? ha)
    rwa [isQuote, Bool.or_eq_false_iff] at this
  rw [unwrap, body?_eq_none fun a ha => (hquote a ha).1,
    body?_eq_none fun a ha => (hquote a ha).2]

/-- Reading off the quotes gives the pattern. -/
theorem unwrap_quote {asked : Option Text} (hasked : Faithful d e s asked)
    (literal : Bool) (v : Text) :
    unwrap d (quote d v asked literal) = .ok (pattern d literal v) := by
  by_cases hv : v = []
  · subst v
    rw [quote_nil]
    cases literal <;> rfl
  cases hasked with
  | auto hauto hsingle hdouble =>
    rw [quote_of_isAuto hauto hv]
    split_ifs with hbare
    · exact unwrap_wrap_single hsingle hdouble _
    · rw [Bareword.requiresQuoting, Bool.not_eq_true, Option.isSome_eq_false_iff,
        Option.isNone_iff_eq_none] at hbare
      exact unwrap_bareword hbare
  | single hq hsingle hdouble =>
    rw [quote_of_ne_nul hq hv]
    exact unwrap_wrap_single hsingle hdouble _
  | double hq hsingle hdouble hd =>
    rw [quote_of_ne_nul hq hv]
    exact unwrap_wrap_double hd hsingle hdouble _

/-! ## Both layers -/

/-- The inner layer comes off as it went on: not at all for a literal argument. -/
theorem unescape_pattern (he : d.escape = [e]) (literal : Bool) (v : Text) :
    (if literal then pattern d literal v
      else Wildcard.unescape d.escape (pattern d literal v)) = v := by
  cases literal with
  | true => rfl
  | false =>
    show Wildcard.unescape d.escape (Wildcard.escape d.escape v) = v
    rw [he, Wildcard.unescape_escape]

theorem unquote_quote_of_faithful (he : d.escape = [e]) {asked : Option Text}
    (hasked : Faithful d e s asked) (literal : Bool) (v : Text) :
    unquote d (quote d v asked literal) literal = .ok v := by
  rw [unquote, unwrap_quote hasked, Except.map, unescape_pattern he]

/-- PowerShell takes any of its quotes, and auto mode. -/
theorem faithful_powerShell {asked : Option Text}
    (h : isAuto asked = true ∨
      ∃ q ∈ powerShell.singleQuotes ++ powerShell.doubleQuotes, asked = some [q]) :
    Faithful powerShell '\x60' '$' asked := by
  have hsingle : ∀ q ∈ powerShell.singleQuotes, q ≠ CodePoint.ofChar '\x00' ∧
      powerShell.isSingleQuote q = true ∧
        powerShell.isDoubleQuote q = false := by decide
  have hdouble : ∀ q ∈ powerShell.doubleQuotes, q ≠ CodePoint.ofChar '\x00' ∧
      powerShell.isSingleQuote q = false ∧
        powerShell.isDoubleQuote q = true := by decide
  rcases h with hauto | ⟨q, hq, rfl⟩
  · exact .auto hauto (by decide) (by decide)
  · rcases List.mem_append.mp hq with hq | hq
    · obtain ⟨hnul, hs, hd⟩ := hsingle q hq
      exact .single hnul hs hd
    · obtain ⟨hnul, hs, hd⟩ := hdouble q hq
      exact .double hnul hs hd
        ⟨⟨rfl, rfl, by decide, by decide⟩, by decide, by decide⟩

/-- A command argument means the value that it was written for, literal or not,
if the quote can be read back; and in PowerShell every quote can. -/
theorem unquote_quote :
    (∀ {d : Dialect} {e s : CodePoint}, d.escape = [e] → d.sigil = [s] →
      ∀ {asked : Option Text}, Faithful d e s asked → ∀ (literal : Bool) (v : Text),
        unquote d (quote d v asked literal) literal = .ok v) ∧
    ∀ {asked : Option Text}, isAuto asked = true ∨
        (∃ q ∈ powerShell.singleQuotes ++ powerShell.doubleQuotes, asked = some [q]) →
      ∀ (literal : Bool) (v : Text),
        unquote powerShell (quote powerShell v asked literal) literal = .ok v := by
  constructor
  · intro d e s he _ asked hasked literal v
    exact unquote_quote_of_faithful he hasked literal v
  · intro asked h literal v
    exact unquote_quote_of_faithful (e := '\x60') rfl
      (faithful_powerShell h) literal v

/-- The double quote is the escape and the delimiter at once, and the value
holds all that is special. -/
theorem unquote_quote_quoteEscape :
    Faithful (powerShell.set .escape ['\x22']) '\x22' '$' (some ['\x22']) ∧
      unquote (powerShell.set .escape ['\x22'])
        (quote (powerShell.set .escape ['\x22']) "\x22*$x\x22" (some ['\x22'])
          false) false =
        .ok (Text.ofString "\x22*$x\x22") :=
  have hq : Faithful (powerShell.set .escape ['\x22']) '\x22' '$' (some ['\x22']) :=
    .double (by decide) (by decide) (by decide)
      ⟨⟨rfl, rfl, by decide, by decide⟩, by decide, by decide⟩
  ⟨hq, unquote_quote.1 rfl rfl hq false "\x22*$x\x22"⟩

/-! ## The inner layer -/

/-- A reader that leaves the pattern as it is gets the one that was written for
the value, and no wildcard is live in it. -/
theorem unquote_quote_pattern (he : d.escape = [e]) {asked : Option Text}
    (hasked : Faithful d e s asked) (v : Text) :
    unquote d (quote d v asked false) true = .ok (Wildcard.escape d.escape v) ∧
      Wildcard.isLive d.escape (Wildcard.escape d.escape v) = false := by
  constructor
  · rw [unquote, unwrap_quote hasked]
    rfl
  · rw [he]
    exact Wildcard.isLive_escape e v

/-- Wildcards and escapes in PowerShell, with the choice of the quote left open. -/
theorem unquote_quote_pattern_powerShell :
    Faithful powerShell '\x60' '$' none ∧
      unquote powerShell (quote powerShell "a*\x60[b]" none false) true =
        .ok (Text.ofString "a\x60*\x60\x60\x60[b\x60]") ∧
      Wildcard.isLive powerShell.escape
        (Wildcard.escape powerShell.escape "a*\x60[b]") = false :=
  have hauto : Faithful powerShell '\x60' '$' none := faithful_powerShell (Or.inl rfl)
  ⟨hauto, (unquote_quote_pattern rfl hauto "a*\x60[b]").1,
    (unquote_quote_pattern rfl hauto "a*\x60[b]").2⟩

end ScriptQuote.Argument
