import ScriptQuote.Text.Basic

/-!
# Dialects

The lexical facts about a scripting grammar that quoting depends on.  A dialect
is a plain record of texts: the escape and the sigil are compared as whole
texts, every other entry is a set of code points written as a text.  Nothing
here checks that the escape is one code point long; configuration does that.
-/

namespace ScriptQuote

/-- The lexical facts about one target grammar. -/
structure Dialect where
  /-- Takes the special meaning from the character after it. -/
  escape : Text
  /-- Starts a variable reference. -/
  sigil : Text
  /-- What may not open a bare argument. -/
  barewordFirst : Text
  /-- Stream numbers that, before the marker, make a redirection. -/
  redirectDigits : Text
  /-- Marks a redirection. -/
  redirectMarker : Text
  /-- What the grammar reads as a single quote. -/
  singleQuotes : Text
  /-- What the grammar reads as a double quote. -/
  doubleQuotes : Text
  /-- What always ends a token. -/
  tokenBreaks : Text
  /-- The ASCII characters that may follow the sigil in a variable name. -/
  variableStart : Text
deriving DecidableEq

namespace Dialect

/-- The small ASCII letters. -/
def asciiSmallLetters : Text :=
  ['a', 'b', 'c', 'd', 'e', 'f', 'g', 'h', 'i', 'j', 'k', 'l', 'm', 'n', 'o',
    'p', 'q', 'r', 's', 't', 'u', 'v', 'w', 'x', 'y', 'z']

/-- The capital ASCII letters. -/
def asciiCapitalLetters : Text :=
  ['A', 'B', 'C', 'D', 'E', 'F', 'G', 'H', 'I', 'J', 'K', 'L', 'M', 'N', 'O',
    'P', 'Q', 'R', 'S', 'T', 'U', 'V', 'W', 'X', 'Y', 'Z']

/-- The ASCII letters, small ones first. -/
def asciiLetters : Text := asciiSmallLetters ++ asciiCapitalLetters

/-- The ASCII decimal digits. -/
def asciiDigits : Text := ['0', '1', '2', '3', '4', '5', '6', '7', '8', '9']

/-- The PowerShell grammar, where curly quotes count as quotes. -/
def powerShell : Dialect where
  escape := ['\x60']
  sigil := ['$']
  barewordFirst := ['@', '#', '<', '>']
  redirectDigits := ['1', '2', '3', '4', '5', '6']
  redirectMarker := ['>']
  singleQuotes := ['\x27', '‘', '’', '‚', '‛']
  doubleQuotes := ['\x22', '“', '”', '„']
  tokenBreaks :=
    ['\x00', '\t', '\n', '\x0b', '\x0c', '\r', ' ', ';', '(', ')', '\x7b',
      '\x7d', '|', '&', ',']
  variableStart := asciiLetters ++ asciiDigits ++ (['_', '?', '^', ':', '$'] : Text)

instance : Inhabited Dialect := ⟨powerShell⟩

/-- The entries of a dialect. -/
inductive Field
  | escape | sigil | barewordFirst | redirectDigits | redirectMarker
  | singleQuotes | doubleQuotes | tokenBreaks | variableStart
deriving DecidableEq

namespace Field

/-- Every entry. -/
def all : List Field :=
  [escape, sigil, barewordFirst, redirectDigits, redirectMarker, singleQuotes,
    doubleQuotes, tokenBreaks, variableStart]

/-- The name under which an entry is configured. -/
def name : Field → Text
  | escape => "escape"
  | sigil => "sigil"
  | barewordFirst => "bareword_first"
  | redirectDigits => "redirect_digits"
  | redirectMarker => "redirect_marker"
  | singleQuotes => "single_quotes"
  | doubleQuotes => "double_quotes"
  | tokenBreaks => "token_breaks"
  | variableStart => "variable_start"

/-- The entry of a given name. -/
def ofName? (name : Text) : Option Field := all.find? fun f => f.name == name

/-- Entries that must be exactly one code point. -/
def isSingle : Field → Bool
  | escape | sigil | redirectMarker => true
  | _ => false

end Field

/-- The value of an entry. -/
def get (d : Dialect) : Field → Text
  | .escape => d.escape
  | .sigil => d.sigil
  | .barewordFirst => d.barewordFirst
  | .redirectDigits => d.redirectDigits
  | .redirectMarker => d.redirectMarker
  | .singleQuotes => d.singleQuotes
  | .doubleQuotes => d.doubleQuotes
  | .tokenBreaks => d.tokenBreaks
  | .variableStart => d.variableStart

/-- The dialect with one entry changed. -/
def set (d : Dialect) (f : Field) (value : Text) : Dialect :=
  match f with
  | .escape => { d with escape := value }
  | .sigil => { d with sigil := value }
  | .barewordFirst => { d with barewordFirst := value }
  | .redirectDigits => { d with redirectDigits := value }
  | .redirectMarker => { d with redirectMarker := value }
  | .singleQuotes => { d with singleQuotes := value }
  | .doubleQuotes => { d with doubleQuotes := value }
  | .tokenBreaks => { d with tokenBreaks := value }
  | .variableStart => { d with variableStart := value }

theorem get_set (d : Dialect) (f g : Field) (value : Text) :
    (d.set f value).get g = if g = f then value else d.get g := by
  cases f <;> cases g <;> rfl

/-- Two dialects with the same entries are equal. -/
theorem ext_get {d e : Dialect} (h : ∀ f, d.get f = e.get f) : d = e := by
  cases d; cases e
  have h1 := h .escape
  have h2 := h .sigil
  have h3 := h .barewordFirst
  have h4 := h .redirectDigits
  have h5 := h .redirectMarker
  have h6 := h .singleQuotes
  have h7 := h .doubleQuotes
  have h8 := h .tokenBreaks
  have h9 := h .variableStart
  simp only [get] at *
  subst h1 h2 h3 h4 h5 h6 h7 h8 h9
  rfl

end Dialect

end ScriptQuote
