import UnitBinding.Text.Hex
import UnitBinding.Text.Printable

set_option autoImplicit false

/-! # Quoted text

The form in which diagnostics show a piece of text: between double quotes, with the quote, the
backslash and the common controls as short escapes, and with every other character that a reader
could not see (or could not tell from the character before it) as its hexadecimal code in braces.
`quoted` is what messages use; `escape` says how one character is written. -/

namespace UnitBinding.Text

/-- The way one character is written inside quotes. -/
def escape (c : Char) : List Char :=
  if c = '"' then ['\\', '"']
  else if c = '\\' then ['\\', '\\']
  else if c = '\n' then ['\\', 'n']
  else if c = '\r' then ['\\', 'r']
  else if c = '\t' then ['\\', 't']
  else if c = '\x00' then ['\\', '0']
  else if isExtending c || !isPrintable c then
    ['\\', 'u', '\x7b'] ++ hexDigits c.toNat ++ ['\x7d']
  else [c]

/-- A character that shows itself is written as itself. -/
theorem escape_visible (c : Char) (hq : c ≠ '"') (hb : c ≠ '\\') (h₁ : 0x20 ≤ c.toNat)
    (h₂ : c.toNat < 0x7f) : escape c = [c] := by
  have hn : c ≠ '\n' := by rintro rfl; exact absurd h₁ (by decide)
  have hr : c ≠ '\r' := by rintro rfl; exact absurd h₁ (by decide)
  have ht : c ≠ '\t' := by rintro rfl; exact absurd h₁ (by decide)
  have hz : c ≠ '\x00' := by rintro rfl; exact absurd h₁ (by decide)
  simp [escape, hq, hb, hn, hr, ht, hz, isExtending_ascii c (by omega),
    isPrintable_ascii c h₁ h₂]

/-- Text between double quotes, every character escaped as needed. -/
def quoted (s : String) : String :=
  String.ofList ('"' :: s.toList.flatMap escape ++ ['"'])

/-- The way one character of a path is written inside quotes: an apostrophe is escaped as well. -/
def escapeInPath (c : Char) : List Char := if c = '\'' then ['\\', '\''] else escape c

end UnitBinding.Text
