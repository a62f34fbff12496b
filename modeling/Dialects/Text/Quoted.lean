import Dialects.Text.Printable

/-!
# Quoted texts

A text in a message stands between quotes, apostrophes unless it holds an apostrophe and no double
quote. The quote and the backslash are escaped inside, and so is every character that is not
printable.
-/

namespace Dialects

/-- The last `width` hexadecimal digits of a number. -/
def hexDigits : Nat → Nat → Text
  | 0, _ => []
  | width + 1, n => hexDigits width (n / 16) ++ [Nat.digitChar (n % 16)]

/-- The escape of a character by its code point, as short as it can be. -/
def escapeCodePoint (c : Char) : Text :=
  if c.toNat < 0x100 then ['\\', 'x'] ++ hexDigits 2 c.toNat
  else if c.toNat < 0x10000 then ['\\', 'u'] ++ hexDigits 4 c.toNat
  else ['\\', 'U'] ++ hexDigits 8 c.toNat

def quoteChar (quote c : Char) : Text :=
  if c = quote || c = '\\' then ['\\', c]
  else if c = '\n' then ['\\', 'n']
  else if c = '\r' then ['\\', 'r']
  else if c = '\t' then ['\\', 't']
  else if isPrintable c then [c]
  else escapeCodePoint c

/-- The quote that a text is set in. -/
def quoteFor (s : Text) : Char := if '\'' ∈ s ∧ '"' ∉ s then '"' else '\''

def Text.quoted (s : Text) : Text :=
  [quoteFor s] ++ s.flatMap (quoteChar (quoteFor s)) ++ [quoteFor s]

end Dialects
