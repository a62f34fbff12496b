import Dialects.Text.Blank
import Dialects.Text.Digit
import Dialects.Text.Raw

/-!
# Numerals

The texts that write a whole number in a base, or a decimal number. Blanks may stand at both ends,
one sign in front, and the digits may be those of any script. What is wrong with a text is a fault
(`wholeFault?`, `decimalFault?`); the number itself plays no part.
-/

namespace Dialects

inductive NumeralFault
  /-- It writes no whole number in this base. -/
  | notWhole (base : Nat) (s : RawText)
  /-- It has more decimal digits than a whole number may have. -/
  | tooLong (digits : Nat)
  | notDecimal (s : RawText)
  deriving DecidableEq, Repr

def longestWhole : Nat := 4300

def NumeralFault.message : NumeralFault → Text
  | .notWhole base s =>
    "invalid literal for int() with base ".toList ++ (toString base).toList ++ ": ".toList
      ++ s.quoted.take 200
  | .tooLong digits =>
    "Exceeds the limit (".toList ++ (toString longestWhole).toList
      ++ " digits) for integer string conversion: value has ".toList ++ (toString digits).toList
      ++ " digits; use sys.set_int_max_str_digits() to increase the limit".toList
  | .notDecimal s => "could not convert string to float: ".toList ++ s.quoted

namespace Text

def unsigned : Text → Text
  | '+' :: s => s
  | '-' :: s => s
  | s => s

/-- A blank of ASCII, as it may stand around a number. -/
def isNumeralBlank (c : Char) : Bool := c = ' ' || ('\t' ≤ c && c ≤ '\r')

/-- The text without the mark `0b`, `0o` or `0x` that fits the base. -/
def withoutBaseMark (base : Nat) (s : Text) : Text :=
  let marks : List (Nat × Text) := [(2, ['b', 'B']), (8, ['o', 'O']), (16, ['x', 'X'])]
  match s with
  | '0' :: mark :: digits => if (marks.lookup base).any (·.contains mark) then digits else s
  | s => s

/-- The value of an ASCII digit or letter as a digit. -/
def digitOf? (c : Char) : Option Nat :=
  if '0' ≤ c && c ≤ '9' then some (c.toNat - '0'.toNat)
  else if 'a' ≤ c && c ≤ 'z' then some (c.toNat - 'a'.toNat + 10)
  else if 'A' ≤ c && c ≤ 'Z' then some (c.toNat - 'A'.toNat + 10)
  else none

/-- The exponent of a decimal number, or nothing. -/
def isAnyExponent : Text → Bool
  | [] => true
  | e :: s => (e = 'e' || e = 'E') && unsigned s ≠ [] && (unsigned s).all Char.isDigit

/-- Digits with a point in front, among or behind them, and an exponent. -/
def isDecimal (s : Text) : Bool :=
  let whole := s.takeWhile Char.isDigit
  match s.dropWhile Char.isDigit with
  | '.' :: rest =>
    (whole ≠ [] || (rest.head?.any Char.isDigit)) && isAnyExponent (rest.dropWhile Char.isDigit)
  | rest => whole ≠ [] && isAnyExponent rest

/-- The words for infinity and for what is no number, in lower case. -/
def endlessWords : List Text := ["inf", "infinity", "nan"].map String.toList

end Text

namespace RawText

def unsigned : RawText → RawText
  | .char '+' :: s => s
  | .char '-' :: s => s
  | s => s

/-- The parts between colons of a number in sixtieths, if there is a colon. -/
def sixtieths? (s : RawText) : Option (List RawText) :=
  if s.contains (.char ':') then some (s.splitOn (.char ':')) else none

/-- The ASCII form of a text that is not all ASCII: a blank as a space, and a digit of any script as
the ASCII one. Where another character stands that is not ASCII, the form ends in a question
mark. -/
def asciiFormOf : RawText → Text
  | [] => []
  | .surrogate _ :: _ => ['?']
  | .char c :: s =>
    if c.toNat < 0x7F then c :: asciiFormOf s
    else if isBlank c then ' ' :: asciiFormOf s
    else
      match digitValue? c with
      | some d => Nat.digitChar d :: asciiFormOf s
      | none => ['?']

/-- The ASCII form of a text that may write a number. -/
def asciiForm (s : RawText) : Text :=
  match s.toText? with
  | some t => if t.all (·.toNat < 0x80) then t else asciiFormOf s
  | none => asciiFormOf s

/-- What keeps a text from writing a whole number in a base. -/
def wholeFault? (base : Nat) (s : RawText) : Option NumeralFault :=
  let written := s.asciiForm.dropWhile Text.isNumeralBlank
  let written := Text.withoutBaseMark base (Text.unsigned written)
  let isDigit (c : Char) : Bool := (Text.digitOf? c).any (· < base)
  let digits := written.takeWhile isDigit
  if base = 10 && longestWhole < digits.length then some (.tooLong digits.length)
  else if digits ≠ [] && (written.dropWhile isDigit).all Text.isNumeralBlank then none
  else some (.notWhole base s)

/-- What keeps a text from writing a decimal number. -/
def decimalFault? (s : RawText) : Option NumeralFault :=
  let written := s.asciiForm.dropWhile Text.isNumeralBlank
  let written := (written.reverse.dropWhile Text.isNumeralBlank).reverse
  let size := Text.unsigned written
  if Text.isDecimal size || Text.endlessWords.contains (size.map Char.toLower) then none
  else some (.notDecimal s)

end RawText

end Dialects
