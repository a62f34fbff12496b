import Dialects.Yaml.Cursor

/-!
# Quoted scalars

Between apostrophes an apostrophe is written twice and nothing else is special. Between double
quotes a backslash starts an escape. In both, a line end and the blanks around it are folded as in
a plain scalar.
-/

namespace Dialects

namespace Yaml

def hexValue? (c : Char) : Option Nat :=
  if '0' ≤ c ∧ c ≤ '9' then some (c.toNat - '0'.toNat)
  else if 'a' ≤ c ∧ c ≤ 'f' then some (c.toNat - 'a'.toNat + 10)
  else if 'A' ≤ c ∧ c ≤ 'F' then some (c.toNat - 'A'.toNat + 10)
  else none

def hexNumber? (digits : Text) : Option Nat :=
  digits.foldl (fun n c => do return (← n) * 16 + (← hexValue? c)) (some 0)

/-- What an escape of one letter stands for. -/
def shortEscapes : List (Char × Char) :=
  [('0', '\x00'), ('a', '\x07'), ('b', '\x08'), ('t', '\t'), ('\t', '\t'), ('n', '\n'),
    ('v', '\x0b'), ('f', '\x0c'), ('r', '\r'), ('e', '\x1b'), (' ', ' '), ('"', '"'),
    ('\\', '\\'), ('/', '/'), ('N', '\u0085'), ('_', '\u00a0'), ('L', '\u2028'), ('P', '\u2029')]

/-- How many digits follow the letter of an escape by code point. -/
def escapeWidths : List (Char × Nat) := [('x', 2), ('u', 4), ('U', 8)]

def codePoint (n : Nat) : Except Fault CodePoint :=
  if n.isValidChar then .ok (.char (Char.ofNat n))
  else if n < 0x110000 then .ok (.surrogate n)
  else if n < 0x80000000 then .error (.scalar .noCodePoint)
  else .error (.scalar .wideCodePoint)

namespace Scan

/-- Reads this many hexadecimal digits, all of which must be there. -/
def hexDigits (width : Nat) : Scan Nat := do
  let digits := ((← get).rest.take width).takeWhile fun c => (hexValue? c).isSome
  if digits.length < width then
    look digits.length
    malformed
  else
    match hexNumber? digits with
    | some n => return n
    | none => malformed

def escape : Scan CodePoint := do
  match ← peek with
  | none => malformed
  | some letter =>
    match shortEscapes.lookup letter with
    | some ch =>
      skip 1
      return .char ch
    | none =>
      match escapeWidths.lookup letter with
      | none => malformed
      | some width =>
        skip 1
        let point ← codePoint (← hexDigits width)
        skip width
        return point

/-- Reads the line ends behind the first one, between which only blanks stand; a document marker
must not be among them. -/
def quotedBreaks : Nat → Scan Text
  | 0 => malformed
  | fuel + 1 => do
    if ← seesDocumentMarker then malformed
    else
      skipWhile fun ch => ch = ' ' || ch = '\t'
      match ← lineEnd? with
      | none => return []
      | some ch => return ch :: (← quotedBreaks fuel)

/-- Reads blanks and line ends, as what they count. -/
def quotedGap : Scan Text := do
  let blanks ← span fun ch => ch = ' ' || ch = '\t'
  match ← lineEnd? with
  | none =>
    require (← peek).isSome
    return blanks
  | some ch =>
    let breaks ← quotedBreaks (← steps)
    return if ch ≠ '\n' then ch :: breaks else if breaks = [] then [' '] else breaks

def quotedBehind (double : Bool) : Nat → Scan RawText
  | 0 => malformed
  | fuel + 1 => do
    match ← peek with
    | none => malformed
    | some ch =>
      if isGap ch then return Text.raw (← quotedGap) ++ (← quotedBehind double fuel)
      else if double && ch = '\\' then
        skip 1
        match ← lineEnd? with
        | some _ => return Text.raw (← quotedBreaks (← steps)) ++ (← quotedBehind double fuel)
        | none => return (← escape) :: (← quotedBehind double fuel)
      else if double && ch = '"' then
        skip 1
        return []
      else if !double && ch = '\'' then
        if (← peekAt 1) = some '\'' then
          skip 2
          return .char '\'' :: (← quotedBehind double fuel)
        else
          skip 1
          return []
      else
        skip 1
        return .char ch :: (← quotedBehind double fuel)

def quoted (double : Bool) : Scan RawText := do
  skip 1
  quotedBehind double (← steps)

end Scan

end Yaml

end Dialects
