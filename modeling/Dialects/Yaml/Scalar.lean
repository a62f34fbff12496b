import Dialects.Yaml.Fault
import Dialects.Yaml.Kind

/-!
# The spellings of scalars

A plain scalar is a text unless it is spelled like a value of another type: nothing, a truth value,
a whole number in one of five notations, a number with a point, or a date. Three spellings are set
apart: the sign that merges mappings, the equals sign, and the signs of anchors, aliases and tags.
One line feed may stand behind a spelling (`Kind.ofSpelling`).
-/

namespace Dialects

namespace Yaml

open Text (unsigned)

/-- `~`, or a word for nothing, or nothing at all. -/
def nullWords : List Text := ["", "~", "null", "Null", "NULL"].map String.toList

def boolWords : List Text :=
  ["yes", "Yes", "YES", "no", "No", "NO", "true", "True", "TRUE", "false", "False", "FALSE", "on",
    "On", "ON", "off", "Off", "OFF"].map String.toList

/-- A digit or the underscore that may stand between digits. -/
def isSpacedDigit (c : Char) : Bool := c.isDigit || c = '_'

/-- Digits with underscores among them, the first a digit. -/
def isSpacedNumber : Text → Bool
  | c :: s => c.isDigit && s.all isSpacedDigit
  | [] => false

def isSixtieth : Text → Bool
  | [d] => d.isDigit
  | [t, d] => '0' ≤ t && t ≤ '5' && d.isDigit
  | _ => false

def isSpacedHexDigit (c : Char) : Bool :=
  isSpacedDigit c || ('a' ≤ c && c ≤ 'f') || ('A' ≤ c && c ≤ 'F')

/-- A whole number without its sign: binary, hexadecimal, octal, in sixtieths, or decimal. -/
def isUnsignedInt (s : Text) : Bool :=
  match s with
  | '0' :: 'b' :: digits => digits ≠ [] && digits.all fun c => c = '0' || c = '1' || c = '_'
  | '0' :: 'x' :: digits => digits ≠ [] && digits.all isSpacedHexDigit
  | '0' :: digits => digits.all fun c => ('0' ≤ c && c ≤ '7') || c = '_'
  | s =>
    match s.splitOn ':' with
    | whole :: sixtieths => isSpacedNumber whole && sixtieths.all isSixtieth
    | [] => false

def isInt (s : Text) : Bool := isUnsignedInt (unsigned s)

/-- Nothing, or an exponent with its sign. -/
def isExponent : Text → Bool
  | [] => true
  | e :: sign :: digits =>
    (e = 'e' || e = 'E') && (sign = '+' || sign = '-') && digits ≠ [] && digits.all Char.isDigit
  | _ => false

/-- What may follow the digits before a point: more of them, and an exponent. -/
def isFraction (s : Text) : Bool := isExponent (s.dropWhile isSpacedDigit)

/-- A point between digits, with digits before it. -/
def isPointed (s : Text) : Bool :=
  match s.dropWhile (· ≠ '.') with
  | _ :: fraction => isSpacedNumber (s.takeWhile (· ≠ '.')) && isFraction fraction
  | [] => false

/-- A number in sixtieths whose last place has a point. -/
def isPointedSixtieths (s : Text) : Bool :=
  match s.dropWhile (· ≠ '.') with
  | _ :: fraction =>
    fraction.all isSpacedDigit &&
      match (s.takeWhile (· ≠ '.')).splitOn ':' with
      | whole :: next :: sixtieths =>
        isSpacedNumber whole && (next :: sixtieths).all isSixtieth
      | _ => false
  | [] => false

/-- A number with a point in it, infinity, or no number. -/
def isFloat (s : Text) : Bool :=
  isPointed (unsigned s) || isPointedSixtieths (unsigned s)
    || (match s with
      | '.' :: d :: fraction => d.isDigit && isFraction fraction
      | _ => false)
    || [".inf", ".Inf", ".INF"].any (·.toList = unsigned s)
    || [".nan", ".NaN", ".NAN"].any (·.toList = s)

def decimal (digits : Text) : Nat :=
  digits.foldl (fun n d => n * 10 + (d.toNat - '0'.toNat)) 0

/-- Takes between `least` and `most` digits. -/
def digits? (least most : Nat) (s : Text) : Option (Nat × Text) :=
  let taken := (s.take most).takeWhile Char.isDigit
  if taken.length < least then none else some (decimal taken, s.drop taken.length)

/-- A time of day, and its distance from universal time in minutes if one is given. -/
structure Time where
  hour : Nat
  minute : Nat
  second : Nat
  zone : Option Int
  deriving DecidableEq, Repr

/-- A date, and the time of day if one is given. -/
structure Timestamp where
  year : Nat
  month : Nat
  day : Nat
  time : Option Time
  deriving DecidableEq, Repr

/-- Reads the hours and minutes of a distance from universal time. -/
def zoneMinutes? (s : Text) : Option Nat := do
  let (hours, rest) ← digits? 1 2 s
  match rest with
  | [] => return hours * 60
  | ':' :: rest =>
    let (minutes, rest) ← digits? 2 2 rest
    if rest = [] then return hours * 60 + minutes else none
  | _ => none

/-- Reads nothing, or blanks and then the letter for universal time or the distance from it. -/
def zone? (s : Text) : Option (Option Int) :=
  match s.dropWhile fun c => c = ' ' || c = '\t' with
  | [] => if s = [] then some none else none
  | ['Z'] => some none
  | '+' :: rest => (zoneMinutes? rest).map fun n => some (n : Int)
  | '-' :: rest => (zoneMinutes? rest).map fun n => some (-(n : Int))
  | _ => none

/-- The sign between a date and a time: a letter, or blanks. -/
def timeMark? : Text → Option Text
  | 'T' :: s => some s
  | 't' :: s => some s
  | s =>
    let rest := s.dropWhile fun c => c = ' ' || c = '\t'
    if rest.length < s.length then some rest else none

/-- Reads a time of day: hours, minutes and seconds, a fraction, and the zone. -/
def time? (s : Text) : Option Time := do
  let (hour, s) ← digits? 1 2 s
  let (minute, s) ← digits? 2 2 (← Text.after? [':'] s)
  let (second, s) ← digits? 2 2 (← Text.after? [':'] s)
  let s := match s with
    | '.' :: s => s.dropWhile Char.isDigit
    | s => s
  return ⟨hour, minute, second, ← zone? s⟩

def timestamp? (s : Text) : Option Timestamp := do
  let (year, s) ← digits? 4 4 s
  let (month, s) ← digits? 1 2 (← Text.after? ['-'] s)
  let (day, s) ← digits? 1 2 (← Text.after? ['-'] s)
  if s = [] then return ⟨year, month, day, none⟩
  else return ⟨year, month, day, some (← time? (← timeMark? s))⟩

/-- Is it spelled like a date or a date with a time? Alone, a date has two digits for month and
day. -/
def isTimestamp (s : Text) : Bool :=
  match timestamp? s with
  | none => false
  | some t => t.time.isSome || s.length = 10

def withoutNewline (s : Text) : Text := if s.getLast? = some '\n' then s.dropLast else s

/-- The kind that a spelling has, without a line feed behind it. -/
def spelledKind (s : Text) : Kind :=
  if nullWords.contains s then .null
  else if boolWords.contains s then .bool
  else if isFloat s then .float
  else if isInt s then .int
  else if isTimestamp s then .timestamp
  else if s = ['<', '<'] then .merge
  else if s = ['='] then .value
  else if [['!'], ['&'], ['*']].contains s then .unknown
  else .text

/-- The kind that a spelling has. A line feed alone is a text. -/
def Kind.ofSpelling (s : RawText) : Kind :=
  match s.toText? with
  | some ['\n'] => .text
  | some s => spelledKind (withoutNewline s)
  | none => .text

end Yaml

end Dialects
