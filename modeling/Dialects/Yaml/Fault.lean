import Dialects.Text.Numeral
import Dialects.Text.Utf8

/-!
# What is wrong with a YAML text

A text that breaks the rules of the format is malformed, and no more is said about it. Other faults
say what they are: bytes that are no text, scalars without a value of their type, and what has no
end.
-/

namespace Dialects

namespace Yaml

inductive ScalarFault
  /-- An escape gives a number past the last code point. -/
  | noCodePoint
  /-- An escape gives a number of 32 bits. -/
  | wideCodePoint
  | numeral (e : NumeralFault)
  | emptyNumber
  /-- A number in so many sixtieths that the first place is past every size. -/
  | endlessNumber
  /-- A truth value by another word than the usual ones, given in lower case. -/
  | noTruth (word : RawText)
  | noTimestamp
  /-- A timestamp that a mapping stands for. -/
  | timestampMapping
  | year (n : Nat)
  | month
  | day
  | hour
  | minute
  | second
  /-- A distance from universal time of a day and more. -/
  | zone (minutes : Int)
  deriving DecidableEq, Repr

inductive Fault
  /-- It breaks the rules of the format. -/
  | malformed
  | undecodable (e : Utf8.Fault)
  | scalar (e : ScalarFault)
  /-- What stands for a scalar leads back to itself, or the nesting is deeper than a reader can
  follow. -/
  | endless
  deriving DecidableEq, Repr

/-- A distance from universal time in whole days and seconds of the day. -/
def distance (minutes : Int) : Text :=
  let days := minutes.fdiv 1440
  let seconds := minutes.fmod 1440 * 60
  "datetime.timedelta(days=".toList ++ (toString days).toList
    ++ (if seconds = 0 then [] else ", seconds=".toList ++ (toString seconds).toList) ++ [')']

def ScalarFault.message : ScalarFault → Text
  | .noCodePoint => "chr() arg not in range(0x110000)".toList
  | .wideCodePoint => "Python int too large to convert to C int".toList
  | .numeral e => e.message
  | .emptyNumber => "string index out of range".toList
  | .endlessNumber => "int too large to convert to float".toList
  | .noTruth word => word.quoted
  | .noTimestamp => "'NoneType' object has no attribute 'groupdict'".toList
  | .timestampMapping => "expected string or bytes-like object, got 'list'".toList
  | .year n => "year ".toList ++ (toString n).toList ++ " is out of range".toList
  | .month => "month must be in 1..12".toList
  | .day => "day is out of range for month".toList
  | .hour => "hour must be in 0..23".toList
  | .minute => "minute must be in 0..59".toList
  | .second => "second must be in 0..59".toList
  | .zone minutes =>
    "offset must be a timedelta strictly between -timedelta(hours=24) and ".toList
      ++ "timedelta(hours=24), not ".toList ++ distance minutes ++ ['.']

def Fault.message : Fault → Text
  | .malformed => "Invalid YAML file".toList
  | .undecodable e => e.message
  | .scalar e => e.message
  | .endless => "maximum recursion depth exceeded".toList

end Yaml

end Dialects
