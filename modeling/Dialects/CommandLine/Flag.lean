import Dialects.Direction

/-!
# Options

The options of the command line by their spellings. A short option may have its value attached; a
long one may be abbreviated, and has its value behind an equals sign or in the next argument.
-/

namespace Dialects

inductive Flag
  | help
  | direction
  | sample
  | output
  | config
  | swap
  | strict
  deriving DecidableEq, Repr

namespace Flag

def all : List Flag := [.help, .direction, .sample, .output, .config, .swap, .strict]

/-- The spellings of an option, the short one first. -/
def spellings : Flag → List Text
  | .help => [['-', 'h'], "--help".toList]
  | .direction => [['-', 'd'], "--direction".toList]
  | .sample => ["--sample".toList]
  | .output => [['-', 'o'], "--output".toList]
  | .config => [['-', 'c'], "--config".toList]
  | .swap => ["--swap".toList]
  | .strict => ["--strict".toList]

def name (f : Flag) : Text := ['/'].intercalate f.spellings

def hasValue : Flag → Bool
  | .direction | .output | .config => true
  | .help | .sample | .swap | .strict => false

/-- All spellings with their options, in order. -/
def table : List (Text × Flag) := all.flatMap fun f => f.spellings.map (·, f)

def ofSpelling? (s : Text) : Option Flag := table.lookup s

end Flag

inductive Misuse
  /-- The abbreviation stands for more than one spelling. -/
  | ambiguous (argument : Text) (spellings : List Text)
  | valueMissing (flag : Flag)
  /-- The option has no value, but one is attached. -/
  | valueIgnored (flag : Flag) (value : Text)
  | notAChoice (flag : Flag) (value : Text)
  /-- The option excludes one given before. -/
  | excluded (flag earlier : Flag)
  | unrecognized (arguments : List Text)
  deriving DecidableEq, Repr

def Misuse.message : Misuse → Text
  | .ambiguous argument spellings =>
    "ambiguous option: ".toList ++ argument ++ " could match ".toList
      ++ [',', ' '].intercalate spellings
  | .valueMissing flag => "argument ".toList ++ flag.name ++ ": expected one argument".toList
  | .valueIgnored flag value =>
    "argument ".toList ++ flag.name ++ ": ignored explicit argument ".toList ++ value.quoted
  | .notAChoice flag value =>
    "argument ".toList ++ flag.name ++ ": invalid choice: ".toList ++ value.quoted
      ++ " (choose from ".toList
      ++ [',', ' '].intercalate (Direction.all.map (·.name.quoted)) ++ [')']
  | .excluded flag earlier =>
    "argument ".toList ++ flag.name ++ ": not allowed with argument ".toList ++ earlier.name
  | .unrecognized arguments =>
    "unrecognized arguments: ".toList ++ [' '].intercalate arguments

end Dialects
