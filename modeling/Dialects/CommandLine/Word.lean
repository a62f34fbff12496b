import Dialects.CommandLine.Flag
import Dialects.Text.Digit

/-!
# Words of the command line

Each argument is an option or a word of its own. An argument that starts with a hyphen is a word
nevertheless if it is only the hyphen, looks like a negative number, or is no option and has a
space in it. Behind two hyphens every argument is a word.
-/

namespace Dialects

inductive Word
  | plain (argument : Text)
  /-- The two hyphens that end the options. -/
  | separator
  /-- An option, and the text attached to it if there is one. -/
  | option (flag : Flag) (long : Bool) (attached : Option Text)
  | unknown (argument : Text)
  deriving DecidableEq, Repr

namespace Word

/-- The text before the first equals sign, and the text behind it if there is one. -/
def cutAtEquals (s : Text) : Text × Option Text :=
  match s.dropWhile (· ≠ '=') with
  | [] => (s, none)
  | _ :: value => (s.takeWhile (· ≠ '='), some value)

/-- Does the argument look like a negative number? One line feed may follow. -/
def isNegativeNumber : Text → Bool
  | '-' :: s =>
    let s := if s.getLast? = some '\n' then s.dropLast else s
    let behind := s.dropWhile isDigit
    match behind with
    | [] => s ≠ []
    | '.' :: digits => digits ≠ [] && digits.all isDigit
    | _ => false
  | _ => false

/-- The readings of an argument as an abbreviated option or a short one with its value attached,
with the spelling of the option. -/
def readings (argument : Text) : List (Text × Word) :=
  match argument with
  | '-' :: '-' :: _ =>
    let (lead, value?) := cutAtEquals argument
    Flag.table.filterMap fun (spelling, flag) =>
      if lead.isPrefixOf spelling then
        some (spelling, .option flag true value?)
      else none
  | _ =>
    Flag.table.filterMap fun (spelling, flag) =>
      if spelling = argument.take 2 then
        some (spelling, .option flag false (some (argument.drop 2)))
      else none

def isLong (spelling : Text) : Bool := ['-', '-'].isPrefixOf spelling

def ofArgument (argument : Text) : Except Misuse Word :=
  if argument.head? ≠ some '-' || argument = ['-'] then .ok (.plain argument)
  else
    match Flag.ofSpelling? argument with
    | some flag => .ok (.option flag (isLong argument) none)
    | none =>
      let (lead, value?) := cutAtEquals argument
      match value?, Flag.ofSpelling? lead with
      | some value, some flag => .ok (.option flag (isLong lead) (some value))
      | _, _ =>
        match readings argument with
        | [] =>
          if isNegativeNumber argument || argument.contains ' ' then .ok (.plain argument)
          else .ok (.unknown argument)
        | [(_, word)] => .ok word
        | several => .error (.ambiguous argument (several.map (·.1)))

def ofArguments : List Text → Except Misuse (List Word)
  | [] => .ok []
  | argument :: rest =>
    if argument = ['-', '-'] then .ok (.separator :: rest.map .plain)
    else do
      let word ← ofArgument argument
      return word :: (← ofArguments rest)

end Word

end Dialects
