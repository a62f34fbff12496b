import Dialects.CommandLine.Word
import Dialects.Files.Path

/-!
# The options of a run

The words of the command line are taken in order. An option acts at once: help ends the reading, and
a misuse does too. One word is the input; any other is left over, as is an unknown option, and what
is left over is a misuse at the end.
-/

namespace Dialects

/-- What an option with a value is given. -/
inductive Supplied (α : Type)
  | missing
  /-- Two hyphens attached to the option: it is given, but without a value. -/
  | nothing
  | value (a : α)
  deriving DecidableEq, Repr

/-- What the command line asks for. A hyphen as a file is standard input or output. -/
structure Options where
  input : Text := ['-']
  output : Supplied Text := .missing
  direction : Supplied Direction := .missing
  config : Supplied Path := .missing
  sample : Bool := false
  swap : Bool := false
  strict : Bool := false
  deriving DecidableEq, Repr

/-- Why there are no options. -/
inductive Halt
  | help
  | misuse (m : Misuse)
  deriving DecidableEq, Repr

namespace Options

/-- The options read so far, whether the input is still to come, and what is left over. -/
structure Progress where
  options : Options := {}
  inputOpen : Bool := true
  leftOver : List Text := []
  deriving DecidableEq, Repr

namespace Progress

def withInput (p : Progress) (input : Text) : Progress :=
  { p with options := { p.options with input }, inputOpen := false }

def leave (p : Progress) (word : Text) : Progress := { p with leftOver := p.leftOver ++ [word] }

/-- The progress with a direction, which excludes the sample. -/
def withDirection (p : Progress) (direction : Supplied Direction) : Except Halt Progress :=
  if p.options.sample then .error (.misuse (.excluded .direction .sample))
  else .ok { p with options := { p.options with direction } }

/-- An option acts, with a value if it has one and is not given nothing. -/
def act (p : Progress) (flag : Flag) (value? : Option Text) : Except Halt Progress :=
  let o := p.options
  match flag, value? with
  | .help, _ => .error .help
  | .direction, none => p.withDirection .nothing
  | .direction, some name =>
    match Direction.ofName? name with
    | none => .error (.misuse (.notAChoice .direction name))
    | some d => p.withDirection (.value d)
  | .sample, _ =>
    if o.direction ≠ .missing then .error (.misuse (.excluded .sample .direction))
    else .ok { p with options := { o with sample := true } }
  | .output, none => .ok { p with options := { o with output := .nothing } }
  | .output, some name => .ok { p with options := { o with output := .value name } }
  | .config, none => .ok { p with options := { o with config := .nothing } }
  | .config, some name =>
    .ok { p with options := { o with config := .value (Path.ofText name) } }
  | .swap, _ => .ok { p with options := { o with swap := true } }
  | .strict, _ => .ok { p with options := { o with strict := true } }

/-- What is wrong with the text attached to a short option that has no value: it must spell more
short options, of which the last may have its value attached or in the next word. -/
def clusterMisuse? (next : Option Word) (flag : Flag) : Text → Option Misuse
  | [] => some (.valueIgnored flag [])
  | c :: rest =>
    match Flag.ofSpelling? ['-', c] with
    | none => some (.valueIgnored flag (c :: rest))
    | some following =>
      if following.hasValue then
        match rest, next with
        | [], some (.plain _) => none
        | [], _ => some (.valueMissing following)
        | _, _ => none
      else if rest = [] then none
      else clusterMisuse? next following rest

/-- The value that the text attached to an option is. Two hyphens attached are dropped like those
between the words, and nothing is left of the value. This is the older convention of command lines;
by the newer one they are the value. -/
def attachedValue (attached : Text) : Option Text :=
  if attached = ['-', '-'] then none else some attached

def actAttached (p : Progress) (flag : Flag) (long : Bool) (attached : Text)
    (next : Option Word) : Except Halt Progress :=
  if flag.hasValue then p.act flag (attachedValue attached)
  else if long then .error (.misuse (.valueIgnored flag attached))
  else
    match clusterMisuse? next flag attached with
    | some m => .error (.misuse m)
    | none => p.act flag none

def take (p : Progress) : List Word → Except Halt Progress
  | [] => .ok p
  | .unknown argument :: words => (p.leave argument).take words
  | .plain argument :: words =>
    if p.inputOpen then
      match words with
      | .separator :: words => (p.withInput argument).take words
      | words => (p.withInput argument).take words
    else (p.leave argument).take words
  | .separator :: words =>
    if p.inputOpen then
      match words with
      | .plain argument :: words => (p.withInput argument).take words
      | words => take { p with inputOpen := false } words
    else (p.leave ['-', '-']).take words
  | .option flag long (some attached) :: words => do
    (← p.actAttached flag long attached words.head?).take words
  | .option flag _ none :: words =>
    if flag.hasValue then
      match words with
      | .plain value :: words => do (← p.act flag (some value)).take words
      | _ => .error (.misuse (.valueMissing flag))
    else do (← p.act flag none).take words

end Progress

def ofArguments (arguments : List Text) : Except Halt Options := do
  let words ← (Word.ofArguments arguments).mapError .misuse
  let p ← Progress.take {} words
  if p.leftOver = [] then return p.options else throw (.misuse (.unrecognized p.leftOver))

end Options

end Dialects
