import Dialects.CommandLine.Usage
import Dialects.Config.Load
import Dialects.Conversion
import Dialects.Sample

/-!
# A run of the program

A run loads the settings, reads a document, converts it and writes the result. What it does is a
function of what it finds: an exit, what it prints, and at most one file that it writes
(`Outcome.files`). A run that fails on the way writes no document at all.
-/

namespace Dialects

/-- What a run finds: files, standard input, variables, the file of variables, and the loader of its
settings. Standard input is in UTF-8 or else cannot be read. -/
structure Host where
  files : Files
  input : List UInt8 := []
  environment : Variables := []
  variableFile : Option (List UInt8) := none
  loader : Loader := .standard

/-- An error that ends a run without a report of its own. -/
inductive Unforeseen
  | config (e : ConfigError)
  /-- The configuration file is given, but without a name. -/
  | noConfigName
  /-- The output is given, but without a name. -/
  | noOutputName
  /-- A path with a null character in it. -/
  | nullInPath
  deriving DecidableEq, Repr

def Unforeseen.message : Unforeseen → Text
  | .config e => e.message
  | .noConfigName => "'list' object has no attribute 'exists'".toList
  | .noOutputName => "expected str, bytes or os.PathLike object, not list".toList
  | .nullInPath => "embedded null byte".toList

inductive Exit
  | status (n : Nat)
  | unforeseen (e : Unforeseen)
  deriving DecidableEq, Repr

structure Outcome where
  exit : Exit
  output : Text := []
  errors : Text := []
  /-- The file that is written, with its whole content. -/
  written : Option (Location × List UInt8) := none
  deriving DecidableEq, Repr

def Outcome.files (o : Outcome) (host : Host) : Files :=
  match o.written with
  | none => host.files
  | some (location, bytes) => host.files.put location bytes

/-- The name of standard input and output. -/
def standard : Text := ['-']

/-- Is it the name of a file that cannot be because of a null character? -/
def isNullName (name : Text) : Bool := name ≠ standard && (Path.ofText name).hasNull

/-- Why a document cannot be read. -/
inductive ReadFault
  /-- Its name has a null character. -/
  | nullName
  | path (e : PathError)
  | undecodable (e : Utf8.Fault)
  deriving DecidableEq, Repr

/-- The document that cannot be read, by its name as given, and why. -/
structure ReadError where
  name : Text
  fault : ReadFault
  deriving DecidableEq, Repr

namespace ReadError

/-- The message of the error. One that is not foreseen says nothing of the document. -/
def message (e : ReadError) : Text :=
  let failedToRead := "Failed to read ".toList ++ e.name ++ ": ".toList
  match e.fault with
  | .nullName => Unforeseen.nullInPath.message
  | .path e => failedToRead ++ e.message
  | .undecodable e => failedToRead ++ e.message

/-- Is the error one that the program reports? A name that no file can have is not foreseen. -/
def foreseen (e : ReadError) : Bool := e.fault ≠ .nullName

end ReadError

def Host.document (host : Host) (name : Text) : Except ReadFault (List UInt8) :=
  if name = standard then .ok host.input
  else if isNullName name then .error .nullName
  else (host.files.read (Path.ofText name)).mapError .path

def Host.readDocument (host : Host) (name : Text) : Except ReadError Text := do
  let bytes ← (host.document name).mapError fun e => ⟨name, e⟩
  (decodeFile bytes).mapError fun e => ⟨name, .undecodable e⟩

/-- A run that ends with a report of what is wrong; `log` is what it logged before. -/
def failed (log message : Text) : Outcome :=
  ⟨.status 1, [], log ++ "md-scrapbox: ".toList ++ message ++ ['\n'], none⟩

/-- A run that ends without a report; `log` is what it logged before. -/
def aborted (log : Text) (e : Unforeseen) : Outcome := ⟨.unforeseen e, [], log, none⟩

/-- What a run converts by these options: the name of the document in the log, and its text. -/
def Options.source (o : Options) (host : Host) : Except ReadError (Text × Text) :=
  if o.sample then .ok ("sample".toList, sampleMarkdown)
  else (host.readDocument o.input).map (o.input, ·)

/-- The direction by the options and the settings. The sample goes from Markdown to Scrapbox. -/
def Options.directionWith (o : Options) (settings : Settings) : Direction :=
  if o.sample then .markdownToScrapbox
  else
    match o.direction with
    | .value d => d
    | _ => settings.direction

/-- The name of the document that the result goes to, unless the output is given without one. -/
def Options.outputName? (o : Options) : Option Text :=
  match o.output with
  | .missing => some standard
  | .nothing => none
  | .value name => some name

/-- Where a result for a document of this name goes: to standard output, or to a file. -/
def Host.target (host : Host) (name : Text) : Except PathError (Option Location) :=
  if name = standard then .ok none else (host.files.target (Path.ofText name)).map some

def summary (name : Text) (d : Direction) (warnings : List Warning) : LogRecord :=
  ⟨.info, .commandLine,
    "Converted ".toList ++ name ++ " (".toList ++ d.name ++ "), ".toList
      ++ (toString warnings.length).toList ++ " warning(s)".toList⟩

def Options.perform (o : Options) (settings : Settings) (host : Host) : Outcome :=
  match o.source host with
  | .error e => if e.foreseen then failed [] e.message else aborted [] .nullInPath
  | .ok (name, text) =>
    let d := o.directionWith settings
    let result := convertDocument d settings.codeLanguage o.swap text
    let log := LogRecord.shown settings.logLevel
      (documentRecords d settings.codeLanguage o.swap text)
    match o.outputName? with
    | none => aborted log .noOutputName
    | some output =>
      if isNullName output then aborted log .nullInPath
      else
        match host.target output with
        | .error e => failed log e.message
        | .ok target =>
          { exit := .status (if o.strict && result.warnings ≠ [] then 1 else 0)
            output := if target = none then result.text ++ ['\n'] else []
            errors := log ++ LogRecord.shown settings.logLevel [summary name d result.warnings]
            written := target.map (·, Utf8.encode result.text) }

/-- The path of the configuration file, if one is named. -/
def Options.configPath? (o : Options) : Option Path :=
  match o.config with
  | .value path => some path
  | _ => none

/-- A run with these arguments. What it prints is taken to come through in UTF-8: printing does not
fail. -/
def run (host : Host) (arguments : List Text) : Outcome :=
  match Options.ofArguments arguments with
  | .error .help => ⟨.status 0, help, [], none⟩
  | .error (.misuse m) => ⟨.status 2, [], m.report, none⟩
  | .ok o =>
    match Settings.load host.loader host.environment host.variableFile host.files
      o.configPath? with
    | .error e => if e.foreseen then failed [] e.message else aborted [] (.config e)
    | .ok settings =>
      if o.config = .nothing then aborted [] .noConfigName else o.perform settings host

end Dialects
