import Dialects.CommandLine.Run

/-!
# The program

Looks up what the arguments name, runs, and does what the run says. Only this module talks to the
system.
-/

namespace Dialects

/-- The locations on the way to a path. -/
def onTheWay (workingDirectory : Location) (p : Path) : List Location :=
  let start := if p.slashes = 0 then workingDirectory else []
  (List.range (p.parts.length + 1)).map fun n => (p.parts.take n).foldl Files.enter start

/-- The paths that a run with these options looks at. -/
def Options.paths (o : Options) : List Path :=
  o.configPath?.toList
    ++ ((o.input :: o.outputName?.toList).filter (· ≠ standard)).map Path.ofText

def locationText (location : Location) : String :=
  String.ofList (Path.toText ⟨1, location⟩)

def lookUp (location : Location) : IO (Option Entry) := do
  try
    let bytes ← IO.FS.readBinFile (locationText location)
    return some (.file bytes.toList)
  catch
    | .inappropriateType .. => return some .directory
    | _ => return none

/-- The part of the system's files that a run with these options looks at. -/
def lookAround (o : Options) : IO Files := do
  let workingDirectory := (Path.ofText (← IO.currentDir).toString.toList).parts
  let locations := (o.paths.filter (!·.hasNull)).flatMap (onTheWay workingDirectory)
  let found ← locations.mapM fun location => return (location, ← lookUp location)
  return { workingDirectory, get? := fun location => (found.lookup location).join }

def readInput : IO (List UInt8) := do
  return (← (← IO.getStdin).readBinToEnd).toList

/-- The bytes of the nearest file of variables, from the directory of the program upwards. -/
def readVariableFile : IO (Option (List UInt8)) := do
  let directory := (Path.ofText (← IO.appPath).toString.toList).parts.dropLast
  let upwards := (List.range (directory.length + 1)).reverse.map (directory.take ·)
  for location in upwards do
    if let some (.file bytes) ← lookUp (location ++ [".env".toList]) then return some bytes
  return none

/-- What a run with these options finds. -/
def Host.find (o : Options) : IO Host := do
  let level? ← IO.getEnv (String.ofList levelVariable)
  return {
    files := ← lookAround o
    input := ← if o.sample || o.input ≠ standard then pure [] else readInput
    environment := level?.toList.map fun level => (levelVariable, level.toList)
    variableFile := ← readVariableFile }

/-- Prints and writes what the outcome says, and gives the exit status. -/
def Outcome.carryOut (o : Outcome) : IO UInt32 := do
  match o.written with
  | none => pure ()
  | some (location, bytes) => IO.FS.writeBinFile (locationText location) bytes.toByteArray
  (← IO.getStderr).write (Utf8.encode o.errors).toByteArray
  (← IO.getStdout).write (Utf8.encode o.output).toByteArray
  match o.exit with
  | .status n => return n.toUInt32
  | .unforeseen e =>
    (← IO.getStderr).write (Utf8.encode (e.message ++ ['\n'])).toByteArray
    return 1

def start (arguments : List Text) : IO UInt32 := do
  let host ←
    match Options.ofArguments arguments with
    | .ok o => Host.find o
    | .error _ => pure { files := Files.ofList [] [] }
  (run host arguments).carryOut

end Dialects

def main (arguments : List String) : IO UInt32 :=
  Dialects.start (arguments.map String.toList)
