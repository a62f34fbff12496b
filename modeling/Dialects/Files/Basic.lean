import Dialects.Files.Path
import Dialects.Text.Newline
import Dialects.Text.Utf8

/-!
# Files

Files and directories by their location, and the reading and writing of files at a path. A path is
followed component by component from the working directory or from the root; every component but
the last must be a directory. Writing replaces the whole content of one file (`Files.put`).
-/

namespace Dialects

/-- The components that lead from the root to a file or directory. -/
abbrev Location := List Text

inductive Entry
  | file (bytes : List UInt8)
  | directory
  deriving DecidableEq, Repr

/-- All files and directories, and the directory that relative paths start from. -/
structure Files where
  workingDirectory : Location
  get? : Location → Option Entry

inductive PathFault
  | notFound
  | notDirectory
  | isDirectory
  | nameTooLong
  deriving DecidableEq, Repr

structure PathError where
  fault : PathFault
  path : Path
  deriving DecidableEq, Repr

def PathFault.number : PathFault → Nat
  | .notFound => 2
  | .notDirectory => 20
  | .isDirectory => 21
  | .nameTooLong => 36

def PathFault.message : PathFault → Text
  | .notFound => "No such file or directory".toList
  | .notDirectory => "Not a directory".toList
  | .isDirectory => "Is a directory".toList
  | .nameTooLong => "File name too long".toList

def PathError.message (e : PathError) : Text :=
  "[Errno ".toList ++ (toString e.fault.number).toList ++ "] ".toList ++ e.fault.message
    ++ ": ".toList ++ e.path.toText.quoted

namespace Files

/-- The files at these locations, and the directories above them. -/
def ofList (workingDirectory : Location) (files : List (Location × List UInt8)) : Files where
  workingDirectory
  get? location :=
    match files.lookup location with
    | some bytes => some (.file bytes)
    | none =>
      if location.isPrefixOf workingDirectory || files.any fun f => location.isPrefixOf f.1 then
        some .directory
      else none

/-- The location that a component leads to from a directory. -/
def enter (location : Location) (part : Text) : Location :=
  if part = ['.', '.'] then location.dropLast else location ++ [part]

def longestPart : Nat := 255

def longestPath : Nat := 4095

/-- The number of bytes that a text has in a path. -/
def width (s : Text) : Nat := (Utf8.encode s).length

/-- Follows components from a directory; only the last may lead to no directory, or nowhere. -/
def follow (files : Files) (location : Location) : List Text → Except PathFault Location
  | [] => .ok location
  | part :: parts =>
    if longestPart < width part then .error .nameTooLong
    else if parts = [] then .ok (enter location part)
    else
      match files.get? (enter location part) with
      | none => .error .notFound
      | some (.file _) => .error .notDirectory
      | some .directory => follow files (enter location part) parts

def locate (files : Files) (p : Path) : Except PathFault Location :=
  if longestPath < width p.toText then .error .nameTooLong
  else files.follow (if p.slashes = 0 then files.workingDirectory else []) p.parts

/-- Is there a file or a directory at the path? For a path that is too long there is no answer. -/
def has (files : Files) (p : Path) : Except PathError Bool :=
  if p.hasNull then .ok false
  else
    match files.locate p with
    | .ok location => .ok (files.get? location).isSome
    | .error .nameTooLong => .error ⟨.nameTooLong, p⟩
    | .error _ => .ok false

def read (files : Files) (p : Path) : Except PathError (List UInt8) :=
  match files.locate p with
  | .error fault => .error ⟨fault, p⟩
  | .ok location =>
    match files.get? location with
    | none => .error ⟨.notFound, p⟩
    | some .directory => .error ⟨.isDirectory, p⟩
    | some (.file bytes) => .ok bytes

/-- The location of the file that writing at the path makes or replaces. -/
def target (files : Files) (p : Path) : Except PathError Location :=
  match files.locate p with
  | .error fault => .error ⟨fault, p⟩
  | .ok location =>
    if files.get? location = some .directory then .error ⟨.isDirectory, p⟩ else .ok location

def put (files : Files) (location : Location) (bytes : List UInt8) : Files :=
  { files with
    get? := fun other => if other = location then some (.file bytes) else files.get? other }

@[simp] theorem get?_put_self (files : Files) (location : Location) (bytes : List UInt8) :
    (files.put location bytes).get? location = some (.file bytes) := by
  simp [put]

theorem get?_put_of_ne (files : Files) {location other : Location} (bytes : List UInt8)
    (h : other ≠ location) : (files.put location bytes).get? other = files.get? other := by
  simp [put, h]

end Files

/-- The text of a file's bytes: UTF-8 with any line ends. -/
def decodeFile (bytes : List UInt8) : Except Utf8.Fault Text :=
  (Utf8.decode bytes).map Text.unifyNewlines

end Dialects
