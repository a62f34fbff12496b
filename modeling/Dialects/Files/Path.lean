import Dialects.Text.Basic

/-!
# Paths

A path is its components, with empty ones and single dots left out, and the slashes it starts
with. Two dots are kept: what they lead to depends on the files.
-/

namespace Dialects

/-- A path: one slash at its start, exactly two, or none, and its components. -/
structure Path where
  slashes : Nat
  parts : List Text
  deriving DecidableEq, Repr

namespace Path

/-- Components that lead nowhere. -/
def isIdle (part : Text) : Bool := part = [] || part = ['.']

/-- The path that a text names. Three and more slashes at the start are as good as one. -/
def ofText (s : Text) : Path :=
  let n := (s.takeWhile (· = '/')).length
  { slashes := if n = 2 then 2 else min n 1
    parts := (s.splitOn '/').filter fun part => !isIdle part }

/-- The text of a path; the path without components is a dot. -/
def toText (p : Path) : Text :=
  if p.slashes = 0 ∧ p.parts = [] then ['.']
  else List.replicate p.slashes '/' ++ ['/'].intercalate p.parts

/-- Can no file have this path because of a null character in it? -/
def hasNull (p : Path) : Bool := p.parts.any (·.contains '\x00')

end Path

end Dialects
