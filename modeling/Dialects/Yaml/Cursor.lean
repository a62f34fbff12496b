import Dialects.Yaml.Fault

/-!
# Places in a YAML text

A cursor is what is left of a text, with the place it starts at: the number of characters before it,
its line and its column. Line ends are line feeds, the next-line character and the two Unicode
separators. A text may end where its bytes cannot be read on, and a reader that looks there meets
that fault (`Scan.look`).
-/

namespace Dialects

namespace Yaml

def isBreak (c : Char) : Bool := c = '\n' || c = '\u0085' || c = '\u2028' || c = '\u2029'

/-- A space, a tab or a line end. -/
def isGap (c : Char) : Bool := c = ' ' || c = '\t' || isBreak c

def gapOrEnd : Option Char → Bool
  | none => true
  | some c => isGap c

def spaceOrEnd : Option Char → Bool
  | none => true
  | some c => c = ' ' || isBreak c

/-- The rest of a text and the place where it starts. -/
structure Cursor where
  rest : Text
  /-- What is met behind the rest, if it is not the end of the text. -/
  ending : Option Fault := none
  index : Nat := 0
  line : Nat := 0
  column : Nat := 0

namespace Cursor

/-- The cursor behind its character. A byte order mark takes no column. -/
def next (c : Cursor) : Cursor :=
  match c.rest with
  | [] => c
  | ch :: rest =>
    if isBreak ch then { c with rest, index := c.index + 1, line := c.line + 1, column := 0 }
    else
      { c with
        rest
        index := c.index + 1
        column := if ch = '\ufeff' then c.column else c.column + 1 }

def skip (c : Cursor) : Nat → Cursor
  | 0 => c
  | n + 1 => c.next.skip n

end Cursor

abbrev Scan := StateT Cursor (Except Fault)

namespace Scan

def malformed {α : Type} : Scan α := throw .malformed

def require (rule : Bool) : Scan PUnit := if rule then pure ⟨⟩ else malformed

/-- More steps than the rest of the text has characters. -/
def steps : Scan Nat := return (← get).rest.length + 1

def look (n : Nat) : Scan PUnit := do
  match (← get).ending with
  | none => pure ⟨⟩
  | some fault => if ((← get).rest.drop n).isEmpty then throw fault

def peekAt (n : Nat) : Scan (Option Char) := do
  look n
  return (← get).rest[n]?

def peek : Scan (Option Char) := peekAt 0

def sees (ch : Char) : Scan Bool := return (← peek) = some ch

def skip (n : Nat) : Scan PUnit := do
  modify (·.skip n)
  look 0

/-- Goes on behind this character, if it is at the cursor, and says so. -/
def accept (ch : Char) : Scan Bool := do
  if ← sees ch then
    skip 1
    return true
  else return false

def expect (ch : Char) : Scan PUnit := do require (← accept ch)

/-- Goes on behind the characters that pass the test, and gives them. -/
def span (test : Char → Bool) : Scan Text := do
  let taken := (← get).rest.takeWhile test
  skip taken.length
  return taken

def skipWhile (test : Char → Bool) : Scan PUnit := do let _ ← span test

/-- Goes on behind the line end at the cursor, if there is one, and gives it as it counts in a
scalar. -/
def lineEnd? : Scan (Option Char) := do
  match ← peek with
  | some ch =>
    if isBreak ch then
      skip 1
      return some (if ch = '\u0085' then '\n' else ch)
    else return none
  | none => return none

/-- Do three of this character stand at the cursor as a word of their own? -/
def seesMarker (ch : Char) : Scan Bool := do
  look 2
  if (← get).rest.take 3 = [ch, ch, ch] then return gapOrEnd (← peekAt 3) else return false

def seesDocumentMarker : Scan Bool := do
  if ← seesMarker '-' then return true else seesMarker '.'

/-- Goes on behind a comment, if there is one, up to the end of its line. -/
def skipComment : Scan PUnit := do
  if ← sees '#' then skipWhile (!isBreak ·)

/-- Goes to the end of a line that may hold only a comment, and behind it. -/
def endLine : Scan PUnit := do
  skipWhile (· = ' ')
  skipComment
  match ← lineEnd? with
  | some _ => pure ⟨⟩
  | none => require ((← peek) = none)

end Scan

end Yaml

end Dialects
