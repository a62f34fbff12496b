import Dialects.Yaml.Cursor

/-!
# Block scalars

A block scalar is the indented lines below its indicator. A literal one keeps its line ends; a
folded one turns a line end between two lines that start with no blank into a space. The header
says what happens to the line ends at the end, and may give the indent.
-/

namespace Dialects

namespace Yaml

/-- What happens to the line ends at the end of a block scalar. -/
inductive Chomping
  /-- The first stays. -/
  | clip
  /-- All go. -/
  | strip
  /-- All stay. -/
  | keep
  deriving DecidableEq, Repr

namespace Scan

/-- Reads the chomping indicator, if there is one. -/
def chomping? : Scan (Option Chomping) := do
  if ← accept '+' then return some .keep
  else if ← accept '-' then return some .strip
  else return none

/-- Reads the indentation indicator, if there is one. It must not be zero. -/
def increment? : Scan (Option Nat) := do
  match ← peek with
  | some d =>
    if d.isDigit then
      require (d ≠ '0')
      skip 1
      return some (d.toNat - '0'.toNat)
    else return none
  | none => return none

/-- Reads the indicators of a block scalar, in either order. -/
def blockHeader : Scan (Chomping × Option Nat) := do
  let chomping ← chomping?
  let increment ← increment?
  let chomping ← if chomping.isNone && increment.isSome then chomping? else pure chomping
  require (spaceOrEnd (← peek))
  return (chomping.getD .clip, increment)

/-- Reads the empty lines before the first line of text, and finds the widest indent among them and
it. -/
def leadingLines : Nat → Nat → Scan (Text × Nat)
  | 0, widest => return ([], widest)
  | fuel + 1, widest => do
    if ← accept ' ' then leadingLines fuel (max widest (← get).column)
    else
      match ← lineEnd? with
      | none => return ([], widest)
      | some ch =>
        let (later, widest) ← leadingLines fuel widest
        return (ch :: later, widest)

/-- Goes on over at most the indent. -/
def skipIndent (indent : Nat) : Nat → Scan PUnit
  | 0 => pure ⟨⟩
  | fuel + 1 => do
    if (← get).column < indent then
      if ← accept ' ' then skipIndent indent fuel

/-- Reads empty lines, each without its indent. -/
def blockBreaks (indent : Nat) : Nat → Scan Text
  | 0 => return []
  | fuel + 1 => do
    skipIndent indent indent
    match ← lineEnd? with
    | none => return []
    | some ch => return ch :: (← blockBreaks indent fuel)

/-- Is a space or a tab at the cursor? -/
def seesBlank : Scan Bool := return (← sees ' ') || (← sees '\t')

/-- Reads the lines of a block scalar from here on; `breaks` are the empty lines before them. The
result is the text, the line end of its last line, and the empty lines behind it. -/
def blockLines (folded : Bool) (indent : Nat) : Nat → Text → Scan (Text × Option Char × Text)
  | 0, breaks => return ([], none, breaks)
  | fuel + 1, breaks => do
    if (← get).column ≠ indent || (← peek) = none then return ([], none, breaks)
    else
      let startsBlank ← seesBlank
      let line ← span (!isBreak ·)
      let ending ← lineEnd?
      let later ← blockBreaks indent (← steps)
      if (← get).column ≠ indent || (← peek) = none then return (breaks ++ line, ending, later)
      else
        let between :=
          if folded && ending = some '\n' && !startsBlank && !(← seesBlank) then
            if later = [] then [' '] else []
          else ending.toList
        let (text, last) ← blockLines folded indent fuel later
        return (breaks ++ line ++ between ++ text, last)

/-- Reads a block scalar; `parent` is the indent of the collection it stands in, one more than its
column. -/
def block (folded : Bool) (parent : Nat) : Scan Text := do
  skip 1
  let (chomping, increment) ← blockHeader
  endLine
  let least := max parent 1
  let (breaks, indent) ←
    match increment with
    | none => do
      let (breaks, widest) ← leadingLines (← steps) 0
      pure (breaks, max least widest)
    | some n => do
      let indent := least + n - 1
      pure (← blockBreaks indent (← steps), indent)
  let (text, ending, later) ← blockLines folded indent (← steps) breaks
  return match chomping with
    | .strip => text
    | .clip => text ++ ending.toList
    | .keep => text ++ ending.toList ++ later

end Scan

end Yaml

end Dialects
