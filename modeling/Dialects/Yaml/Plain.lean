import Dialects.Yaml.Cursor

/-!
# Plain scalars

A scalar without quotes ends before a colon or a comment that stands apart, in a flow collection
also before its marks, and may go on over lines that are indented enough. A single line end in it
counts as a space, and of several the first does not count.
-/

namespace Dialects

namespace Yaml

/-- Does a plain scalar end before `c`, which has `next` behind it? -/
def plainEndsAt (flow : Bool) (c : Char) (next : Option Char) : Bool :=
  isGap c
    || (c = ':' && (gapOrEnd next || (flow && next.any [',', '[', ']', '\x7b', '\x7d'].contains)))
    || (flow && [',', '?', '[', ']', '\x7b', '\x7d'].contains c)

/-- The part of a plain scalar without gaps. -/
def plainWordOf (flow : Bool) : Text → Text
  | [] => []
  | c :: s => if plainEndsAt flow c s.head? then [] else c :: plainWordOf flow s

namespace Scan

/-- Reads the part of a plain scalar without gaps. At a colon it looks at what follows. -/
def plainWord (flow : Bool) : Scan Text := do
  let word := plainWordOf flow (← get).rest
  if (← peekAt word.length) = some ':' then look (word.length + 1)
  skip word.length
  return word

/-- Reads the line ends behind the first one, between which only spaces stand; nothing if a document
marker is met. -/
def plainBreaks : Nat → Scan (Option Text)
  | 0 => return some []
  | fuel + 1 => do
    if ← accept ' ' then plainBreaks fuel
    else
      match ← lineEnd? with
      | none => return some []
      | some ch =>
        if ← seesDocumentMarker then return none
        else return (← plainBreaks fuel).map (ch :: ·)

/-- Reads a gap in a plain scalar: what it counts as, and whether it goes over a line end. The gap
that ends the scalar counts as nothing. -/
def plainGap : Scan (Text × Bool) := do
  let spaces ← span (· = ' ')
  match ← lineEnd? with
  | none => return (spaces, false)
  | some ch =>
    if ← seesDocumentMarker then return ([], true)
    else
      match ← plainBreaks (← steps) with
      | none => return ([], true)
      | some breaks =>
        return (if ch ≠ '\n' then ch :: breaks else if breaks = [] then [' '] else breaks, true)

/-- Reads the rest of a plain scalar with the gap before it, if a word follows; with it comes whether
a line end stands behind the scalar. -/
def plainBehind (flow : Bool) (indent : Nat) : Nat → Text → Bool → Scan (Text × Bool)
  | 0, _, crossed => return ([], crossed)
  | fuel + 1, gap, crossed => do
    if ← sees '#' then return ([], crossed)
    else
      let word ← plainWord flow
      if word = [] then return ([], crossed)
      else
        let (next, crossed) ← plainGap
        if next = [] || (← sees '#') || (!flow && (← get).column < indent) then
          return (gap ++ word, crossed)
        else
          let (later, crossed) ← plainBehind flow indent fuel next crossed
          return (gap ++ word ++ later, crossed)

/-- Reads a plain scalar in a collection of this indent; with it comes whether a line end stands
behind it. -/
def plain (flow : Bool) (indent : Nat) : Scan (Text × Bool) := do
  plainBehind flow indent (← steps) [] false

end Scan

end Yaml

end Dialects
