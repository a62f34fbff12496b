import Dialects.Text.Utf8
import Dialects.Yaml.Block
import Dialects.Yaml.Quoted
import Dialects.Yaml.Token

/-!
# Anchors, tags and directives

The words of YAML that are no scalars: the name of an anchor or an alias, a tag with its handle,
and the line that a percent sign starts.
-/

namespace Dialects

namespace Yaml

/-- A letter, a digit, a hyphen or an underscore, all of them ASCII. -/
def isNameChar (c : Char) : Bool := c.isAlphanum || c = '-' || c = '_'

/-- The characters that an address holds, apart from the percent sign of an escape. -/
def isUriChar (c : Char) : Bool :=
  c.isAlphanum || ['-', ';', '/', '?', ':', '@', '&', '=', '+', '$', ',', '_', '.', '!', '~', '*',
    '\'', '(', ')', '[', ']'].contains c

namespace Scan

/-- Reads the name of an anchor or an alias behind its mark, with a gap or a mark behind it. -/
def anchorName : Scan Text := do
  skip 1
  let name ← span isNameChar
  require (name ≠ [])
  let next ← peek
  require (gapOrEnd next
    || next.any ['?', ':', ',', ']', '\x7d', '%', '@', '\x60'].contains)
  return name

/-- Reads escapes that follow each other, in each a percent sign and two digits for a byte. -/
def uriEscapes : Nat → Scan (List UInt8)
  | 0 => return []
  | fuel + 1 => do
    if ← accept '%' then
      let n ← hexDigits 2
      skip 2
      return UInt8.ofNat n :: (← uriEscapes fuel)
    else return []

/-- Reads the characters of an address and its escapes, which write texts in UTF-8. -/
def uriBehind : Nat → Scan Text
  | 0 => return []
  | fuel + 1 => do
    if ← sees '%' then
      match Utf8.decode (← uriEscapes (← steps)) with
      | .ok text => return text ++ (← uriBehind fuel)
      | .error _ => malformed
    else
      let taken ← span isUriChar
      if taken = [] then return [] else return taken ++ (← uriBehind fuel)

def uri : Scan Text := do
  let address ← uriBehind (← steps)
  require (address ≠ [])
  return address

/-- Reads a tag handle: an exclamation mark with a space behind it, or a name between two of
them. -/
def tagHandle : Scan Text := do
  expect '!'
  if ← sees ' ' then return ['!']
  else
    let name ← span isNameChar
    expect '!'
    return '!' :: name ++ ['!']

/-- Does a tag of this form have a handle with a name? -/
def seesNamedHandle : Scan Bool := do
  let word := (← get).rest.drop 1
  let stretch := word.takeWhile fun ch => ch ≠ '!' && !spaceOrEnd (some ch)
  return (← peekAt (stretch.length + 1)) = some '!'

/-- Reads a tag, which starts with its exclamation mark. -/
def tag : Scan Token := do
  let next ← peekAt 1
  let token ←
    if next = some '<' then do
      skip 2
      let rest ← uri
      expect '>'
      pure (Token.tag none rest)
    else if gapOrEnd next then do
      skip 1
      pure (Token.tag none ['!'])
    else if ← seesNamedHandle then do
      let handle ← tagHandle
      pure (Token.tag (some handle) (← uri))
    else do
      skip 1
      pure (Token.tag (some ['!']) (← uri))
  require (spaceOrEnd (← peek))
  return token

def decimal : Scan Nat := do
  let digits ← span Char.isDigit
  require (digits ≠ [])
  if longestWhole < digits.length then throw (.scalar (.numeral (.tooLong digits.length)))
  return digits.foldl (fun n d => n * 10 + (d.toNat - '0'.toNat)) 0

/-- Reads the version of the format that a text is written in: its major number. -/
def version : Scan Nat := do
  skipWhile (· = ' ')
  let major ← decimal
  expect '.'
  let _ ← decimal
  require (spaceOrEnd (← peek))
  return major

def directive : Scan Token := do
  skip 1
  let name ← span isNameChar
  require (name ≠ [])
  require (spaceOrEnd (← peek))
  let token ←
    if name = ['Y', 'A', 'M', 'L'] then do
      pure (Token.version (← version))
    else if name = ['T', 'A', 'G'] then do
      skipWhile (· = ' ')
      let handle ← tagHandle
      require (← sees ' ')
      skipWhile (· = ' ')
      let lead ← uri
      require (spaceOrEnd (← peek))
      pure (Token.tagHandle handle lead)
    else do
      skipWhile (!isBreak ·)
      pure Token.directive
  endLine
  return token

end Scan

end Yaml

end Dialects
