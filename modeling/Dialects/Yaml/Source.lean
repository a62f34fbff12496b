import Dialects.Files.Pieces
import Dialects.Yaml.Cursor

/-!
# Texts as far as they can be read

A YAML text is read from its file in parts, two of them at the start and each other one only when
the text before it is used up. So what is wrong with a later part, bytes that are no text or a
character that may not stand in YAML, is met only by a reader that comes there.
-/

namespace Dialects

namespace Yaml

def isAllowed (c : Char) : Bool :=
  let n := c.toNat
  n = 0x9 || n = 0xA || n = 0xD || (0x20 ≤ n && n ≤ 0x7E) || n = 0x85
    || (0xA0 ≤ n && n ≤ 0xFFFD) || 0x10000 ≤ n

/-- A text as far as it can be read, and what is met behind it, if that is not the end. -/
structure Source where
  text : Text
  ending : Option Fault := none

namespace Source

/-- The whole parts among the first `n` characters, in characters. -/
def wholeParts (n : Nat) : Nat := readSize * (n / readSize)

def firstPart : Nat := 2 * readSize

/-- The source that ends with a fault behind the whole parts of a text. A fault at the start leaves
nothing to read. -/
def cut (s : Text) (fault : Fault) : Except Fault Source :=
  if s.length < firstPart then .error fault
  else .ok ⟨s.take (wholeParts s.length), some fault⟩

/-- The source up to the part with a character that may not stand in YAML. -/
def allowed (source : Source) : Except Fault Source :=
  match source.text.findIdx? (!isAllowed ·) with
  | none => .ok source
  | some n => cut (source.text.take n) .malformed

/-- The source that a file's bytes make. -/
def ofBytes (bytes : List UInt8) : Except Fault Source := do
  let source ←
    match decodePieces bytes with
    | (s, none) => pure ⟨s, none⟩
    | (s, some e) => cut s (.undecodable e)
  source.allowed

end Source

end Yaml

end Dialects
