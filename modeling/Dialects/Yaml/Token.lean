import Dialects.Text.Raw

/-!
# YAML tokens

The marks and words of a YAML text in order. Indentation shows as tokens of its own: a block
collection has a start and an end.
-/

namespace Dialects

namespace Yaml

inductive Token
  /-- A version line, with the major number. -/
  | version (major : Nat)
  /-- A line that gives a tag handle its meaning. -/
  | tagHandle (handle lead : Text)
  | directive
  | documentStart
  | documentEnd
  | blockSequenceStart
  | blockMappingStart
  | blockEnd
  | flowSequenceStart
  | flowSequenceEnd
  | flowMappingStart
  | flowMappingEnd
  | blockEntry
  | flowEntry
  | key
  | value
  | alias (name : Text)
  | anchor (name : Text)
  /-- A tag; without a handle the rest of it is the whole. -/
  | tag (handle : Option Text) (rest : Text)
  /-- A scalar; a plain one has no quotes and is no block. -/
  | scalar (text : RawText) (plain : Bool)
  deriving DecidableEq, Repr

end Yaml

end Dialects
