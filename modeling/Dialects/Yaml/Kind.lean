import Dialects.Text.Raw

/-!
# Kinds of YAML nodes

What a node is follows from its tag: a scalar of some type, a collection, or one of the two signs
that mean something as a key. Sequences of pairs come under two tags and are the same kind.
-/

namespace Dialects

namespace Yaml

inductive Kind
  | null
  | bool
  | int
  | float
  | timestamp
  | binary
  | text
  | sequence
  | mapping
  | set
  | pairs
  /-- The key whose value is merged into the mapping. -/
  | merge
  /-- The key whose value stands for the whole mapping where a scalar is expected. -/
  | value
  | unknown
  deriving DecidableEq, Repr

/-- What the tags of the format's own kinds start with. -/
def tagLead : Text := "tag:yaml.org,2002:".toList

/-- The kinds by the tags that they have behind the lead. -/
def tagKinds : List (Text × Kind) :=
  [("null", Kind.null), ("bool", .bool), ("int", .int), ("float", .float),
    ("timestamp", .timestamp), ("binary", .binary), ("str", .text), ("seq", .sequence),
    ("map", .mapping), ("set", .set), ("omap", .pairs), ("pairs", .pairs), ("merge", .merge),
    ("value", .value)].map fun (name, kind) => (name.toList, kind)

def Kind.ofTag (uri : Text) : Kind :=
  ((Text.after? tagLead uri).bind fun name => tagKinds.lookup name).getD .unknown

end Yaml

end Dialects
