import Dialects.Yaml.Node

/-!
# Mappings merged into mappings

An entry whose key is the sign for merging gives way to the entries of the mapping that is its
value, or of the mappings in the sequence that is its value, of which the earlier ones count for
more. They stand before the entries of the mapping itself (`Graph.merge`). Mappings that are merged
are rid of such entries first, so no entry is met twice, even where mappings merge each other.
-/

namespace Dialects

namespace Yaml

namespace Graph

def node (g : Graph) (id : NodeId) : Node := g[id]?.getD Node.empty

def kind (g : Graph) (id : NodeId) : Kind := (g.node id).kind

def content (g : Graph) (id : NodeId) : Content := (g.node id).content

def entries (g : Graph) (id : NodeId) : List Entry :=
  match g.content id with
  | .mapping entries => entries
  | _ => []

def isMapping (g : Graph) (id : NodeId) : Bool :=
  match g.content id with
  | .mapping _ => true
  | _ => false

def setEntries (g : Graph) (id : NodeId) (entries : List Entry) : Graph :=
  g.modify id fun node => { node with content := .mapping entries }

def setKind (g : Graph) (id : NodeId) (kind : Kind) : Graph :=
  g.modify id fun node => { node with kind }

def isMerge (g : Graph) (entry : Entry) : Bool := g.kind entry.1 = .merge

/-- The graph where the equals sign is a text as a key of the mapping. -/
def plainKeys (g : Graph) (id : NodeId) : Graph :=
  (g.entries id).foldl (fun g (key, _) => if g.kind key = .value then g.setKind key .text else g) g

def entryCount (g : Graph) : Nat := (List.range g.size).foldl (fun n id => n + (g.entries id).length) 0

end Graph

abbrev Change := StateT Graph (Except Fault)

namespace Change

/-- Takes the first entry that merges out of a mapping, and gives its value. -/
def takeMerge (id : NodeId) : Change (Option NodeId) := do
  let g ← get
  let before := (g.entries id).takeWhile (!g.isMerge ·)
  match (g.entries id).dropWhile (!g.isMerge ·) with
  | [] => return none
  | (_, value) :: behind =>
    set (g.setEntries id (before ++ behind))
    return some value

/-- Merges into a mapping what its entries say, behind the entries that are merged already. The
number bounds the entries that merge. -/
def mergeBehind : Nat → NodeId → List Entry → Change PUnit
  | 0, _, _ => throw .malformed
  | fuel + 1, id, merged => do
    match ← takeMerge id with
    | none => modify fun g => (g.plainKeys id).setEntries id (merged ++ g.entries id)
    | some value =>
      match (← get).content value with
      | .mapping _ =>
        mergeBehind fuel value []
        mergeBehind fuel id (merged ++ (← get).entries value)
      | .sequence items =>
        let parts ← items.mapM fun item => do
          if (← get).isMapping item then
            mergeBehind fuel item []
            return (← get).entries item
          else throw .malformed
        mergeBehind fuel id (merged ++ parts.reverse.flatten)
      | .scalar _ => throw .malformed

/-- Merges into a mapping what its entries say. -/
def merge (id : NodeId) : Change PUnit := do mergeBehind ((← get).entryCount + 1) id []

end Change

end Yaml

end Dialects
