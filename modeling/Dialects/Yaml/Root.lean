import Dialects.Yaml.Merge
import Dialects.Yaml.Value

/-!
# The value at the root of a YAML text

The nodes of a document get their values one by one, each only once. A scalar is converted as soon
as it is met. A collection waits until those met before it are complete, and only then its content
is looked at, so of two faults the one less deep counts. All nodes get their values, but only the
root's is kept, with its entries if it is a mapping (`Root.ofSource`). Nesting may go to any depth.
-/

namespace Dialects

namespace Yaml

/-- The text of a node that stands for a scalar. In a mapping it is the value of the equals sign;
the number bounds the way there. -/
def Graph.scalarText (g : Graph) : Nat → NodeId → Except Fault RawText
  | 0, _ => .error .endless
  | fuel + 1, id =>
    match g.content id with
    | .scalar text => .ok text
    | .sequence _ => .error .malformed
    | .mapping entries =>
      match entries.find? fun (key, _) => g.kind key = .value with
      | some (_, value) => g.scalarText fuel value
      | none => .error .malformed

/-- The value of a node whose kind is that of a scalar. -/
def Graph.scalarValue (g : Graph) (id : NodeId) : Except Fault Value := do
  match g.kind id with
  | .merge | .value | .unknown => throw .malformed
  | kind =>
    let text ← g.scalarText (g.size + 1) id
    if kind = .timestamp && g.isMapping id then throw (.scalar .timestampMapping)
    Value.ofScalar kind text

/-- A graph with the values of the nodes met so far, and the collections that wait, the last one
first. -/
structure Builder where
  graph : Graph
  values : Array (Option Value)
  waiting : List NodeId := []

abbrev Build := StateT Builder (Except Fault)

namespace Build

def change (c : Change PUnit) : Build PUnit := do
  let (_, graph) ← c.run (← get).graph
  modify ({ · with graph })

/-- The value of a node, which counts as met from now on. -/
def value (id : NodeId) : Build Value := do
  match ((← get).values[id]?).join with
  | some value => return value
  | none =>
    let graph := (← get).graph
    let value ←
      match Value.ofCollection? (graph.kind id) with
      | some value => do
        modify fun b => { b with waiting := id :: b.waiting }
        pure value
      | none => graph.scalarValue id
    modify fun b => { b with values := b.values.setIfInBounds id (some value) }
    return value

def entry : Entry → Build (Value × Value)
  | (key, value) => do
    let key ← Build.value key
    if key.isCollection then throw .malformed
    return (key, ← Build.value value)

def pair (item : NodeId) : Build PUnit := do
  match (← get).graph.content item with
  | .mapping [(key, value)] =>
    let _ ← Build.value key
    let _ ← Build.value value
  | _ => throw .malformed

/-- Completes a collection: gives its content values, and tells those of a mapping. -/
def complete (id : NodeId) : Build (List (Value × Value)) := do
  let graph := (← get).graph
  match graph.kind id, graph.content id with
  | .sequence, .sequence items =>
    items.forM fun item => do let _ ← value item
    return []
  | .pairs, .sequence items =>
    items.forM pair
    return []
  | .mapping, .mapping _ | .set, .mapping _ =>
    change (Change.merge id)
    ((← get).graph.entries id).mapM entry
  | _, _ => throw .malformed

/-- The collections that wait, which do so no longer. -/
def takeWaiting : Build (List NodeId) := do
  let ids := (← get).waiting.reverse
  modify ({ · with waiting := [] })
  return ids

/-- Completes the collections that wait, and those that come to wait meanwhile. -/
def completeAll : Nat → Build PUnit
  | 0 => pure ⟨⟩
  | fuel + 1 => do
    let ids ← takeWaiting
    ids.forM fun id => do let _ ← complete id
    if ids ≠ [] then completeAll fuel

end Build

/-- The value at the root of a text, and the entries of a mapping or a set. -/
structure Root where
  value : Value
  entries : List (Value × Value) := []
  deriving DecidableEq, Repr

namespace Root

/-- Gives the nodes of a graph their values, from the root on. -/
def build (id : NodeId) : Build Root := do
  let value ← Build.value id
  let waiting ← Build.takeWaiting
  let entries ← waiting.mapM Build.complete
  Build.completeAll ((← get).graph.size + 1)
  return ⟨value, entries.flatten⟩

def ofGraph (g : Graph) (id : NodeId) : Except Fault Root := do
  let (root, _) ← (build id).run ⟨g, Array.replicate g.size none, []⟩
  return root

/-- The root of a text; an empty text says nothing. -/
def ofSource (source : Source) : Except Fault Root := do
  match ← Graph.ofTokens (Tokens.ofSource source) with
  | (_, none) => return ⟨.null, []⟩
  | (g, some id) => ofGraph g id

def ofBytes (bytes : List UInt8) : Except Fault Root := do
  ofSource (← Source.ofBytes bytes)

end Root

end Yaml

end Dialects
