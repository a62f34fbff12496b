import Dialects.Yaml.Lexer
import Dialects.Yaml.Scalar

/-!
# YAML nodes

A document is a graph of scalars, sequences and mappings, each of some kind. Reading follows the
tokens; an alias stands for the node that bears its anchor, and so a collection may even hold
itself. A text has at most one document (`Graph.ofTokens`).
-/

namespace Dialects

namespace Yaml

abbrev NodeId := Nat

abbrev Entry := NodeId × NodeId

inductive Content
  | scalar (text : RawText)
  | sequence (items : List NodeId)
  | mapping (entries : List Entry)
  deriving DecidableEq, Repr

structure Node where
  kind : Kind
  content : Content
  deriving DecidableEq, Repr

/-- The node that a missing one counts as. -/
def Node.empty : Node := ⟨.null, .scalar []⟩

/-- The nodes of a document by their numbers. -/
abbrev Graph := Array Node

inductive Tag
  | absent
  /-- The spelling of a scalar decides, in quotes too. -/
  | bare
  | named (kind : Kind)
  deriving DecidableEq, Repr

/-- The kind of a scalar with this tag. -/
def Tag.scalarKind (tag : Tag) (text : RawText) (plain : Bool) : Kind :=
  match tag with
  | .absent => if plain then .ofSpelling text else .text
  | .bare => .ofSpelling text
  | .named kind => kind

/-- The kind of a collection with this tag, which is the usual one unless the tag names another. -/
def Tag.kind (tag : Tag) (usual : Kind) : Kind :=
  match tag with
  | .named kind => kind
  | _ => usual

/-- The handles that need no directive. -/
def usualHandles : List (Text × Text) := [(['!'], ['!']), (['!', '!'], tagLead)]

/-- The tokens still to be read, the nodes and anchors met so far, and the tag handles. -/
structure Reader where
  tokens : Tokens
  nodes : Graph := #[]
  anchors : List (Text × NodeId) := []
  handles : List (Text × Text) := usualHandles

abbrev Read := StateT Reader (Except Fault)

namespace Read

def malformed {α : Type} : Read α := throw .malformed

def require (rule : Bool) : Read PUnit := if rule then pure ⟨⟩ else malformed

/-- The next token; nothing at the end of the text. -/
def peek : Read (Option Token) := do
  let tokens := (← get).tokens
  match tokens.list, tokens.ending with
  | token :: _, _ => return some token
  | [], none => return none
  | [], some fault => throw fault

def skip : Read PUnit :=
  modify fun r => { r with tokens := { r.tokens with list := r.tokens.list.tail } }

/-- Passes the next token if it is this one, and says so. -/
def accept (token : Token) : Read Bool := do
  if (← peek) = some token then
    skip
    return true
  else return false

def expect (token : Token) : Read PUnit := do require (← accept token)

/-- Is the next token one of these? At the end of the tokens it is none. -/
def sees (tokens : List Token) : Read Bool := do
  match ← peek with
  | some token => return tokens.contains token
  | none => return false

def add (node : Node) : Read NodeId := do
  let id := (← get).nodes.size
  modify fun r => { r with nodes := r.nodes.push node }
  return id

/-- Puts a node with an anchor, which must be new, into the graph. -/
def addAnchored (anchor : Option Text) (node : Node) : Read NodeId := do
  match anchor with
  | none => add node
  | some name =>
    require ((← get).anchors.lookup name).isNone
    let id ← add node
    modify fun r => { r with anchors := (name, id) :: r.anchors }
    return id

/-- Puts a collection into the graph, empty until its content is read, and gives its number. -/
def collection (anchor : Option Text) (kind : Kind) (content : Read Content) : Read NodeId := do
  let id ← addAnchored anchor ⟨kind, .sequence []⟩
  let content ← content
  modify fun r => { r with nodes := r.nodes.setIfInBounds id ⟨kind, content⟩ }
  return id

def anchor? : Read (Option Text) := do
  match ← peek with
  | some (.anchor name) =>
    skip
    return some name
  | _ => return none

/-- The tag before a node as it is written: the handle, and the rest. -/
def writtenTag? : Read (Option (Option Text × Text)) := do
  match ← peek with
  | some (.tag handle rest) =>
    skip
    return some (handle, rest)
  | _ => return none

def resolve : Option (Option Text × Text) → Read Tag
  | none => return .absent
  | some (none, rest) => return if rest = ['!'] then .bare else .named (.ofTag rest)
  | some (some handle, rest) => do
    match (← get).handles.lookup handle with
    | some lead => return .named (.ofTag (lead ++ rest))
    | none => malformed

/-- The anchor and the tag before a node, in either order. -/
def properties : Read (Option Text × Tag) := do
  match ← anchor? with
  | some name => return (some name, ← resolve (← writtenTag?))
  | none =>
    match ← writtenTag? with
    | none => return (none, .absent)
    | some written =>
      let anchor ← anchor?
      return (anchor, ← resolve (some written))

mutual

/-- Reads a node. In block context it may be a block collection, and after a mapping key also a
sequence that is not indented. -/
def node (block indentless : Bool) : Nat → Read NodeId
  | 0 => malformed
  | fuel + 1 => do
    match ← peek with
    | some (.alias name) =>
      skip
      match (← get).anchors.lookup name with
      | some id => return id
      | none => malformed
    | _ =>
      let (anchor, tag) ← properties
      match ← peek with
      | some (.scalar text plain) =>
        skip
        addAnchored anchor ⟨tag.scalarKind text plain, .scalar text⟩
      | some .flowSequenceStart =>
        collection anchor (tag.kind .sequence) do
          skip
          return .sequence (← flowItems true fuel)
      | some .flowMappingStart =>
        collection anchor (tag.kind .mapping) do
          skip
          return .mapping (← flowEntries true fuel)
      | next =>
        if indentless && next = some .blockEntry then
          collection anchor (tag.kind .sequence) do return .sequence (← indentlessItems fuel)
        else if block && next = some .blockSequenceStart then
          collection anchor (tag.kind .sequence) do
            skip
            return .sequence (← blockItems fuel)
        else if block && next = some .blockMappingStart then
          collection anchor (tag.kind .mapping) do
            skip
            return .mapping (← blockEntries fuel)
        else
          require (anchor.isSome || tag ≠ .absent)
          addAnchored anchor ⟨tag.kind .null, .scalar []⟩

/-- Reads a node, or takes a missing one for empty if one of these tokens follows. -/
def nodeUnless (block indentless : Bool) (ends : List Token) : Nat → Read NodeId
  | 0 => malformed
  | fuel + 1 => do
    if ← sees ends then add Node.empty else node block indentless fuel

def blockItems : Nat → Read (List NodeId)
  | 0 => malformed
  | fuel + 1 => do
    if ← accept .blockEntry then
      let item ← nodeUnless true false [.blockEntry, .blockEnd] fuel
      return item :: (← blockItems fuel)
    else
      expect .blockEnd
      return []

/-- Reads the items of a block sequence that is no deeper than its key. -/
def indentlessItems : Nat → Read (List NodeId)
  | 0 => malformed
  | fuel + 1 => do
    if ← accept .blockEntry then
      let item ← nodeUnless true false [.blockEntry, .key, .value, .blockEnd] fuel
      return item :: (← indentlessItems fuel)
    else return []

def blockEntries : Nat → Read (List Entry)
  | 0 => malformed
  | fuel + 1 => do
    if ← accept .key then
      let key ← nodeUnless true true [.key, .value, .blockEnd] fuel
      let value ←
        if ← accept .value then nodeUnless true true [.key, .value, .blockEnd] fuel
        else add Node.empty
      return (key, value) :: (← blockEntries fuel)
    else
      expect .blockEnd
      return []

/-- Reads the items of a flow sequence up to its end. An item with a key is a mapping of one
entry. -/
def flowItems (first : Bool) : Nat → Read (List NodeId)
  | 0 => malformed
  | fuel + 1 => do
    if ← accept .flowSequenceEnd then return []
    else
      if !first then expect .flowEntry
      if ← accept .key then
        let item ← collection none .mapping do
          let key ← nodeUnless false false [.value, .flowEntry, .flowSequenceEnd] fuel
          let value ←
            if ← accept .value then nodeUnless false false [.flowEntry, .flowSequenceEnd] fuel
            else add Node.empty
          return .mapping [(key, value)]
        return item :: (← flowItems false fuel)
      else if ← accept .flowSequenceEnd then return []
      else
        let item ← node false false fuel
        return item :: (← flowItems false fuel)

def flowEntries (first : Bool) : Nat → Read (List Entry)
  | 0 => malformed
  | fuel + 1 => do
    if ← accept .flowMappingEnd then return []
    else
      if !first then expect .flowEntry
      if ← accept .key then
        let key ← nodeUnless false false [.value, .flowEntry, .flowMappingEnd] fuel
        let value ←
          if ← accept .value then nodeUnless false false [.flowEntry, .flowMappingEnd] fuel
          else add Node.empty
        return (key, value) :: (← flowEntries false fuel)
      else if ← accept .flowMappingEnd then return []
      else
        let key ← node false false fuel
        let value ← add Node.empty
        return (key, value) :: (← flowEntries false fuel)

end

/-- Reads the directives of a document: one version line at most, of version one, and no handle
twice. -/
def directives : Nat → Bool → List (Text × Text) → Read (List (Text × Text))
  | 0, _, _ => malformed
  | fuel + 1, versioned, handles => do
    match ← peek with
    | some (.version major) =>
      skip
      require (!versioned && major = 1)
      directives fuel true handles
    | some (.tagHandle handle lead) =>
      skip
      require (handles.lookup handle).isNone
      directives fuel versioned ((handle, lead) :: handles)
    | some .directive =>
      skip
      directives fuel versioned handles
    | _ => return handles

/-- Is the next token one that only a new document can start with? -/
def seesDocument : Read Bool := do
  match ← peek with
  | some (.version _) | some (.tagHandle _ _) | some .directive | some .documentStart => return true
  | _ => return false

def skipEnds : Nat → Read PUnit
  | 0 => malformed
  | fuel + 1 => do
    if ← accept .documentEnd then skipEnds fuel

/-- Reads the content of a document behind its start. -/
def content (fuel : Nat) : Read NodeId := do
  if (← peek) = none || (← seesDocument) || (← sees [.documentEnd]) then add Node.empty
  else node true false fuel

/-- Reads the only document of the tokens, if there is any. -/
def document (fuel : Nat) : Read (Option NodeId) := do
  if (← peek) = none then return none
  let root ←
    if ← seesDocument then do
      let handles ← directives fuel false []
      expect .documentStart
      modify fun r => { r with handles := handles ++ usualHandles }
      content fuel
    else node true false fuel
  skipEnds fuel
  if (← peek) = none then return some root
  else
    let _ ← directives fuel false []
    malformed

end Read

/-- The document that the tokens make: its nodes, and the number of the outermost if there is
one. -/
def Graph.ofTokens (tokens : Tokens) : Except Fault (Graph × Option NodeId) := do
  let (root, r) ← (Read.document (4 * tokens.list.length + 8)).run { tokens }
  return (r.nodes, root)

end Yaml

end Dialects
