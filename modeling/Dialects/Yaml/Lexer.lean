import Dialects.Yaml.Block
import Dialects.Yaml.Mark
import Dialects.Yaml.Plain
import Dialects.Yaml.Source

/-!
# The tokens of a YAML text

A lexer goes through a text from left to right. Indentation opens and closes block collections. A
word on its own may turn out to be a key when a colon follows on the same line; until then the
lexer remembers the word's place (`Lexer.keys`), and puts the key token there afterwards. Only the
tokens before such a word are settled (`Lexer.settled`), and where a fault stops the lexer, no
others count.
-/

namespace Dialects

namespace Yaml

/-- A word that is a key if a colon follows. -/
structure PossibleKey where
  /-- The number of tokens before the word. -/
  place : Nat
  /-- Must the word be a key, because nothing else can stand at this column? -/
  required : Bool
  index : Nat
  line : Nat
  column : Nat

structure Lexer where
  cursor : Cursor
  tokens : Array Token := #[]
  /-- How many flow collections are open. -/
  flow : Nat := 0
  /-- The columns of the open block collections, the innermost first. -/
  columns : List Nat := []
  keyAllowed : Bool := true
  /-- The latest possible key at each depth of flow collections. -/
  keys : List (Nat × PossibleKey) := []

namespace Lexer

/-- How far behind a key its colon may stand. -/
def keyLimit : Nat := 1024

def inFlow (lx : Lexer) : Bool := lx.flow ≠ 0

/-- One more than the column of the innermost block collection. -/
def indent (lx : Lexer) : Nat :=
  match lx.columns with
  | [] => 0
  | column :: _ => column + 1

/-- Can the colon behind a possible key still follow? -/
def isFresh (lx : Lexer) (key : PossibleKey) : Bool :=
  key.line = lx.cursor.line && lx.cursor.index - key.index ≤ keyLimit

/-- The tokens that stay as they are, whatever follows. -/
def settled (lx : Lexer) : List Token :=
  let places := (lx.keys.filter fun (_, key) => lx.isFresh key).map (·.2.place)
  (lx.tokens.extract 0 (places.foldl min lx.tokens.size)).toList

/-- The lexer with a token at a place, and those from there on behind it. -/
def insert (lx : Lexer) (place : Nat) (token : Token) : Lexer :=
  { lx with tokens := lx.tokens.extract 0 place ++ #[token] ++ lx.tokens.extract place }

/-- Closes the block collections at columns past the first `width` ones. -/
def closeTo (width : Nat) (lx : Lexer) : Lexer :=
  if lx.inFlow then lx
  else
    let closed := lx.columns.takeWhile (width ≤ ·)
    { lx with
      tokens := lx.tokens ++ (closed.map fun _ => Token.blockEnd).toArray
      columns := lx.columns.drop closed.length }

/-- Opens a block collection at a column, if it is deeper than all open ones, with its start token
at the given place. -/
def openAt (column : Nat) (start : Token) (place : Nat) (lx : Lexer) : Lexer :=
  if lx.indent ≤ column then { lx.insert place start with columns := column :: lx.columns } else lx

end Lexer

abbrev Lex := StateT Lexer (Except Fault)

namespace Lex

def scan {α : Type} (s : Scan α) : Lex α := do
  let (found, cursor) ← s.run (← get).cursor
  modify ({ · with cursor })
  return found

def require (rule : Bool) : Lex PUnit := scan (Scan.require rule)

def push (token : Token) : Lex PUnit := modify fun lx => { lx with tokens := lx.tokens.push token }

def allowKey (allowed : Bool) : Lex PUnit := modify ({ · with keyAllowed := allowed })

/-- Drops the keys whose colon can no longer follow; none of them may be required. -/
def dropStale : Lex PUnit := do
  let lx ← get
  require !(lx.keys.any fun (_, key) => key.required && !lx.isFresh key)
  set { lx with keys := lx.keys.filter fun (_, key) => lx.isFresh key }

/-- Drops the possible key at this depth, which must not be required. -/
def dropKey : Lex PUnit := do
  let lx ← get
  require !(lx.keys.any fun (depth, key) => depth = lx.flow && key.required)
  set { lx with keys := lx.keys.filter fun (depth, _) => depth ≠ lx.flow }

/-- Remembers what comes next as a possible key, where a key may start. -/
def saveKey : Lex PUnit := do
  if (← get).keyAllowed then
    dropKey
    modify fun lx =>
      let required := !lx.inFlow && lx.indent = lx.cursor.column + 1
      { lx with
        keys := (lx.flow, ⟨lx.tokens.size, required, lx.cursor.index, lx.cursor.line,
          lx.cursor.column⟩) :: lx.keys }

/-- Opens a block collection at the cursor, if it is deeper than all open ones. In block context a
key must be allowed here. -/
def openBlock (start : Token) : Lex PUnit := do
  let lx ← get
  require (lx.inFlow || lx.keyAllowed)
  if !lx.inFlow then set (lx.openAt lx.cursor.column start lx.tokens.size)

/-- Goes on over spaces, comments and line ends to the next token. -/
def skipGaps : Nat → Lex PUnit
  | 0 => pure ⟨⟩
  | fuel + 1 => do
    let ending ← scan do
      Scan.skipWhile (· = ' ')
      Scan.skipComment
      Scan.lineEnd?
    if ending.isSome then
      modify fun lx => { lx with keyAllowed := lx.keyAllowed || !lx.inFlow }
      skipGaps fuel

/-- Takes a directive or a document marker, at which every block ends. -/
def outside (read : Scan Token) : Lex PUnit := do
  modify (Lexer.closeTo 0)
  dropKey
  allowKey false
  push (← scan read)

def marker (token : Token) : Lex PUnit :=
  outside do
    Scan.skip 3
    return token

def openFlow (token : Token) : Lex PUnit := do
  saveKey
  modify fun lx => { lx with flow := lx.flow + 1 }
  allowKey true
  scan (Scan.skip 1)
  push token

def closeFlow (token : Token) : Lex PUnit := do
  dropKey
  require (← get).inFlow
  modify fun lx => { lx with flow := lx.flow - 1 }
  allowKey false
  scan (Scan.skip 1)
  push token

def flowEntry : Lex PUnit := do
  allowKey true
  dropKey
  scan (Scan.skip 1)
  push .flowEntry

def blockEntry : Lex PUnit := do
  openBlock .blockSequenceStart
  allowKey true
  dropKey
  scan (Scan.skip 1)
  push .blockEntry

def key : Lex PUnit := do
  openBlock .blockMappingStart
  allowKey !(← get).inFlow
  dropKey
  scan (Scan.skip 1)
  push .key

/-- Takes the colon before a value; the possible key at this depth is one now. -/
def value : Lex PUnit := do
  let lx ← get
  match lx.keys.lookup lx.flow with
  | some key =>
    let lx := { lx with keys := lx.keys.filter fun (depth, _) => depth ≠ lx.flow }
    let lx := lx.insert key.place .key
    set (if lx.inFlow then lx else lx.openAt key.column .blockMappingStart key.place)
    allowKey false
  | none =>
    openBlock .blockMappingStart
    allowKey !lx.inFlow
    dropKey
  scan (Scan.skip 1)
  push .value

/-- Takes a word that may be a key: an anchor, an alias, a tag or a scalar in quotes. -/
def word (read : Scan Token) : Lex PUnit := do
  saveKey
  allowKey false
  push (← scan read)

def plain : Lex PUnit := do
  saveKey
  let lx ← get
  let (text, crossed) ← scan (Scan.plain lx.inFlow lx.indent)
  allowKey crossed
  push (.scalar text.raw true)

def block (folded : Bool) : Lex PUnit := do
  allowKey true
  dropKey
  let text ← scan (Scan.block folded (← get).indent)
  push (.scalar text.raw false)

/-- Characters that start no plain scalar by themselves. -/
def indicators : Text :=
  ['-', '?', ':', ',', '[', ']', '\x7b', '\x7d', '#', '&', '*', '!', '|', '>', '\'', '"', '%',
    '@', '\x60']

/-- Does the character at the cursor stand apart? -/
def seesApart : Lex Bool := return gapOrEnd (← scan (Scan.peekAt 1))

/-- Takes a plain scalar that starts with `ch`, if one does. -/
def plainFrom (ch : Char) : Lex PUnit := do
  if isGap ch || indicators.contains ch then
    let apart ← seesApart
    require (!apart && (ch = '-' || (!(← get).inFlow && (ch = '?' || ch = ':'))))
  plain

/-- Does a word that starts with `ch` stand at the start of a line as a document marker? -/
def seesMarker (ch : Char) : Lex Bool := do
  if (← get).cursor.column = 0 then scan (Scan.seesMarker ch) else return false

/-- Does the character at the cursor stand apart, or in a flow collection? -/
def seesApartOrFlow : Lex Bool := do
  if (← get).inFlow then return true else seesApart

/-- Takes the token that starts with `ch`. -/
def token (ch : Char) : Lex PUnit := do
  match ch with
  | '%' => if (← get).cursor.column = 0 then outside Scan.directive else plainFrom ch
  | '[' => openFlow .flowSequenceStart
  | '\x7b' => openFlow .flowMappingStart
  | ']' => closeFlow .flowSequenceEnd
  | '\x7d' => closeFlow .flowMappingEnd
  | ',' => flowEntry
  | '*' => word do return .alias (← Scan.anchorName)
  | '&' => word do return .anchor (← Scan.anchorName)
  | '!' => word Scan.tag
  | '\'' => word do return .scalar (← Scan.quoted false) false
  | '"' => word do return .scalar (← Scan.quoted true) false
  | '-' =>
    if ← seesMarker ch then marker .documentStart
    else if ← seesApart then blockEntry
    else plainFrom ch
  | '.' => if ← seesMarker ch then marker .documentEnd else plainFrom ch
  | '?' => if ← seesApartOrFlow then key else plainFrom ch
  | ':' => if ← seesApartOrFlow then value else plainFrom ch
  | '|' => if (← get).inFlow then plainFrom ch else block false
  | '>' => if (← get).inFlow then plainFrom ch else block true
  | _ => plainFrom ch

/-- Takes the next token, or closes what is open at the end of the text; says whether there are
more. -/
def next : Lex Bool := do
  skipGaps (← scan Scan.steps)
  dropStale
  modify fun lx => lx.closeTo (lx.cursor.column + 1)
  match ← scan Scan.peek with
  | some ch =>
    token ch
    return true
  | none =>
    modify (Lexer.closeTo 0)
    dropKey
    return false

end Lex

/-- The tokens of a text as far as they can be told, and what is met behind them, if it is not the
end of the text. -/
structure Tokens where
  list : List Token
  ending : Option Fault := none

def Lexer.run : Nat → Lexer → Tokens
  | 0, _ => ⟨[], some .malformed⟩
  | fuel + 1, lx =>
    match Lex.next.run lx with
    | .error fault => ⟨lx.settled, some fault⟩
    | .ok (true, lx) => run fuel lx
    | .ok (false, lx) => ⟨lx.tokens.toList, none⟩

/-- The tokens of a text. A byte order mark at its start is no part of it. -/
def Tokens.ofSource (source : Source) : Tokens :=
  let cursor : Cursor := { rest := source.text, ending := source.ending }
  let cursor := if cursor.rest.head? = some '\ufeff' then cursor.next else cursor
  Lexer.run (source.text.length + 1) { cursor }

end Yaml

end Dialects
