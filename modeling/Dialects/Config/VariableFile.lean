import Dialects.Text.Blank

/-!
# Files of variables

A file of variables has a line for each: a name, an equals sign and a value, with blanks between
them as one likes. The word `export` may stand before the name, quotes around the name or the value,
and a comment behind the value. A line that is none of this is skipped. A value may refer to another
variable by its name in braces behind a dollar sign, with a text to take if there is no such
variable.
-/

namespace Dialects

namespace VariableFile

/-- A blank within a line. -/
def isLineBlank (c : Char) : Bool := isBlank c && c ≠ '\n' && c ≠ '\r'

def skipBlanks (s : Text) : Text := s.dropWhile isLineBlank

/-- The rest of the line. -/
def isLineChar (c : Char) : Bool := c ≠ '\n' && c ≠ '\r'

def skipLine (s : Text) : Text := (s.dropWhile isLineChar).drop 1

/-- The text behind the word `export` and the blanks behind it. -/
def skipExport (s : Text) : Text :=
  match Text.after? "export".toList s with
  | some rest => if rest.head?.any isLineBlank then skipBlanks rest else s
  | none => s

/-- The text up to the closing quote and what follows that quote. A quote behind a backslash closes
nothing, unless no other follows. -/
def quoted? (quote : Char) : Text → Option (Text × Text)
  | [] => none
  | [c] => if c = quote then some ([], []) else none
  | c :: d :: s =>
    if c = quote then some ([], d :: s)
    else if c = '\\' && d = quote then
      match quoted? quote s with
      | some (inner, after) => some (c :: d :: inner, after)
      | none => some ([c], s)
    else (quoted? quote (d :: s)).map fun (inner, after) => (c :: inner, after)

/-- Resolves the escapes of these letters. -/
def unescape (escapes : List (Char × Char)) : Text → Text
  | '\\' :: c :: s =>
    match escapes.lookup c with
    | some d => d :: unescape escapes s
    | none => '\\' :: unescape escapes (c :: s)
  | c :: s => c :: unescape escapes s
  | [] => []

def singleEscapes : List (Char × Char) := [('\\', '\\'), ('\'', '\'')]

def doubleEscapes : List (Char × Char) :=
  [('\\', '\\'), ('\'', '\''), ('"', '"'), ('a', '\x07'), ('b', '\x08'), ('f', '\x0c'),
    ('n', '\n'), ('r', '\r'), ('t', '\t'), ('v', '\x0b')]

/-- The text before a number sign with a blank before it, and before those blanks; `blanks` are the
blanks just passed. -/
def withoutComment (blanks : Text) : Text → Text
  | [] => blanks
  | c :: s =>
    if isBlank c then withoutComment (blanks ++ [c]) s
    else if c = '#' && blanks ≠ [] then []
    else blanks ++ c :: withoutComment [] s

/-- The value at the head of a text and what follows it, or the place where none can be read. -/
def value (s : Text) : Except Text (Text × Text) :=
  match s with
  | '\'' :: rest =>
    match quoted? '\'' rest with
    | some (inner, after) => .ok (unescape singleEscapes inner, after)
    | none => .error s
  | '"' :: rest =>
    match quoted? '"' rest with
    | some (inner, after) => .ok (unescape doubleEscapes inner, after)
    | none => .error s
  | s => .ok ((withoutComment [] (s.takeWhile isLineChar)).trimRight, s.dropWhile isLineChar)

/-- The name at the head of a text and what follows it, or the place where none can be read. A
comment has no name. -/
def name (s : Text) : Except Text (Option Text × Text) :=
  match s with
  | '#' :: _ => .ok (none, s)
  | '\'' :: rest =>
    match Text.upTo? '\'' rest with
    | some (inner, after) => .ok (some inner, after)
    | none => .error s
  | s =>
    let isNameChar (c : Char) : Bool := c ≠ '=' && c ≠ '#' && !isBlank c
    if s.takeWhile isNameChar = [] then .error s
    else .ok (some (s.takeWhile isNameChar), s.dropWhile isNameChar)

/-- A name with its value, or with none. -/
abbrev Binding := Text × Option Text

/-- The binding at the head of a text and what follows its line, or the place where the line stops
making sense. -/
def binding (s : Text) : Except Text (Option Binding × Text) := do
  let (name?, s) ← name (skipExport s)
  let s := skipBlanks s
  let (value?, s) ←
    match s with
    | '=' :: rest => do
      let (v, s) ← value (skipBlanks rest)
      pure (some v, s)
    | s => pure (none, s)
  let s := match skipBlanks s with
    | '#' :: rest => rest.dropWhile isLineChar
    | _ => s
  match skipBlanks s with
  | [] => return (name?.map (·, value?), [])
  | c :: rest => if isLineChar c then throw s else return (name?.map (·, value?), rest)

/-- The bindings of a text, line after line. -/
def bindings : Nat → Text → List Binding
  | 0, _ => []
  | fuel + 1, s =>
    match s.dropWhile isBlank with
    | [] => []
    | s =>
      match binding s with
      | .ok (found, rest) => found.toList ++ bindings fuel rest
      | .error rest => bindings fuel (skipLine rest)

/-- The reference at the head of a text: the name, the text to take instead, and what follows. -/
def reference? (s : Text) : Option (Text × Text × Text) := do
  let s ← Text.after? ['$', '\x7b'] s
  let isNameChar (c : Char) : Bool := c ≠ '\x7d' && c ≠ ':'
  let name := s.takeWhile isNameChar
  let s := s.dropWhile isNameChar
  match Text.after? [':', '-'] s with
  | some rest =>
    let after ← Text.after? ['\x7d'] (rest.dropWhile (· ≠ '\x7d'))
    return (name, rest.takeWhile (· ≠ '\x7d'), after)
  | none => return (name, [], ← Text.after? ['\x7d'] s)

/-- The value with its references replaced: `find?` tells the value of a name, if there is such a
name. -/
def expand (find? : Text → Option Text) : Nat → Text → Text
  | 0, _ => []
  | _ + 1, [] => []
  | fuel + 1, c :: s =>
    match reference? (c :: s) with
    | some (name, instead, rest) => (find? name).getD instead ++ expand find? fuel rest
    | none => c :: expand find? fuel s

/-- The bindings with the later one of a name in the place of the earlier. -/
def assign (all : List Binding) (b : Binding) : List Binding :=
  if all.any (·.1 = b.1) then all.map fun a => if a.1 = b.1 then b else a else all ++ [b]

/-- The bindings of a text, one for each name, with references resolved: by a variable that is set
already, else by a binding before. A name without a value counts as empty. -/
def resolved (env : List (Text × Text)) (s : Text) : List Binding :=
  (bindings (s.length + 1) s).foldl (fun all (name, value) =>
    let find? (other : Text) : Option Text :=
      (env.lookup other).or ((all.lookup other).map (·.getD []))
    assign all (name, value.map fun v => expand find? (v.length + 1) v)) []

end VariableFile

end Dialects
