import Dialects.Text.Quoted

/-!
# Directions

A conversion goes from Markdown to Scrapbox or back, and a direction has a short name on the
command line and in configuration files.
-/

namespace Dialects

inductive Direction
  | markdownToScrapbox
  | scrapboxToMarkdown
  deriving DecidableEq, Repr

/-- A name that no direction has. -/
structure UnknownDirection where
  value : Text
  deriving DecidableEq, Repr

namespace Direction

def all : List Direction := [.markdownToScrapbox, .scrapboxToMarkdown]

def name : Direction → Text
  | .markdownToScrapbox => ['m', 'd', '2', 's', 'b']
  | .scrapboxToMarkdown => ['s', 'b', '2', 'm', 'd']

def reversed : Direction → Direction
  | .markdownToScrapbox => .scrapboxToMarkdown
  | .scrapboxToMarkdown => .markdownToScrapbox

def ofName? (s : Text) : Option Direction := all.find? (·.name = s)

/-- The direction of this name, or the complaint that there is none. -/
def parse (s : Text) : Except UnknownDirection Direction :=
  match ofName? s with
  | some d => .ok d
  | none => .error ⟨s⟩

@[simp] theorem reversed_reversed (d : Direction) : d.reversed.reversed = d := by
  cases d <;> rfl

@[simp] theorem ofName?_name (d : Direction) : ofName? d.name = some d := by
  cases d <;> rfl

end Direction

/-- The names of the directions, between commas. -/
def directionNames : Text := [',', ' '].intercalate (Direction.all.map Direction.name)

def UnknownDirection.message (e : UnknownDirection) : Text :=
  "Unknown direction: ".toList ++ e.value.quoted ++ " (expected one of: ".toList
    ++ directionNames ++ [')']

end Dialects
