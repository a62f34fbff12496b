import Dialects.Text.Basic

/-!
# Warnings

What a conversion has to say about a text that it converts all the same.
-/

namespace Dialects

inductive Warning
  /-- Fences that belong to no code block were left as they are. -/
  | unmatchedFences (count : Nat)
  /-- The code block that starts on this line has nothing but blanks in it. -/
  | emptyBlock (language : Text) (line : Nat)
  deriving DecidableEq, Repr

def Warning.message : Warning → Text
  | unmatchedFences count =>
    "Unmatched code fence left as-is (".toList ++ (toString count).toList
      ++ " occurrence(s))".toList
  | emptyBlock language line =>
    "Code block '".toList ++ language ++ "' at line ".toList ++ (toString line).toList
      ++ " has no body".toList

/-- A converted text with the warnings about it, in the order of the text. -/
structure Converted where
  text : Text
  warnings : List Warning
  deriving DecidableEq, Repr

end Dialects
