import Dialects.Text.Basic

/-!
# Base64

Four letters of the alphabet write three bytes, six bits each. Reading passes over all that is not
of the alphabet. It ends at the equals signs that fill up the last four letters, and otherwise at
the end of the text, where no letters may be left over.
-/

namespace Dialects

namespace Base64

def sextet? (c : Char) : Option Nat :=
  if 'A' ≤ c && c ≤ 'Z' then some (c.toNat - 'A'.toNat)
  else if 'a' ≤ c && c ≤ 'z' then some (c.toNat - 'a'.toNat + 26)
  else if '0' ≤ c && c ≤ '9' then some (c.toNat - '0'.toNat + 52)
  else if c = '+' then some 62
  else if c = '/' then some 63
  else none

/-- The letters read of four, the bits of the last one that make no byte yet, and the equals signs
behind it. -/
structure Group where
  letters : Nat := 0
  bits : Nat := 0
  fill : Nat := 0

/-- The group with one more letter, and the byte that this makes. -/
def Group.push (g : Group) (sextet : Nat) : Option UInt8 × Group :=
  match g.letters with
  | 0 => (none, ⟨1, sextet, 0⟩)
  | 1 => (some (UInt8.ofNat (g.bits * 4 + sextet / 16)), ⟨2, sextet % 16, 0⟩)
  | 2 => (some (UInt8.ofNat (g.bits * 16 + sextet / 4)), ⟨3, sextet % 4, 0⟩)
  | _ => (some (UInt8.ofNat (g.bits * 64 + sextet)), {})

/-- The bytes of a text behind what is read of a group. -/
def decodeBehind? (g : Group) : Text → Option (List UInt8)
  | [] => if g.letters = 0 then some [] else none
  | c :: s =>
    if c = '=' then
      if g.letters < 2 then decodeBehind? g s
      else if 4 ≤ g.letters + g.fill + 1 then some []
      else decodeBehind? { g with fill := g.fill + 1 } s
    else
      match sextet? c with
      | none => decodeBehind? g s
      | some sextet =>
        let (byte, g) := g.push sextet
        (decodeBehind? g s).map (byte.toList ++ ·)

def decode? (s : Text) : Option (List UInt8) := decodeBehind? {} s

end Base64

end Dialects
