import Dialects.Text.Newline
import Dialects.Text.Utf8

/-!
# Decoding piece by piece

A file that is not read as a whole is decoded in pieces, and the place of a fault counts from the
start of its piece. A piece starts with what its predecessor cut off: the first bytes of a
character, or a carriage return, which may be half of a line end. How long a piece is depends on how
many characters are still wanted, and on how many bytes a character took in the piece before.
-/

namespace Dialects

/-- How many characters are wanted at a time. -/
def readSize : Nat := 4096

structure PieceState where
  /-- The bytes that make no character yet. -/
  pending : List UInt8 := []
  /-- Did the last piece end in a carriage return? -/
  held : Bool := false
  length : Nat := 0
  /-- The numbers of bytes and of characters in the last piece. -/
  lastBytes : Nat := 0
  lastLength : Nat := 0

namespace PieceState

def size (st : PieceState) : Nat :=
  max 8192 (st.lastBytes * (readSize - st.length % readSize) / st.lastLength)

/-- The text of the next piece, and what is known behind it. -/
def decode (st : PieceState) (bytes : List UInt8) : Except Utf8.Fault (Text × PieceState) := do
  let (s, pending) ← Utf8.decodePart (st.pending ++ bytes)
  let s := if st.held then '\r' :: s else s
  let held := s.getLast? = some '\r'
  let s := Text.unifyNewlines (if held then s.dropLast else s)
  return (s, ⟨pending, held, st.length + s.length, bytes.length, s.length⟩)

def finish (st : PieceState) : Except Utf8.Fault Text := do
  let s ← Utf8.decode st.pending
  return if st.held then '\n' :: s else s

/-- The text of the bytes up to the first piece with a fault, and that fault. -/
def decodeAll : Nat → PieceState → List UInt8 → Text × Option Utf8.Fault
  | 0, _, _ => ([], none)
  | fuel + 1, st, bytes =>
    if bytes = [] then
      match st.finish with
      | .ok s => (s, none)
      | .error e => ([], some e)
    else
      match st.decode (bytes.take st.size) with
      | .error e => ([], some e)
      | .ok (s, st') =>
        let (later, fault?) := decodeAll fuel st' (bytes.drop st.size)
        (s ++ later, fault?)

end PieceState

/-- The text of a file's bytes up to the first piece with a fault, and that fault. -/
def decodePieces (bytes : List UInt8) : Text × Option Utf8.Fault :=
  PieceState.decodeAll (bytes.length + 1) {} bytes

end Dialects
