import Dialects.Text.Quoted

/-!
# UTF-8

The encoding of texts as bytes, and strict decoding: overlong forms, surrogates and code points
past the last one are faults. A fault says where the sequence starts that makes no character, how
many bytes it has, and why it fails. Decoding undoes encoding (`Utf8.decode_encode`).
-/

namespace Dialects

namespace Utf8

inductive Cause
  /-- No sequence starts with this byte. -/
  | invalidStart
  /-- The byte behind the sequence does not continue it. -/
  | invalidContinuation
  | unexpectedEnd
  deriving DecidableEq, Repr

/-- The bytes that make no character: the place of the first, which it is, and their number. -/
structure Fault where
  start : Nat
  first : UInt8
  width : Nat
  cause : Cause
  deriving DecidableEq, Repr

/-- What the bytes at the head of a string make. -/
inductive Reading
  | char (c : Char) (rest : List UInt8)
  | broken (width : Nat) (cause : Cause)
  deriving DecidableEq, Repr

/-- Reads `count` more bytes of a sequence of which `width` bytes make `code` so far. The first of
them lies between `lo` and `hi`, all others between `0x80` and `0xBF`. -/
def readTail : (count width lo hi code : Nat) → List UInt8 → Reading
  | 0, _, _, _, code, rest => .char (Char.ofNat code) rest
  | _ + 1, width, _, _, _, [] => .broken width .unexpectedEnd
  | count + 1, width, lo, hi, code, b :: rest =>
    if lo ≤ b.toNat ∧ b.toNat ≤ hi then
      readTail count (width + 1) 0x80 0xBF (code * 64 + (b.toNat - 0x80)) rest
    else .broken width .invalidContinuation

/-- Reads one character. The second byte of a sequence is held to a narrower range where the first
leaves room for overlong forms, surrogates or code points past the last one. -/
def readOne (b : UInt8) (rest : List UInt8) : Reading :=
  let n := b.toNat
  if n < 0x80 then .char (Char.ofNat n) rest
  else if n < 0xC2 then .broken 1 .invalidStart
  else if n < 0xE0 then readTail 1 1 0x80 0xBF (n - 0xC0) rest
  else if n < 0xF0 then
    readTail 2 1 (if n = 0xE0 then 0xA0 else 0x80) (if n = 0xED then 0x9F else 0xBF) (n - 0xE0) rest
  else if n < 0xF5 then
    readTail 3 1 (if n = 0xF0 then 0x90 else 0x80) (if n = 0xF4 then 0x8F else 0xBF) (n - 0xF0) rest
  else .broken 1 .invalidStart

theorem length_of_readTail {count width lo hi code : Nat} {bytes rest : List UInt8} {c : Char}
    (h : readTail count width lo hi code bytes = .char c rest) : rest.length ≤ bytes.length := by
  induction count generalizing width lo hi code bytes with
  | zero =>
    simp only [readTail, Reading.char.injEq] at h
    exact h.2 ▸ Nat.le_refl _
  | succ count ih =>
    cases bytes with
    | nil => simp [readTail] at h
    | cons b bytes =>
      simp only [readTail] at h
      split at h
      · have := ih h
        simp only [List.length_cons]
        omega
      · simp at h

theorem length_of_readOne {b : UInt8} {bytes rest : List UInt8} {c : Char}
    (h : readOne b bytes = .char c rest) : rest.length < (b :: bytes).length := by
  have key : rest.length ≤ bytes.length := by
    simp only [readOne] at h
    split at h
    · simp only [Reading.char.injEq] at h
      exact h.2 ▸ Nat.le_refl _
    · split at h
      · simp at h
      · split at h
        · exact length_of_readTail h
        · split at h
          · exact length_of_readTail h
          · split at h
            · exact length_of_readTail h
            · simp at h
  simp only [List.length_cons]
  omega

/-- The text of the bytes, of which the first stands at `start`. -/
def decodeFrom (start : Nat) : List UInt8 → Except Fault Text
  | [] => .ok []
  | b :: bytes =>
    match _h : readOne b bytes with
    | .char c rest =>
      (decodeFrom (start + ((b :: bytes).length - rest.length)) rest).map (c :: ·)
    | .broken width cause => .error ⟨start, b, width, cause⟩
termination_by bytes => bytes.length
decreasing_by exact length_of_readOne _h

def decode (bytes : List UInt8) : Except Fault Text := decodeFrom 0 bytes

def encodeChar (c : Char) : List UInt8 :=
  let n := c.toNat
  let more (k : Nat) : UInt8 := UInt8.ofNat (0x80 + n / k % 64)
  if n < 0x80 then [UInt8.ofNat n]
  else if n < 0x800 then [UInt8.ofNat (0xC0 + n / 64), more 1]
  else if n < 0x10000 then [UInt8.ofNat (0xE0 + n / 4096), more 64, more 1]
  else [UInt8.ofNat (0xF0 + n / 262144), more 4096, more 64, more 1]

def encode (s : Text) : List UInt8 := s.flatMap encodeChar

private theorem toNat_ofNat_of_lt {n : Nat} (h : n < 256) : (UInt8.ofNat n).toNat = n := by
  simp [Nat.mod_eq_of_lt h]

/-- A code point that is no surrogate. -/
private theorem toNat_valid (c : Char) :
    c.toNat < 0xD800 ∨ (0xDFFF < c.toNat ∧ c.toNat < 0x110000) := c.valid

theorem encodeChar_cons (c : Char) (rest : List UInt8) :
    ∃ b bytes, encodeChar c = b :: bytes ∧ readOne b (bytes ++ rest) = .char c rest := by
  have hv := toNat_valid c
  simp only [encodeChar]
  split
  · refine ⟨_, _, rfl, ?_⟩
    simp only [readOne, toNat_ofNat_of_lt (show c.toNat < 256 by omega), List.nil_append]
    rw [if_pos ‹_›, Char.ofNat_toNat]
  · split
    · refine ⟨_, _, rfl, ?_⟩
      simp only [readOne, readTail, List.cons_append, List.nil_append, Nat.div_one,
        toNat_ofNat_of_lt (show 0xC0 + c.toNat / 64 < 256 by omega),
        toNat_ofNat_of_lt (show 0x80 + c.toNat % 64 < 256 by omega)]
      rw [if_neg (by omega), if_neg (by omega), if_pos (by omega), if_pos (by omega),
        show (0xC0 + c.toNat / 64 - 0xC0) * 64 + (0x80 + c.toNat % 64 - 0x80) = c.toNat by omega,
        Char.ofNat_toNat]
    · split
      · refine ⟨_, _, rfl, ?_⟩
        simp only [readOne, readTail, List.cons_append, List.nil_append, Nat.div_one,
          toNat_ofNat_of_lt (show 0xE0 + c.toNat / 4096 < 256 by omega),
          toNat_ofNat_of_lt (show 0x80 + c.toNat / 64 % 64 < 256 by omega),
          toNat_ofNat_of_lt (show 0x80 + c.toNat % 64 < 256 by omega)]
        rw [if_neg (by omega), if_neg (by omega), if_neg (by omega), if_pos (by omega),
          if_pos (by constructor <;> split <;> omega), if_pos (by omega),
          show ((0xE0 + c.toNat / 4096 - 0xE0) * 64 + (0x80 + c.toNat / 64 % 64 - 0x80)) * 64
            + (0x80 + c.toNat % 64 - 0x80) = c.toNat by omega,
          Char.ofNat_toNat]
      · refine ⟨_, _, rfl, ?_⟩
        simp only [readOne, readTail, List.cons_append, List.nil_append, Nat.div_one,
          toNat_ofNat_of_lt (show 0xF0 + c.toNat / 262144 < 256 by omega),
          toNat_ofNat_of_lt (show 0x80 + c.toNat / 4096 % 64 < 256 by omega),
          toNat_ofNat_of_lt (show 0x80 + c.toNat / 64 % 64 < 256 by omega),
          toNat_ofNat_of_lt (show 0x80 + c.toNat % 64 < 256 by omega)]
        rw [if_neg (by omega), if_neg (by omega), if_neg (by omega), if_neg (by omega),
          if_pos (by omega), if_pos (by constructor <;> split <;> omega), if_pos (by omega),
          if_pos (by omega),
          show (((0xF0 + c.toNat / 262144 - 0xF0) * 64 + (0x80 + c.toNat / 4096 % 64 - 0x80)) * 64
            + (0x80 + c.toNat / 64 % 64 - 0x80)) * 64 + (0x80 + c.toNat % 64 - 0x80) = c.toNat
            by omega,
          Char.ofNat_toNat]

theorem decodeFrom_encode (s : Text) (start : Nat) : decodeFrom start (encode s) = .ok s := by
  induction s generalizing start with
  | nil =>
    simp only [encode, List.flatMap_nil]
    rw [decodeFrom]
  | cons c s ih =>
    obtain ⟨b, bytes, hc, hr⟩ := encodeChar_cons c (encode s)
    have hs : encode (c :: s) = b :: (bytes ++ encode s) := by simp [encode, hc]
    rw [hs, decodeFrom]
    split
    · rename_i heq
      rw [hr] at heq
      cases heq
      rw [ih]
      rfl
    · rename_i heq
      rw [hr] at heq
      cases heq

@[simp] theorem decode_encode (s : Text) : decode (encode s) = .ok s := decodeFrom_encode s 0

def Cause.message : Cause → Text
  | .invalidStart => "invalid start byte".toList
  | .invalidContinuation => "invalid continuation byte".toList
  | .unexpectedEnd => "unexpected end of data".toList

/-- The bytes at fault, one by its value and several by their places, and the reason. -/
def Fault.message (e : Fault) : Text :=
  let place (n : Nat) : Text := (toString n).toList
  "'utf-8' codec can't decode ".toList
    ++ (if e.width = 1 then
          "byte 0x".toList ++ hexDigits 2 e.first.toNat ++ " in position ".toList ++ place e.start
        else
          "bytes in position ".toList ++ place e.start ++ ['-'] ++ place (e.start + e.width - 1))
    ++ ": ".toList ++ e.cause.message

/-- Are the bytes the first two of a surrogate? -/
def isHalfSurrogate : List UInt8 → Bool
  | [b, c] => b = 0xED && 0xA0 ≤ c && c ≤ 0xBF
  | _ => false

/-- The text of the complete characters among the bytes, and the bytes that the end cuts off: those
of a character, or of a surrogate that is a fault once it is complete. -/
def decodePart (bytes : List UInt8) : Except Fault (Text × List UInt8) :=
  match decode bytes with
  | .ok s => .ok (s, [])
  | .error e =>
    if e.cause = .unexpectedEnd || isHalfSurrogate (bytes.drop e.start) then
      (decode (bytes.take e.start)).map (·, bytes.drop e.start)
    else .error e

end Utf8

end Dialects
