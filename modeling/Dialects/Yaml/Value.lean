import Dialects.Text.Base64
import Dialects.Text.Lower
import Dialects.Yaml.Scalar

/-!
# YAML values

The value of a node: a text, bytes, or a value of another type, of which only the type is kept. A
tag can give a scalar a type that its spelling does not have, and then the scalar is converted as
far as that goes (`Value.ofScalar`).
-/

namespace Dialects

namespace Yaml

inductive Value
  | null
  | bool
  | int
  | float
  | date
  | datetime
  | text (t : RawText)
  | bytes (bytes : List UInt8)
  | list
  | mapping
  | set
  deriving DecidableEq, Repr

/-- Is the value a collection? Then it cannot be a key. -/
def Value.isCollection : Value → Bool
  | .list | .mapping | .set => true
  | _ => false

def Value.ofCollection? : Kind → Option Value
  | .sequence | .pairs => some .list
  | .mapping => some .mapping
  | .set => some .set
  | _ => none

/-- What keeps a text from being a whole number. Underscores do not count; the base follows from
the digits it starts with. -/
def intFault? (s : RawText) : Option ScalarFault :=
  let digits := RawText.unsigned (s.filter (· ≠ .char '_'))
  let whole (base : Nat) (s : RawText) := (s.wholeFault? base).map ScalarFault.numeral
  match digits with
  | [] => some .emptyNumber
  | [.char '0'] => none
  | .char '0' :: .char 'b' :: s => whole 2 s
  | .char '0' :: .char 'x' :: s => whole 16 s
  | .char '0' :: _ => whole 8 digits
  | _ => (digits.sixtieths?.getD [digits]).findSome? (whole 10)

/-- How many sixtieths are too many for a number with a point. -/
def mostSixtieths : Nat := 174

def floatFault? (s : RawText) : Option ScalarFault :=
  let written := RawText.lower (s.filter (· ≠ .char '_'))
  let size := written.unsigned
  let decimal (s : RawText) := s.decimalFault?.map ScalarFault.numeral
  if written = [] then some .emptyNumber
  else if size = Text.raw ".inf".toList || size = Text.raw ".nan".toList then none
  else
    match size.sixtieths? with
    | none => decimal size
    | some parts =>
      (parts.findSome? decimal).or
        (if mostSixtieths < parts.length then some .endlessNumber else none)

def boolFault? (s : RawText) : Option ScalarFault :=
  let words := ["yes", "no", "true", "false", "on", "off"].map (Text.raw ·.toList)
  if words.contains s.lower then none else some (.noTruth s.lower)

def monthLength (year month : Nat) : Nat :=
  if month = 2 then
    if year % 4 = 0 && (year % 100 ≠ 0 || year % 400 = 0) then 29 else 28
  else if month = 4 || month = 6 || month = 9 || month = 11 then 30
  else 31

def Time.fault? (t : Time) : Option ScalarFault :=
  if 23 < t.hour then some .hour
  else if 59 < t.minute then some .minute
  else if 59 < t.second then some .second
  else none

/-- What keeps the zone of a time from being one: it is a day and more off. -/
def Time.zoneFault? (t : Time) : Option ScalarFault :=
  match t.zone with
  | some minutes => if 1440 ≤ minutes.natAbs then some (.zone minutes) else none
  | none => none

/-- What keeps a timestamp from being a date on the calendar and a time on the clock. -/
def Timestamp.fault? (t : Timestamp) : Option ScalarFault :=
  (t.time.bind Time.zoneFault?).or
    (if t.year = 0 then some (.year t.year)
    else if t.month = 0 || 12 < t.month then some .month
    else if t.day = 0 || monthLength t.year t.month < t.day then some .day
    else t.time.bind Time.fault?)

/-- The date, or the date with a time, that a text writes. -/
def timestampValue (s : RawText) : Except Fault Value :=
  match (s.toText?.map withoutNewline).bind timestamp? with
  | none => .error (.scalar .noTimestamp)
  | some t =>
    match t.fault? with
    | some e => .error (.scalar e)
    | none => .ok (if t.time.isSome then .datetime else .date)

def binaryValue (s : RawText) : Except Fault Value :=
  match s.toText? with
  | none => .error .malformed
  | some t =>
    if t.all (·.toNat < 0x80) then
      match Base64.decode? t with
      | some bytes => .ok (.bytes bytes)
      | none => .error .malformed
    else .error .malformed

/-- The value, unless a fault keeps a text from having it. -/
def Value.unless (value : Value) (fault? : Option ScalarFault) : Except Fault Value :=
  match fault? with
  | none => .ok value
  | some e => .error (.scalar e)

def Value.ofScalar (kind : Kind) (s : RawText) : Except Fault Value :=
  match kind with
  | .null => .ok .null
  | .text => .ok (.text s)
  | .bool => Value.bool.unless (boolFault? s)
  | .int => Value.int.unless (intFault? s)
  | .float => Value.float.unless (floatFault? s)
  | .timestamp => timestampValue s
  | .binary => binaryValue s
  | _ => .error .malformed

end Yaml

end Dialects
