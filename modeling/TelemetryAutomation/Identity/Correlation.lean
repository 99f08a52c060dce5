import TelemetryAutomation.Json.Record
import TelemetryAutomation.Text.Blank
import TelemetryAutomation.Time.Timestamp

/-!
# Correlation ids

A correlation id is a number of 128 bits. It links the event, the runs and the steps that belong
together. As text it has 26 digits of five bits each, written with the ASCII digits and capitals
apart from `I`, `L`, `O` and `U`; small letters are read like capitals. 26 digits hold two bits more
than an id, and the reader drops them.
-/

namespace TelemetryAutomation

/-- The id of what belongs together. -/
structure CorrelationId where
  bits : BitVec 128
deriving DecidableEq

/-- Why a text is no correlation id. -/
inductive CorrelationFault
  | invalidLength
  | invalidCharacter
deriving DecidableEq, Repr

/-- The wording of a fault. -/
def CorrelationFault.message : CorrelationFault → String
  | .invalidLength => "failed to parse CorrelationId: invalid length"
  | .invalidCharacter => "failed to parse CorrelationId: invalid character"

namespace CorrelationId

/-- The digits in ascending order of value. -/
def alphabet : List Char := "0123456789ABCDEFGHJKMNPQRSTVWXYZ".toList

/-- The number of digits. -/
def length : Nat := 26

/-- The id as text. -/
def text (id : CorrelationId) : String :=
  .ofList <| (List.range length).map fun i =>
    alphabet[id.bits.toNat / Nat.pow 32 (length - 1 - i) % 32]?.getD '0'

/-- The value of a digit. -/
def digit? (c : Char) : Option Nat := alphabet.findIdx? (· = c.toUpper)

/-- Reads an id that has nothing around it. The length is counted in bytes. -/
def read (s : String) : Except CorrelationFault CorrelationId :=
  if s.utf8ByteSize ≠ length then .error .invalidLength
  else match s.toList.mapM digit? with
    | some digits => .ok ⟨.ofNat 128 (digits.foldl (fun n d => n * 32 + d) 0)⟩
    | none => .error .invalidCharacter

/-- Reads an id between blanks. -/
def parse (s : String) : Except CorrelationFault CorrelationId := read (Text.trimmed s)

end CorrelationId

instance : ToString CorrelationId := ⟨CorrelationId.text⟩
instance : ToJson CorrelationId := ⟨fun id => .str id.text⟩

instance : FromDocument CorrelationId where
  read
    | .str s => (CorrelationId.read s).mapError fun _ => .outside (.str s) "a correlation id"
    | found => .error (.mismatch found "a correlation id")

/-- A source of correlation ids that have not been used before. -/
structure CorrelationSource where
  next : Nat

/-- A source whose ids have a time in milliseconds in their first 48 bits, so that ids of later sources
are greater. -/
def CorrelationSource.since (nanos : Nat) : CorrelationSource :=
  ⟨nanos / nanosPerMilli * 0x100000000000000000000⟩

/-- Draws a new id. -/
def CorrelationSource.draw (source : CorrelationSource) : CorrelationId × CorrelationSource :=
  (⟨.ofNat 128 source.next⟩, ⟨source.next + 1⟩)

end TelemetryAutomation
