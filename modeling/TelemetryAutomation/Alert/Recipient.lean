import TelemetryAutomation.Json.Basic
import TelemetryAutomation.Text.Alphanumeric
import TelemetryAutomation.Text.Blank
import TelemetryAutomation.Text.Lowercase
import TelemetryAutomation.Text.Pieces

/-!
# Recipients of alerts

Alerts go to mail addresses. An address has a local part of dot-separated words and a host name of at
least two labels, both of ASCII characters. A list of recipients is brought into a normal form: every
entry trimmed and in lower case, blank entries and repetitions left out.
-/

namespace TelemetryAutomation

/-- A recipient that is no mail address. -/
structure InvalidRecipient where
  entry : String
deriving DecidableEq

/-- The wording of the error. -/
def InvalidRecipient.message (error : InvalidRecipient) : String :=
  "Invalid alert recipient [" ++ error.entry ++ "]."

namespace Recipient

/-- The marks that a local part may hold besides letters and digits. -/
def localMarks : List Char := "!#$%&'*+/=?^_`\x7b|\x7d~.-".toList

/-- Whether two points follow each other. -/
def hasDoublePoint : List Char → Bool
  | '.' :: '.' :: _ => true
  | _ :: rest => hasDoublePoint rest
  | [] => false

/-- Whether a text is the part of an address in front of the `@`. -/
def isLocalPart (cs : List Char) : Bool :=
  !cs.isEmpty && cs.length ≤ 64 && cs.head? ≠ some '.' && cs.getLast? ≠ some '.' &&
    !hasDoublePoint cs && cs.all fun c => Text.isPlainAlphanumeric c || localMarks.contains c

/-- Whether a text is one label of a host name. -/
def isLabel (cs : List Char) : Bool :=
  !cs.isEmpty && cs.length ≤ 63 && cs.head? ≠ some '-' && cs.getLast? ≠ some '-' &&
    cs.all fun c => Text.isPlainAlphanumeric c || c = '-'

/-- Whether a text is a host name of at least two labels. -/
def isHost (cs : List Char) : Bool :=
  let labels := Text.pieces '.' cs
  2 ≤ labels.length && cs.length ≤ 253 && labels.all isLabel

/-- Whether a text is a mail address. -/
def isAddress (address : String) : Bool :=
  match Text.cut '@' address.toList with
  | some (localPart, host) => isLocalPart localPart && isHost host
  | none => false

/-- The normal form of an entry. -/
def normalize (entry : String) : String := Text.lowercase (Text.trimmed entry)

/-- Adds the normal form of an entry to those before it. -/
def add (resolved : List String) (entry : String) : Except InvalidRecipient (List String) :=
  let address := normalize entry
  if address.isEmpty then .ok resolved
  else if !isAddress address then .error ⟨entry⟩
  else if address ∈ resolved then .ok resolved
  else .ok (resolved ++ [address])

/-- The normal form of a list of recipients, or its first entry that is no address. What is no text
is passed over, and what is no list has no recipients. -/
def resolve (recipients : Option Json) : Except InvalidRecipient (List String) :=
  match recipients with
  | some (.arr entries) => (entries.filterMap Json.str?).foldlM add []
  | _ => .ok []

end Recipient

end TelemetryAutomation
