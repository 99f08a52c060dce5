import TelemetryAutomation.Json.Basic
import TelemetryAutomation.Text.Integer
import TelemetryAutomation.Text.Pieces

/-!
# Paths into JSON values

A path is a text whose pieces between points name the steps from a value to one inside it: a key of
an object, or the position of an item of an array. The empty path stays where it is.

`Json.lookup` takes all steps alike. `Object.lookup` starts from the entries of an object and takes
the first step by key, whatever follows.
-/

namespace TelemetryAutomation

namespace Json

/-- The position that a piece of a path names: digits, with an optional plus sign. -/
def position? (piece : List Char) : Option Nat :=
  (Text.readInteger 0 0xffffffffffffffff piece).toOption.map Int.toNat

/-- One step into a value. -/
def step? (value : Json) (piece : List Char) : Option Json :=
  match value with
  | .obj fields => fields.get? (.ofList piece)
  | .arr items => (position? piece).bind (items[·]?)
  | _ => none

/-- The value at the end of some steps. -/
def follow (value : Json) (steps : List (List Char)) : Option Json := steps.foldlM step? value

/-- The value at a path given by its characters. -/
def lookupChars (value : Json) (path : List Char) : Option Json :=
  if path.isEmpty then some value else value.follow (Text.pieces '.' path)

/-- The value at a path, if every step leads somewhere. -/
def lookup (value : Json) (path : String) : Option Json := value.lookupChars path.toList

end Json

namespace Object

/-- The value at a path that starts with a key of the object. -/
def lookup (fields : Object) (path : String) : Option Json :=
  match Text.cut '.' path.toList with
  | some (head, rest) => (fields.get? (.ofList head)).bind (·.lookupChars rest)
  | none => fields.get? path

end Object

end TelemetryAutomation
