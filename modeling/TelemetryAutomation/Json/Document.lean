import TelemetryAutomation.Json.Basic

/-!
# JSON documents

A document is a JSON text as it stands: the fields of an object keep their order, and one name may
occur twice. As a value the last field of a name counts. What reads a record from a text looks at
the document, because a record with a repeated field is refused.

A text can have the form of a document and yet stand for no value. Such a part is *flawed*, which
matters only where its value is asked for: a record passes over the fields that it does not know.
-/

namespace TelemetryAutomation

/-- A JSON text with the fields of objects as written. -/
inductive Document where
  | null
  | bool (b : Bool)
  | num (n : Number)
  | str (s : String)
  | arr (items : List Document)
  | obj (fields : List (String × Document))
  /-- A part that stands for no value: a number beyond the finite doubles, a string with half a
  surrogate pair, an object with such a name, a container that nests too deep. -/
  | flawed

namespace Document

instance : Inhabited Document := ⟨.null⟩

mutual

/-- The value that a document stands for, if no part of it is flawed. -/
def toJson? : Document → Option Json
  | .null => some .null
  | .bool b => some (.bool b)
  | .num n => some (.num n)
  | .str s => some (.str s)
  | .arr items => return .arr (← itemsToJson? items)
  | .obj fields => return .obj (.ofList (← fieldsToJson? fields))
  | .flawed => none
termination_by structural d => d

def itemsToJson? : List Document → Option (List Json)
  | [] => some []
  | item :: rest => return (← item.toJson?) :: (← itemsToJson? rest)
termination_by structural items => items

def fieldsToJson? : List (String × Document) → Option (List (String × Json))
  | [] => some []
  | (name, value) :: rest => return (name, ← value.toJson?) :: (← fieldsToJson? rest)
termination_by structural fields => fields

end

end Document

namespace Json

mutual

/-- The document that writes a value with its fields in the order of their names. -/
def toDocument : Json → Document
  | .null => .null
  | .bool b => .bool b
  | .num n => .num n
  | .str s => .str s
  | .arr items => .arr (itemsToDocument items)
  | .obj ⟨_, _, row⟩ => .obj (rowToDocument row)
termination_by structural v => v

def itemsToDocument : List Json → List Document
  | [] => []
  | item :: rest => item.toDocument :: itemsToDocument rest
termination_by structural items => items

def rowToDocument {names : List String} : Row Json names → List (String × Document)
  | .nil => []
  | .cons (k := name) value rest => (name, value.toDocument) :: rowToDocument rest
termination_by structural row => row

end

end Json

end TelemetryAutomation
