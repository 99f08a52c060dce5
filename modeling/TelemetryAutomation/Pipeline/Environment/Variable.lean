import TelemetryAutomation.Pipeline.Environment.Value

/-!
# Names of environment variables

A variable of the settings has a name that starts with `nameStart`, in any case. The rest of the
name is a path: field names with a point or a double underscore between them, each followed by any
number of positions in brackets, as in `sensorflow_alert[0]`. Field names consist of ASCII letters,
digits, underscores and hyphens. A name whose rest is no path leads to no setting.
-/

namespace TelemetryAutomation.Environment

/-- A step from a group of settings to one of its parts. -/
inductive Step
  | field (name : String)
  /-- To an item of a sequence; a position below zero counts from the end. -/
  | item (position : Int)
deriving DecidableEq, Repr

/-- A variable of the settings: the path to what it sets, and its value. -/
structure Variable where
  path : List Step
  value : Value

/-- The start of the names of all variables. -/
def nameStart : List Char := "sensorflow_".toList

/-- Puts a point in the stead of each double underscore. -/
def withPoints : List Char → List Char
  | '_' :: '_' :: rest => '.' :: withPoints rest
  | c :: rest => c :: withPoints rest
  | [] => []

/-- Whether a text is the name of a field. -/
def isFieldName (cs : List Char) : Bool :=
  !cs.isEmpty && cs.all fun c => Text.isPlainAlphanumeric c || c = '_' || c = '-'

/-- A text without the spaces and tabs at its start. -/
def dropSpaces (cs : List Char) : List Char := cs.dropWhile fun c => c = ' ' || c = '\t'

/-- The position that a text in brackets gives: digits with an optional minus sign, and spaces
around them. -/
def position? (cs : List Char) : Option Int :=
  let inner := (dropSpaces (dropSpaces cs).reverse).reverse
  if inner.head? = some '+' then none else (Text.readInt64 inner).toOption.map Int64.toInt

/-- The step of what follows an opening bracket, which has to end at the closing one. -/
def item? (cs : List Char) : Option Step :=
  match Text.cut ']' cs with
  | some (inside, []) => (position? inside).map .item
  | _ => none

/-- The steps of a field name and the positions after it. -/
def steps? (cs : List Char) : Option (List Step) :=
  match Text.pieces '[' cs with
  | name :: positions =>
    if isFieldName name then (positions.mapM item?).map (.field (.ofList name) :: ·) else none
  | [] => none

/-- The steps of a path. -/
def path? (cs : List Char) : Option (List Step) :=
  ((Text.pieces '.' cs).mapM steps?).map List.flatten

/-- The variable of a name and a value, if it belongs to the settings. -/
def Variable.read? (name value : String) : Option Variable := do
  let rest ← Text.after? nameStart (Text.lower name.toList)
  return ⟨← path? (withPoints rest), .read value⟩

end TelemetryAutomation.Environment
