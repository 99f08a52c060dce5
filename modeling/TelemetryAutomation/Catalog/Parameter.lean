import TelemetryAutomation.Identity.Key
import TelemetryAutomation.Json.Path
import TelemetryAutomation.Json.Scalar

/-!
# Parameters

A parameter is a value that the messages of a topic carry. It has a place in the payload, a data
type, and rules for its value. Numbers and booleans may arrive as texts.

A value is checked in a fixed order, and the first rule that it breaks is reported: it has to be
there if it is required, to have the data type, to lie between the bounds and to be among the allowed
values.
-/

namespace TelemetryAutomation

/-- The data types of parameters. -/
inductive DataType
  | integer
  | decimal
  | boolean
  | string
  | json
deriving DecidableEq, Repr

/-- Rules for the value of a parameter. -/
structure ValueRules where
  min : Option Float
  max : Option Float
  allowed : Option (List Json)
deriving DecidableEq

/-- A parameter of a topic. -/
structure Parameter where
  id : Key .parameter
  topic : Key .topic
  key : String
  /-- Where the value lies in a payload, as in `$.voltages.V1`. -/
  path : String
  dataType : DataType
  isRequired : Bool
  defaultValue : Option Json
  rules : ValueRules
  isActive : Bool
deriving DecidableEq

/-- How a value breaks the rules of its parameter. -/
inductive Violation
  | required
  | wrongType (expected : DataType)
  | belowMinimum (min : Float)
  | aboveMaximum (max : Float)
  | notAllowed
deriving DecidableEq

namespace DataType

/-- All data types. -/
def all : List DataType := [integer, decimal, boolean, string, json]

/-- The written name. -/
def name : DataType → String
  | integer => "integer"
  | decimal => "decimal"
  | boolean => "boolean"
  | string => "string"
  | json => "json"

/-- The name in messages. -/
def title : DataType → String
  | integer => "Integer"
  | decimal => "Decimal"
  | boolean => "Boolean"
  | string => "String"
  | json => "Json"

/-- Whether a text is a run of digits with an optional minus sign. -/
def isIntegerText : List Char → Bool
  | '-' :: digits => Text.isNatural digits
  | digits => Text.isNatural digits

/-- Whether a value has the data type. -/
def accepts : DataType → Json → Bool
  | integer, .num n => n.isInt
  | integer, .str s => isIntegerText s.toList
  | integer, _ => false
  | decimal, value => value.number?.isSome
  | boolean, .bool _ => true
  | boolean, .num n => n.toInt64? = some 0 || n.toInt64? = some 1
  | boolean, .str s => s ∈ ["true", "false", "0", "1"]
  | boolean, _ => false
  | string, value => value.str?.isSome
  | json, value => value.obj?.isSome || value.arr?.isSome

end DataType

namespace Violation

/-- Bounds in messages are written in plain notation with the fewest digits that read back. -/
def boundLayout : Decimal.Layout where
  isPlain _ := true
  marksWhole := false
  tie := .up

/-- The wording of a violation. -/
def message : Violation → String
  | required => "value is required"
  | wrongType expected => s!"value is not a valid {expected.title}"
  | belowMinimum min => s!"value must be at least {boundLayout.text min}"
  | aboveMaximum max => s!"value must be at most {boundLayout.text max}"
  | notAllowed => "value is not one of the allowed values"

end Violation

namespace Parameter

/-- The path from a payload to the value; there is none to the payload as a whole. -/
def payloadPath? (parameter : Parameter) : Option String :=
  let path := Text.trim parameter.path.toList
  if path = [] ∨ path = ['$'] then none
  else some (.ofList ((Text.after? ['$', '.'] path).getD path))

/-- The value in a payload; `null` stands for no value. -/
def extract (parameter : Parameter) (payload : Object) : Option Json := do
  let value ← payload.lookup (← parameter.payloadPath?)
  if value.isNull then none else some value

/-- Whether a value counts as missing. -/
def isMissing : Option Json → Bool
  | none | some .null => true
  | some value => value.str? = some ""

/-- Checks a value against the bounds, which apply to whatever holds a number. -/
def checkBounds (rules : ValueRules) (value : Json) : Except Violation Unit :=
  match value.number? with
  | none => .ok ()
  | some x =>
    match rules.min.filter (x < ·), rules.max.filter (· < x) with
    | some min, _ => .error (.belowMinimum min)
    | none, some max => .error (.aboveMaximum max)
    | none, none => .ok ()

/-- Checks that a value is among those allowed. -/
def checkAllowed (rules : ValueRules) (value : Json) : Except Violation Unit :=
  match rules.allowed with
  | some allowed => if allowed.any (·.strictEq value) then .ok () else .error .notAllowed
  | none => .ok ()

/-- Checks a value that is there. -/
def checkPresent (parameter : Parameter) (value : Json) : Except Violation Unit := do
  unless parameter.dataType.accepts value do throw (.wrongType parameter.dataType)
  checkBounds parameter.rules value
  checkAllowed parameter.rules value

/-- Checks a value and reports the first rule that it breaks. -/
def check (parameter : Parameter) (value : Option Json) : Except Violation Unit :=
  match value with
  | some present =>
    if isMissing value then if parameter.isRequired then .error .required else .ok ()
    else parameter.checkPresent present
  | none => if parameter.isRequired then .error .required else .ok ()

end Parameter

/-! ### Reading and writing -/

instance : ToJson DataType := ⟨fun t => .str t.name⟩
instance : FromDocument DataType := ⟨FromDocument.constant (DataType.all.map fun t => (t.name, t))⟩

instance : ToJson ValueRules where
  toJson rules := .object <|
    optionalField "min" rules.min ++ optionalField "max" rules.max ++
      optionalField "enum" rules.allowed

instance : FromDocument ValueRules where
  read := RecordReader.read do
    return {
      min := ← .optional "min"
      max := ← .optional "max"
      allowed := ← .optional "enum" }

instance : ToJson Parameter where
  toJson p := .object <|
    [("id", toJson p.id),
      ("topic_id", toJson p.topic),
      ("key", toJson p.key),
      ("json_path", toJson p.path),
      ("data_type", toJson p.dataType),
      ("required", toJson p.isRequired),
      ("validation_rules", toJson p.rules),
      ("is_active", toJson p.isActive)] ++
    optionalField "default_value" p.defaultValue

instance : FromDocument Parameter where
  read := RecordReader.read do
    return {
      id := ← .required "id"
      topic := ← .required "topic_id"
      key := ← .required "key"
      path := ← .defaulted "json_path" ""
      dataType := ← .required "data_type"
      isRequired := ← .defaulted "required" false
      defaultValue := ← .optional "default_value"
      rules := ← .defaulted "validation_rules" ⟨none, none, none⟩
      isActive := ← .defaulted "is_active" true }

end TelemetryAutomation
