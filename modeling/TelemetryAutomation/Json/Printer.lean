import TelemetryAutomation.Decimal.Layout
import TelemetryAutomation.Json.Basic
import TelemetryAutomation.Text.Integer

/-!
# Writing JSON text

A value is written either in one line without spaces or over several lines with an indentation of
two spaces. The fields of an object come in the order of their names.
-/

namespace TelemetryAutomation

namespace Number

/-- Floats are written with the fewest digits that read back. They always show that they are floats,
and take an exponent below `0.00001` and from `1e16` on. -/
def layout : Decimal.Layout where
  isPlain first := -5 ≤ first && first ≤ 15
  marksWhole := true
  tie := .toEven

/-- A number as text. -/
def text : Number → String
  | .int n _ => Text.decimal n
  | .float x _ => layout.text x

end Number

namespace Json

/-- A character of a string literal. -/
def escapedChar (c : Char) : List Char :=
  match c with
  | '"' => ['\\', '"']
  | '\\' => ['\\', '\\']
  | '\x08' => ['\\', 'b']
  | '\x0c' => ['\\', 'f']
  | '\n' => ['\\', 'n']
  | '\r' => ['\\', 'r']
  | '\t' => ['\\', 't']
  | c =>
    if c < ' ' then
      ['\\', 'u', '0', '0', Nat.digitChar (c.toNat / 16), Nat.digitChar (c.toNat % 16)]
    else [c]

/-- A string literal. -/
def quote (s : String) : String :=
  String.ofList ('"' :: (s.toList.flatMap escapedChar ++ ['"']))

mutual

/-- A value in one line without spaces. -/
def text : Json → String
  | .null => "null"
  | .bool b => if b then "true" else "false"
  | .num n => n.text
  | .str s => quote s
  | .arr items => "[" ++ ",".intercalate (itemTexts items) ++ "]"
  | .obj ⟨_, _, row⟩ => "\x7b" ++ ",".intercalate (fieldTexts row) ++ "\x7d"
termination_by structural v => v

def itemTexts : List Json → List String
  | [] => []
  | item :: rest => item.text :: itemTexts rest
termination_by structural items => items

def fieldTexts {names : List String} : Row Json names → List String
  | .nil => []
  | .cons (k := name) value rest => (quote name ++ ":" ++ value.text) :: fieldTexts rest
termination_by structural row => row

end

/-- Items or fields between brackets, each on a line of its own. -/
def block (opening closing : String) (level : Nat) (lines : List String) : String :=
  if lines.isEmpty then opening ++ closing
  else
    let indent (n : Nat) := "\n" ++ String.ofList (List.replicate (2 * n) ' ')
    let separator := "," ++ indent (level + 1)
    opening ++ indent (level + 1) ++ separator.intercalate lines ++ indent level ++ closing

mutual

/-- A value over several lines; `level` counts the containers around it. -/
def indentedAt : (level : Nat) → Json → String
  | level, .arr items => block "[" "]" level (indentedItems (level + 1) items)
  | level, .obj ⟨_, _, row⟩ => block "\x7b" "\x7d" level (indentedFields (level + 1) row)
  | _, value => value.text
termination_by structural _ v => v

def indentedItems : (level : Nat) → List Json → List String
  | _, [] => []
  | level, item :: rest => item.indentedAt level :: indentedItems level rest
termination_by structural _ items => items

def indentedFields {names : List String} : (level : Nat) → Row Json names → List String
  | _, .nil => []
  | level, .cons (k := name) value rest =>
    (quote name ++ ": " ++ value.indentedAt level) :: indentedFields level rest
termination_by structural _ row => row

end

/-- A value over several lines. -/
def indented (value : Json) : String := value.indentedAt 0

end Json

end TelemetryAutomation
