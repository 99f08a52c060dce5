import TelemetryAutomation.Condition.Comparison
import TelemetryAutomation.Json.Path

/-!
# Expressions

An expression is itself a JSON value. An object with a single field applies the operator that the
field names to its operands; an array evaluates its items; everything else stands for itself. The
operands are the items of an array or the values of an object, and any other value is the only
operand. An unknown operator gives its operand back as it is.
-/

namespace TelemetryAutomation

/-- The operators of expressions. -/
inductive Operator
  | var
  | add
  | sub
  | mul
  | div
  | min
  | max
  | eq
  | strictEq
  | ne
  | strictNe
  | gt
  | ge
  | lt
  | le
  | and
  | or
  | not
  | cond
deriving DecidableEq, Repr

namespace Operator

/-- The operators under their names. -/
def named : List (String × Operator) :=
  [("var", var), ("+", add), ("-", sub), ("*", mul), ("/", div), ("min", min), ("max", max),
    ("==", eq), ("===", strictEq), ("!=", ne), ("!==", strictNe), (">", gt), (">=", ge), ("<", lt),
    ("<=", le), ("and", and), ("or", or), ("!", not), ("if", cond)]

/-- The operator of a name. -/
def ofName? (name : String) : Option Operator := named.lookup name

end Operator

namespace Expression

/-- The value of a variable: what its path finds in the data, else its default. The operand is the
path, or a list of path and default. -/
def resolve (operand data : Json) : Json :=
  let (path, default) := match operand with
    | .arr items => (items[0]?, items[1]?)
    | path => (some path, none)
  let default := default.getD .null
  match path.bind Json.str? with
  | some path => if path.isEmpty then default else (data.lookup path).getD default
  | none => default

/-- A value as a number in arithmetic; what holds none counts as zero. -/
def toNumber : Json → Float
  | .bool b => if b then 1 else 0
  | value => value.number?.getD 0

/-- The lesser of two numbers, the first of two equal ones. -/
def lesser (x y : Float) : Float := if y < x then y else x

/-- The greater of two numbers, the first of two equal ones. -/
def greater (x y : Float) : Float := if x < y then y else x

/-- Divides by one number after the other and stops at a zero. -/
def quotient : Float → List Float → Float
  | x, [] => x
  | x, y :: rest => if y == 0 then x else quotient (x / y) rest

/-- Folds a list without start value. -/
def reduce? (f : Float → Float → Float) : List Float → Option Float
  | [] => none
  | x :: rest => some (rest.foldl f x)

/-- The value of the operand at a position, counted from zero. -/
def nth (values : List Json) (i : Nat) : Json := (values[i]?).getD .null

/-- Applies an operator other than `var` to the values of its operands. A sum starts at the negative
zero, the only number that changes no other. -/
def apply (operator : Operator) (values : List Json) : Json :=
  let numbers := values.map toNumber
  let left := nth values 0
  let right := nth values 1
  match operator with
  | .var => .null
  | .add => .ofFloat (numbers.foldl (· + ·) (-0.0))
  | .mul => .ofFloat (numbers.foldl (· * ·) 1)
  | .sub => .ofFloat ((reduce? (· - ·) numbers).getD 0)
  | .div => .ofFloat (quotient (numbers.headD 0) numbers.tail)
  | .min => ((reduce? lesser numbers).map Json.ofFloat).getD .null
  | .max => ((reduce? greater numbers).map Json.ofFloat).getD .null
  | .eq => .bool (left.looseEq right)
  | .strictEq => .bool (left.strictEq right)
  | .ne => .bool (!left.looseEq right)
  | .strictNe => .bool (!left.strictEq right)
  | .gt => .bool (left.order right = .gt)
  | .ge => .bool (left.order right ≠ .lt)
  | .lt => .bool (left.order right = .lt)
  | .le => .bool (left.order right ≠ .gt)
  | .and => .bool (values.all Json.isTruthy)
  | .or => .bool (values.any Json.isTruthy)
  | .not => .bool (!(values.head?.any Json.isTruthy))
  | .cond => if left.isSet then right else nth values 2

mutual

/-- The value of an expression in some data. -/
def evaluate (data : Json) : Json → Json
  | .arr items => .arr (evaluateItems data items)
  | .obj ⟨[name], _, .cons operand .nil⟩ =>
    match Operator.ofName? name with
    | some .var => resolve operand data
    | some operator => apply operator (operandValues data operand)
    | none => operand
  | literal => literal
termination_by structural expression => expression

/-- The values of the operands. -/
def operandValues (data : Json) : Json → List Json
  | .arr items => evaluateItems data items
  | .obj ⟨_, _, row⟩ => evaluateRow data row
  | literal => [literal]
termination_by structural operand => operand

def evaluateItems (data : Json) : List Json → List Json
  | [] => []
  | item :: rest => evaluate data item :: evaluateItems data rest
termination_by structural items => items

def evaluateRow (data : Json) {keys : List String} : Row Json keys → List Json
  | .nil => []
  | .cons value rest => evaluate data value :: evaluateRow data rest
termination_by structural row => row

end

end Expression

end TelemetryAutomation
