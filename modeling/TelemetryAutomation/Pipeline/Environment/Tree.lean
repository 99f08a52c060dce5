import TelemetryAutomation.Pipeline.Environment.Variable

/-!
# Values arranged by their paths

The variables of the settings are put into a tree one after the other. What stands in the way of a
path gives way to it. A sequence grows until it has the item that a path leads to: at its end for a
position from zero on, at its start for one below zero. Items that no path leads to stay empty.
-/

namespace TelemetryAutomation.Environment

/-- A sequence of which some items are filled. -/
structure Sequence (α : Type) where
  size : Nat
  filled : List (Nat × α)

/-- A value under a key, in the stead of what was there. -/
def replace {κ α : Type} [BEq κ] (key : κ) (value : α) (entries : List (κ × α)) : List (κ × α) :=
  (key, value) :: entries.filter (·.1 != key)

namespace Sequence

variable {α : Type}

/-- The sequence without items. -/
def empty : Sequence α := ⟨0, []⟩

/-- Puts some empty items in front. -/
def shift (count : Nat) (s : Sequence α) : Sequence α :=
  ⟨s.size + count, s.filled.map fun (index, item) => (index + count, item)⟩

/-- Grows up to a position, and gives the index that the position then has. -/
def reach (position : Int) (s : Sequence α) : Sequence α × Nat :=
  if 0 ≤ position then (⟨max s.size (position.toNat + 1), s.filled⟩, position.toNat)
  else if position.natAbs ≤ s.size then (s, s.size - position.natAbs)
  else (s.shift (position.natAbs - s.size), 0)

end Sequence

/-- Values arranged by their paths. -/
inductive Tree
  /-- An item of a sequence that no path leads to. -/
  | empty
  | leaf (value : Value)
  | fields (entries : List (String × Tree))
  | items (sequence : Sequence Tree)

namespace Tree

/-- The fields of a tree that has any. -/
def entries : Tree → List (String × Tree)
  | fields entries => entries
  | _ => []

/-- The items of a tree that has any. -/
def sequence : Tree → Sequence Tree
  | items sequence => sequence
  | _ => .empty

/-- The tree under a field. -/
def field? (tree : Tree) (name : String) : Option Tree := tree.entries.lookup name

/-- The tree at an index of a sequence. -/
def item? (tree : Tree) (index : Nat) : Option Tree :=
  if index < tree.sequence.size then some ((tree.sequence.filled.lookup index).getD .empty)
  else none

/-- Puts a value at the end of a path. -/
def put (value : Value) : List Step → Tree → Tree
  | [], _ => .leaf value
  | .field name :: rest, tree =>
    .fields (replace name (put value rest ((tree.field? name).getD .empty)) tree.entries)
  | .item position :: rest, tree =>
    let (sequence, index) := tree.sequence.reach position
    let item := put value rest (((items sequence).item? index).getD .empty)
    .items { sequence with filled := replace index item sequence.filled }

/-- The tree of some variables. -/
def ofList (given : List Variable) : Tree :=
  given.foldl (fun tree v => tree.put v.value v.path) (.fields [])

end Tree

end TelemetryAutomation.Environment
