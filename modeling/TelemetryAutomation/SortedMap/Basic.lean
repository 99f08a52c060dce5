/-!
# Maps with sorted keys

A `SortedMap` keeps its keys in strictly ascending order and holds exactly one value for each. The
order is part of the type, so two maps with the same entries are equal, and visiting a map always
follows the order of its keys.

The values are a `Row`, a list indexed by the keys it belongs to. Keeping keys and values apart in
this way lets a data type nest itself inside its own maps (a JSON object holds JSON values) without
giving up the ordering invariant.

* `ext`: a map is determined by its entries
* `get?_insert`: an insertion as seen through lookup
-/

namespace TelemetryAutomation

/-- One value for each key of a list of keys. -/
inductive Row (α : Type) {κ : Type} : List κ → Type
  | nil : Row α []
  | cons {k : κ} {keys : List κ} (value : α) (rest : Row α keys) : Row α (k :: keys)

/-- Keys in strictly ascending order, with one value each. -/
structure SortedMap (κ : Type) [Ord κ] (α : Type) where
  keys : List κ
  sorted : keys.Pairwise (compare · · = .lt)
  values : Row α keys

namespace Row

variable {κ α β : Type}

/-- The values in the order of their keys. -/
def toList : {keys : List κ} → Row α keys → List α
  | _, .nil => []
  | _, .cons value rest => value :: rest.toList

/-- Each key together with its value. -/
def entries : {keys : List κ} → Row α keys → List (κ × α)
  | _, .nil => []
  | _, .cons (k := key) value rest => (key, value) :: rest.entries

/-- The values of a list of entries. -/
def ofEntries : (entries : List (κ × α)) → Row α (entries.map (·.1))
  | [] => .nil
  | (_, value) :: rest => .cons value (ofEntries rest)

/-- Applies a function to every value. -/
def map (f : α → β) : {keys : List κ} → Row α keys → Row β keys
  | _, .nil => .nil
  | _, .cons value rest => .cons (f value) (rest.map f)

@[simp] theorem keys_entries : ∀ {keys : List κ} (row : Row α keys), row.entries.map (·.1) = keys
  | _, .nil => rfl
  | _, .cons _ rest => by simp [entries, keys_entries rest]

@[simp] theorem entries_ofEntries : ∀ entries : List (κ × α), (ofEntries entries).entries = entries
  | [] => rfl
  | (key, value) :: rest => by simp [ofEntries, Row.entries, entries_ofEntries rest]

theorem eq_of_entries_eq : ∀ {keys : List κ} {row row' : Row α keys},
    row.entries = row'.entries → row = row'
  | _, .nil, .nil, _ => rfl
  | _, .cons _ rest, .cons _ rest', h => by
    simp only [entries, List.cons.injEq, Prod.mk.injEq, true_and] at h
    rw [h.1, eq_of_entries_eq h.2]

/-- Equality of rows is decided value by value. -/
def decEq [DecidableEq α] : {keys : List κ} → (row row' : Row α keys) → Decidable (row = row')
  | _, .nil, .nil => .isTrue rfl
  | _, .cons value rest, .cons value' rest' =>
    if h : value = value' then
      match decEq rest rest' with
      | .isTrue h' => .isTrue (by rw [h, h'])
      | .isFalse h' => .isFalse (by simp [h'])
    else .isFalse (by simp [h])

instance [DecidableEq α] {keys : List κ} : DecidableEq (Row α keys) := decEq

end Row

namespace SortedMap

variable {κ α β : Type} [Ord κ]

/-- The entries in ascending order of their keys. -/
def entries (m : SortedMap κ α) : List (κ × α) := m.values.entries

/-- The map of a list of entries whose keys ascend. -/
def ofSorted (entries : List (κ × α))
    (sorted : (entries.map (·.1)).Pairwise (compare · · = .lt)) : SortedMap κ α :=
  ⟨entries.map (·.1), sorted, .ofEntries entries⟩

@[simp] theorem entries_ofSorted (entries : List (κ × α)) (sorted) :
    (ofSorted entries sorted).entries = entries :=
  Row.entries_ofEntries entries

theorem keys_eq (m : SortedMap κ α) : m.keys = m.entries.map (·.1) :=
  (Row.keys_entries m.values).symm

/-- A map is determined by its entries. -/
theorem ext {m m' : SortedMap κ α} (h : m.entries = m'.entries) : m = m' := by
  obtain ⟨keys, sorted, values⟩ := m
  obtain ⟨keys', sorted', values'⟩ := m'
  have hk : keys = keys' := by
    rw [← Row.keys_entries values, ← Row.keys_entries values']
    exact congrArg _ h
  subst hk
  have hv : values = values' := Row.eq_of_entries_eq h
  rw [hv]

instance [DecidableEq κ] [DecidableEq α] : DecidableEq (SortedMap κ α) := fun m m' =>
  if h : m.entries = m'.entries then .isTrue (ext h) else .isFalse fun e => h (e ▸ rfl)

/-- The map without entries. -/
def empty : SortedMap κ α := ⟨[], .nil, .nil⟩

instance : EmptyCollection (SortedMap κ α) := ⟨empty⟩

instance : Inhabited (SortedMap κ α) := ⟨empty⟩

/-- The number of entries. -/
def size (m : SortedMap κ α) : Nat := m.keys.length

/-- Whether there is no entry. -/
def isEmpty (m : SortedMap κ α) : Bool := m.keys.isEmpty

/-- The values in ascending order of their keys. -/
def toList (m : SortedMap κ α) : List α := m.values.toList

/-- Looks a key up in a list of entries. -/
def findEntry (key : κ) : List (κ × α) → Option α
  | [] => none
  | (key', value) :: rest => if compare key key' = .eq then some value else findEntry key rest

/-- The value of a key. -/
def get? (m : SortedMap κ α) (key : κ) : Option α := findEntry key m.entries

/-- Whether a key has a value. -/
def contains (m : SortedMap κ α) (key : κ) : Bool := (m.get? key).isSome

/-- Applies a function to every value. -/
def map (f : α → β) (m : SortedMap κ α) : SortedMap κ β := ⟨m.keys, m.sorted, m.values.map f⟩

/-- The entries whose key passes a test. -/
def filterKeys (keep : κ → Bool) (m : SortedMap κ α) : SortedMap κ α :=
  ofSorted (m.entries.filter (keep ·.1)) <| by
    refine List.Pairwise.sublist (List.Sublist.map _ List.filter_sublist) ?_
    rw [← keys_eq]
    exact m.sorted

/-- The entries that pass a test. -/
def filter (keep : κ → α → Bool) (m : SortedMap κ α) : SortedMap κ α :=
  ofSorted (m.entries.filter fun entry => keep entry.1 entry.2) <| by
    refine List.Pairwise.sublist (List.Sublist.map _ List.filter_sublist) ?_
    rw [← keys_eq]
    exact m.sorted

/-- Removes a key. -/
def erase (m : SortedMap κ α) (key : κ) : SortedMap κ α :=
  m.filterKeys (compare key · != .eq)

/-- Places an entry before the first greater key, in the stead of an equal one. -/
def insertEntry (key : κ) (value : α) : List (κ × α) → List (κ × α)
  | [] => [(key, value)]
  | (key', value') :: rest =>
    match compare key key' with
    | .lt => (key, value) :: (key', value') :: rest
    | .eq => (key, value) :: rest
    | .gt => (key', value') :: insertEntry key value rest

theorem mem_keys_insertEntry {key x : κ} {value : α} {entries : List (κ × α)}
    (h : x ∈ (insertEntry key value entries).map (·.1)) : x = key ∨ x ∈ entries.map (·.1) := by
  induction entries with
  | nil => simpa [insertEntry] using h
  | cons entry rest ih =>
    rw [insertEntry] at h
    split at h <;> simp only [List.map_cons, List.mem_cons] at h ⊢
    · exact h
    · exact h.imp_right .inr
    · exact h.elim (.inr ∘ .inl) fun h => (ih h).imp_right .inr

variable [Std.TransOrd κ]

theorem sorted_insertEntry {key : κ} {value : α} {entries : List (κ × α)}
    (h : (entries.map (·.1)).Pairwise (compare · · = .lt)) :
    ((insertEntry key value entries).map (·.1)).Pairwise (compare · · = .lt) := by
  induction entries with
  | nil => simp [insertEntry]
  | cons entry rest ih =>
    rw [List.map_cons, List.pairwise_cons] at h
    rw [insertEntry]
    split <;> simp only [List.map_cons, List.pairwise_cons]
    · next hlt =>
      refine ⟨?_, h⟩
      intro x hx
      rcases List.mem_cons.mp hx with rfl | hx
      · exact hlt
      · exact Std.TransCmp.lt_trans hlt (h.1 x hx)
    · next heq =>
      exact ⟨fun x hx => (Std.TransCmp.congr_left heq).trans (h.1 x hx), h.2⟩
    · next hgt =>
      refine ⟨fun x hx => ?_, ih h.2⟩
      rcases mem_keys_insertEntry hx with rfl | hx
      · exact Std.OrientedCmp.lt_of_gt hgt
      · exact h.1 x hx

/-- Gives a key a value, in the stead of any it had. -/
def insert (m : SortedMap κ α) (key : κ) (value : α) : SortedMap κ α :=
  ofSorted (insertEntry key value m.entries) <| sorted_insertEntry <| by
    rw [← keys_eq]
    exact m.sorted

/-- The map of a list of entries; of two with one key the later counts. -/
def ofList (entries : List (κ × α)) : SortedMap κ α :=
  entries.foldl (fun m entry => m.insert entry.1 entry.2) empty

/-- The entries of both maps; where both have a key, the second map's value counts. -/
def overlay (m upper : SortedMap κ α) : SortedMap κ α :=
  upper.entries.foldl (fun m entry => m.insert entry.1 entry.2) m

/-- Changes the value of a key, if it has one. -/
def modify (m : SortedMap κ α) (key : κ) (f : α → α) : SortedMap κ α :=
  match m.get? key with
  | some value => m.insert key (f value)
  | none => m

/-! ### Operations seen through lookup -/

omit [Std.TransOrd κ] in
@[simp] theorem get?_empty (key : κ) : (empty : SortedMap κ α).get? key = none := rfl

theorem findEntry_insertEntry (key key' : κ) (value : α) (entries : List (κ × α)) :
    findEntry key' (insertEntry key value entries) =
      if compare key' key = .eq then some value else findEntry key' entries := by
  induction entries with
  | nil => rfl
  | cons entry rest ih =>
    rw [insertEntry]
    split
    · rfl
    · next heq =>
      simp only [findEntry, Std.TransCmp.congr_right heq]
      split <;> rfl
    · next hgt =>
      simp only [findEntry, ih]
      split
      · next heq =>
        have : compare key' key ≠ .eq := by
          intro h
          rw [← Std.TransCmp.congr_left h, heq] at hgt
          contradiction
        simp [this]
      · rfl

/-- A lookup after an insertion finds the new value under its key and the old ones elsewhere. -/
@[simp] theorem get?_insert (m : SortedMap κ α) (key key' : κ) (value : α) :
    (m.insert key value).get? key' = if compare key' key = .eq then some value else m.get? key' := by
  simp [get?, insert, findEntry_insertEntry]

end SortedMap

end TelemetryAutomation
