import Mathlib.Data.List.Sort
import TelemetryAutomation.SortedMap.Basic

/-!
# Keys and values of sorted maps

The keys of a map are those that were inserted, each once. What holds of all values under their keys
holds after an insertion if it holds of what is inserted. A map is determined by what lookups find in it, and
each operation is known by what they find afterwards.
-/

namespace TelemetryAutomation

theorem Row.toList_eq {κ α : Type} {keys : List κ} (row : Row α keys) : row.toList = row.entries.map (·.2) := by
  induction row with
  | nil => rfl
  | cons value rest ih => rw [toList, entries, List.map_cons, ih]

namespace SortedMap

theorem isEmpty_iff {κ α : Type} [Ord κ] {m : SortedMap κ α} : m.isEmpty ↔ m = ∅ := by
  refine ⟨fun h => ?_, fun h => h ▸ rfl⟩
  obtain ⟨keys, hsorted, values⟩ := m
  obtain rfl : keys = [] := List.isEmpty_iff.mp h
  cases values
  rfl

/-- The keys of a map of texts ascend, and no key is there twice. -/
theorem keys_pairwise_lt {α : Type} (m : SortedMap String α) : m.keys.Pairwise (· < ·) :=
  m.sorted.imp compareOfLessAndEq_eq_lt.mp

variable {κ α : Type} [Ord κ] [Std.TransOrd κ] [Std.LawfulEqOrd κ]

omit [Std.TransOrd κ] in
theorem nodup_keys (m : SortedMap κ α) : m.keys.Nodup := m.sorted.imp fun hless heq => by simp [heq] at hless

omit [Std.TransOrd κ] in
theorem mem_keys_insertEntry_iff {key x : κ} {value : α} {entries : List (κ × α)} :
    x ∈ (insertEntry key value entries).map (·.1) ↔ x = key ∨ x ∈ entries.map (·.1) := by
  refine ⟨mem_keys_insertEntry, ?_⟩
  induction entries with
  | nil => simp [insertEntry]
  | cons entry rest ih =>
    obtain ⟨key', value'⟩ := entry
    intro h
    rw [insertEntry]
    split
    · simpa using h
    · next heq =>
      obtain rfl := Std.compare_eq_iff_eq.mp heq
      simpa using h
    · rw [List.map_cons, List.mem_cons] at h ⊢
      rcases h with rfl | rfl | hrest
      · exact .inr (ih (.inl rfl))
      · exact .inl rfl
      · exact .inr (ih (.inr hrest))

theorem mem_keys_insert {m : SortedMap κ α} {key x : κ} {value : α} :
    x ∈ (m.insert key value).keys ↔ x = key ∨ x ∈ m.keys := by
  rw [keys_eq, keys_eq, insert, entries_ofSorted]
  exact mem_keys_insertEntry_iff

theorem mem_keys_foldl_insert {entries : List (κ × α)} {before : SortedMap κ α} {x : κ} :
    x ∈ (entries.foldl (fun m entry => m.insert entry.1 entry.2) before).keys ↔
      x ∈ before.keys ∨ x ∈ entries.map (·.1) := by
  induction entries generalizing before with
  | nil => simp
  | cons entry rest ih =>
    rw [List.foldl_cons, ih, mem_keys_insert, List.map_cons, List.mem_cons]
    constructor
    · rintro ((heq | hbefore) | hrest)
      · exact .inr (.inl heq)
      · exact .inl hbefore
      · exact .inr (.inr hrest)
    · rintro (hbefore | heq | hrest)
      · exact .inl (.inr hbefore)
      · exact .inl (.inl heq)
      · exact .inr hrest

/-- The keys of a map are those of the entries that it was made of. -/
theorem mem_keys_ofList {entries : List (κ × α)} {x : κ} :
    x ∈ (ofList entries).keys ↔ x ∈ entries.map (·.1) := by
  rw [ofList, mem_keys_foldl_insert]
  simp [empty]

omit [Std.LawfulEqOrd κ] in
theorem insertEntry_insertEntry {key : κ} {value value' : α} {entries : List (κ × α)} :
    insertEntry key value' (insertEntry key value entries) = insertEntry key value' entries := by
  induction entries with
  | nil => simp [insertEntry]
  | cons entry rest ih =>
    obtain ⟨key', stored⟩ := entry
    cases hcompare : compare key key' <;> simp [insertEntry, hcompare, ih]

omit [Std.LawfulEqOrd κ] in
/-- Of two values that a key is given, the later counts. -/
theorem insert_insert {m : SortedMap κ α} {key : κ} {value value' : α} :
    (m.insert key value).insert key value' = m.insert key value' := by
  apply ext
  simp [insert, insertEntry_insertEntry]

omit [Std.LawfulEqOrd κ] in
theorem insertEntry_of_lt {key : κ} {value : α} {entries : List (κ × α)}
    (h : ∀ x ∈ entries.map (·.1), compare x key = .lt) :
    insertEntry key value entries = entries ++ [(key, value)] := by
  induction entries with
  | nil => rfl
  | cons entry rest ih =>
    obtain ⟨key', stored⟩ := entry
    rw [List.map_cons, List.forall_mem_cons] at h
    have hgreater : compare key key' = .gt := Std.OrientedCmp.gt_of_lt h.1
    simp [insertEntry, hgreater, ih h.2]

omit [Std.LawfulEqOrd κ] in
/-- A key beyond all others is put at the end. -/
theorem entries_insert_of_lt {m : SortedMap κ α} {key : κ} {value : α}
    (h : ∀ x ∈ m.keys, compare x key = .lt) :
    (m.insert key value).entries = m.entries ++ [(key, value)] := by
  rw [insert, entries_ofSorted, insertEntry_of_lt]
  rw [← keys_eq]
  exact h

omit [Std.LawfulEqOrd κ] in
/-- A key beyond all others has no value. -/
theorem get?_of_lt {m : SortedMap κ α} {key : κ} (h : ∀ x ∈ m.keys, compare x key = .lt) :
    m.get? key = none := by
  have hentries : ∀ entries : List (κ × α), (∀ x ∈ entries.map (·.1), compare x key = .lt) →
      findEntry key entries = none := by
    intro entries hentries
    induction entries with
    | nil => rfl
    | cons entry rest ih =>
      rw [List.map_cons, List.forall_mem_cons] at hentries
      have hgreater : compare key entry.1 = .gt := Std.OrientedCmp.gt_of_lt hentries.1
      simp [findEntry, hgreater, ih hentries.2]
  apply hentries
  rw [← keys_eq]
  exact h

omit [Std.LawfulEqOrd κ] in
theorem get?_insert_self (m : SortedMap κ α) (key : κ) (value : α) : (m.insert key value).get? key = some value := by
  rw [get?_insert, if_pos Std.ReflCmp.compare_self]

theorem get?_insert_of_ne {key key' : κ} (h : key' ≠ key) (m : SortedMap κ α) (value : α) :
    (m.insert key value).get? key' = m.get? key' := by
  rw [get?_insert, if_neg (mt Std.compare_eq_iff_eq.mp h)]

theorem forall_get?_insert {m : SortedMap κ α} {property : κ → α → Prop}
    (h : ∀ key value, m.get? key = some value → property key value) {key : κ} {value : α}
    (hvalue : property key value) {key' : κ} {value' : α}
    (hget : (m.insert key value).get? key' = some value') : property key' value' := by
  rw [get?_insert] at hget
  by_cases heq : compare key' key = .eq
  · obtain rfl := Std.compare_eq_iff_eq.mp heq
    rw [if_pos heq, Option.some.injEq] at hget
    subst hget
    exact hvalue
  · rw [if_neg heq] at hget
    exact h key' value' hget

/-! ## What lookups find -/

omit [Std.TransOrd κ] in
theorem mem_of_findEntry {entries : List (κ × α)} {key : κ} {value : α}
    (h : findEntry key entries = some value) : (key, value) ∈ entries := by
  induction entries with
  | nil => cases h
  | cons entry rest ih =>
    rw [findEntry] at h
    split at h
    · next heq =>
      obtain rfl := Std.compare_eq_iff_eq.mp heq
      cases h
      exact List.mem_cons_self
    · exact List.mem_cons_of_mem _ (ih h)

theorem findEntry_of_mem {entries : List (κ × α)}
    (hsorted : (entries.map (·.1)).Pairwise (compare · · = .lt)) {key : κ} {value : α}
    (h : (key, value) ∈ entries) : findEntry key entries = some value := by
  induction entries with
  | nil => cases h
  | cons entry rest ih =>
    rw [List.map_cons, List.pairwise_cons] at hsorted
    rw [findEntry]
    rcases List.mem_cons.mp h with rfl | hrest
    · rw [if_pos Std.ReflCmp.compare_self]
    · have hless := hsorted.1 key (List.mem_map_of_mem hrest)
      have hne : compare key entry.1 ≠ .eq := by
        rw [Std.OrientedCmp.gt_of_lt hless]
        decide
      rw [if_neg hne]
      exact ih hsorted.2 hrest

omit [Std.TransOrd κ] [Std.LawfulEqOrd κ] in
theorem sorted_entries (m : SortedMap κ α) : (m.entries.map (·.1)).Pairwise (compare · · = .lt) := by
  rw [← keys_eq]
  exact m.sorted

/-- A lookup finds what is in the map. -/
theorem get?_eq_some_iff {m : SortedMap κ α} {key : κ} {value : α} :
    m.get? key = some value ↔ (key, value) ∈ m.entries :=
  ⟨mem_of_findEntry, findEntry_of_mem m.sorted_entries⟩

/-- The keys are those under which a value is found. -/
theorem mem_keys_iff {m : SortedMap κ α} {key : κ} : key ∈ m.keys ↔ ∃ value, m.get? key = some value := by
  rw [keys_eq]
  simp [get?_eq_some_iff]

/-- The values are those that are found under some key. -/
theorem mem_toList_iff {m : SortedMap κ α} {value : α} : value ∈ m.toList ↔ ∃ key, m.get? key = some value := by
  rw [toList, Row.toList_eq, List.mem_map]
  simp [get?_eq_some_iff, entries]

theorem get?_eq_none_iff {m : SortedMap κ α} {key : κ} : m.get? key = none ↔ key ∉ m.keys := by
  rw [Option.eq_none_iff_forall_ne_some, mem_keys_iff, not_exists]

theorem get?_filter (m : SortedMap κ α) (keep : κ → α → Bool) (key : κ) :
    (m.filter keep).get? key = (m.get? key).filter (keep key) := by
  apply Option.ext
  intro value
  rw [get?_eq_some_iff, Option.filter_eq_some_iff, get?_eq_some_iff, filter, entries_ofSorted,
    List.mem_filter]

theorem get?_filterKeys (m : SortedMap κ α) (keep : κ → Bool) (key : κ) :
    (m.filterKeys keep).get? key = if keep key then m.get? key else none := by
  apply Option.ext
  intro value
  rw [get?_eq_some_iff, filterKeys, entries_ofSorted, List.mem_filter]
  by_cases hkeep : keep key
  · simp [hkeep, get?_eq_some_iff]
  · simp [hkeep]

theorem get?_erase (m : SortedMap κ α) (key key' : κ) :
    (m.erase key).get? key' = if compare key key' = .eq then none else m.get? key' := by
  rw [erase, get?_filterKeys]
  by_cases heq : compare key key' = .eq
  · simp [heq]
  · simp [heq]

omit [Std.TransOrd κ] in
theorem filter_key_of_sorted [DecidableEq κ] {entries : List (κ × α)}
    (hsorted : (entries.map (·.1)).Pairwise (compare · · = .lt)) (key : κ) :
    entries.filter (·.1 = key) = (findEntry key entries).toList.map (key, ·) := by
  induction entries with
  | nil => rfl
  | cons entry rest ih =>
    obtain ⟨key', value⟩ := entry
    rw [List.map_cons, List.pairwise_cons] at hsorted
    rw [findEntry]
    by_cases heq : key' = key
    · subst heq
      -- the key of an entry is less than all that follow
      have hrest : rest.filter (·.1 = key') = [] := by
        rw [List.filter_eq_nil_iff]
        intro entry hentry heq
        have hless := hsorted.1 entry.1 (List.mem_map_of_mem hentry)
        rw [of_decide_eq_true heq] at hless
        simp at hless
      simp [hrest]
    · have hne : compare key key' ≠ .eq := fun h => heq (Std.compare_eq_iff_eq.mp h).symm
      simp [heq, hne, ih hsorted.2]

omit [Std.TransOrd κ] in
/-- The entries of a key: its value, if it has one. -/
theorem entries_filter_key [DecidableEq κ] (m : SortedMap κ α) (key : κ) :
    m.entries.filter (·.1 = key) = (m.get? key).toList.map (key, ·) :=
  filter_key_of_sorted m.sorted_entries key

section

variable [BEq κ] [LawfulBEq κ]

theorem get?_foldl_insert (entries : List (κ × α)) (before : SortedMap κ α) (key : κ) :
    (entries.foldl (fun m entry => m.insert entry.1 entry.2) before).get? key =
      (entries.reverse.lookup key).or (before.get? key) := by
  induction entries generalizing before with
  | nil => rfl
  | cons entry rest ih =>
    obtain ⟨key', value⟩ := entry
    rw [List.foldl_cons, ih, get?_insert, List.reverse_cons, List.lookup_append, Option.or_assoc]
    congr 1
    by_cases heq : key = key'
    · subst heq
      simp
    · have hne : compare key key' ≠ .eq := fun h => heq (Std.compare_eq_iff_eq.mp h)
      have hbeq : (key == key') = false := beq_false_of_ne heq
      simp [List.lookup_cons, hne, hbeq]

/-- Of the values that a list gives a key, the last one is found. -/
theorem get?_ofList (entries : List (κ × α)) (key : κ) :
    (ofList entries).get? key = entries.reverse.lookup key := by
  rw [ofList, get?_foldl_insert, get?_empty, Option.or_none]

end

/-- Lists in strictly ascending order are equal if they have the same members. -/
theorem eq_of_ascending {β : Type} (key : β → κ) {items others : List β}
    (h : items.Pairwise fun item other => compare (key item) (key other) = .lt)
    (hothers : others.Pairwise fun item other => compare (key item) (key other) = .lt)
    (hmem : ∀ item, item ∈ items ↔ item ∈ others) : items = others := by
  have hirrefl : Std.Irrefl fun item other => compare (key item) (key other) = .lt :=
    ⟨fun item hless => by simp at hless⟩
  have htrans : IsTrans β fun item other => compare (key item) (key other) = .lt :=
    ⟨fun _ _ _ => Std.TransCmp.lt_trans⟩
  exact h.eq_of_mem_iff hothers hmem

/-- Of two maps of one size, the keys of one are those of the other if they are among them. -/
theorem keys_eq_of_subset {m m' : SortedMap κ α} (h : m.keys ⊆ m'.keys) (hsize : m'.size ≤ m.size) :
    m.keys = m'.keys := by
  have hperm : m.keys.Perm m'.keys := (List.subperm_of_subset m.nodup_keys h).perm_of_length_le hsize
  exact eq_of_ascending id m.sorted m'.sorted fun _ => hperm.mem_iff

/-- Two maps in which lookups find the same are equal. -/
theorem ext_get? {m m' : SortedMap κ α} (h : ∀ key, m.get? key = m'.get? key) : m = m' := by
  have hmem : ∀ entry, entry ∈ m.entries ↔ entry ∈ m'.entries := by
    rintro ⟨key, value⟩
    rw [← get?_eq_some_iff, h, get?_eq_some_iff]
  have hsorted (m : SortedMap κ α) : m.entries.Pairwise (compare ·.1 ·.1 = .lt) :=
    List.pairwise_map.mp m.sorted_entries
  exact ext (eq_of_ascending (·.1) (hsorted m) (hsorted m') hmem)

/-! ## Maps laid over each other -/

theorem get?_foldl_insert_of_sorted {entries : List (κ × α)}
    (hsorted : (entries.map (·.1)).Pairwise (compare · · = .lt)) (before : SortedMap κ α) (key : κ) :
    (entries.foldl (fun m entry => m.insert entry.1 entry.2) before).get? key =
      (findEntry key entries).or (before.get? key) := by
  induction entries generalizing before with
  | nil => rfl
  | cons entry rest ih =>
    rw [List.map_cons, List.pairwise_cons] at hsorted
    rw [List.foldl_cons, ih hsorted.2, get?_insert, findEntry]
    by_cases heq : compare key entry.1 = .eq
    · rw [if_pos heq, if_pos heq]
      cases hfound : findEntry key rest with
      | none => rfl
      | some value =>
        have hless := hsorted.1 key (List.mem_map_of_mem (mem_of_findEntry hfound))
        rw [Std.OrientedCmp.gt_of_lt hless] at heq
        cases heq
    · rw [if_neg heq, if_neg heq]

/-- Where both maps have a key, the value of the upper one is found. -/
theorem get?_overlay (m upper : SortedMap κ α) (key : κ) :
    (m.overlay upper).get? key = (upper.get? key).or (m.get? key) :=
  get?_foldl_insert_of_sorted upper.sorted_entries m key

/-- A map is made of its entries. -/
theorem ofList_entries (m : SortedMap κ α) : ofList m.entries = m := by
  apply ext_get?
  intro key
  rw [ofList, get?_foldl_insert_of_sorted m.sorted_entries, get?_empty, Option.or_none, get?]

end SortedMap

end TelemetryAutomation
