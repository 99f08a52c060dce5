import Mathlib.Data.List.Forall2

/-!
# What success says

Checks are sequences of steps that may throw. The lemmas take a successful one apart: each of its steps
succeeded, and what it gives was made of what they gave. An action on a state that may throw is run in the
same way, step by step.
-/

namespace TelemetryAutomation.Success

variable {ε ε' α β : Type}

theorem bind_eq_ok {first : Except ε α} {rest : α → Except ε β} {result : β} :
    first >>= rest = .ok result ↔ ∃ value, first = .ok value ∧ rest value = .ok result := by
  cases first with
  | error => simp [bind, Except.bind]
  | ok value => simp [bind, Except.bind]

theorem mapError_eq_ok {f : ε → ε'} {first : Except ε α} {result : α} :
    first.mapError f = .ok result ↔ first = .ok result := by
  cases first with
  | error => simp [Except.mapError]
  | ok value => simp [Except.mapError]

/-- A sequence fails where its first failing step does. -/
theorem bind_eq_error {first : Except ε α} {rest : α → Except ε β} {error : ε} :
    first >>= rest = .error error ↔
      first = .error error ∨ ∃ value, first = .ok value ∧ rest value = .error error := by
  cases first with
  | error => simp [bind, Except.bind]
  | ok value => simp [bind, Except.bind]

theorem mapError_eq_error {f : ε → ε'} {first : Except ε α} {error : ε'} :
    first.mapError f = .error error ↔ ∃ cause, first = .error cause ∧ f cause = error := by
  cases first with
  | error => simp [Except.mapError]
  | ok value => simp [Except.mapError]

theorem exists_eq_ok_iff {result : Except ε α} :
    (∃ value, result = .ok value) ↔ ∀ error, result ≠ .error error := by
  cases result <;> simp

/-- What follows a demand is done only if it is met. -/
theorem require_eq_ok {demand : Prop} [Decidable demand] {error : ε} {rest : PUnit → Except ε α}
    {result : α} :
    (if demand then rest ⟨⟩ else throw error >>= rest) = .ok result ↔
      demand ∧ rest ⟨⟩ = .ok result := by
  by_cases h : demand
  · simp [h]
  · simp [h, throw, throwThe, MonadExceptOf.throw, bind, Except.bind]

/-- A check of all items succeeds if each item passes. -/
theorem forM_eq_ok {check : α → Except ε Unit} {items : List α} :
    items.forM check = .ok () ↔ ∀ item ∈ items, check item = .ok () := by
  induction items with
  | nil => simp [pure, Except.pure]
  | cons item rest ih =>
    rw [List.forM, bind_eq_ok, List.forall_mem_cons, ← ih]
    exact ⟨fun ⟨_, hitem, hrest⟩ => ⟨hitem, hrest⟩, fun ⟨hitem, hrest⟩ => ⟨(), hitem, hrest⟩⟩

/-- The results of all items come in the order of the items. -/
theorem mapM_eq_ok {f : α → Except ε β} {items : List α} {results : List β} :
    items.mapM f = .ok results ↔
      List.Forall₂ (fun item result => f item = .ok result) items results := by
  induction items generalizing results with
  | nil => simp [pure, Except.pure, eq_comm]
  | cons item rest ih =>
    simp only [List.mapM_cons, bind_eq_ok, List.forall₂_cons_left_iff, ← ih]
    constructor
    · rintro ⟨first, hfirst, more, hmore, ⟨⟩⟩
      exact ⟨first, more, hfirst, hmore, rfl⟩
    · rintro ⟨first, more, hfirst, hmore, rfl⟩
      exact ⟨first, hfirst, more, hmore, rfl⟩

theorem mem_of_mapM_eq_ok {f : α → Except ε β} {items : List α} {results : List β}
    (h : items.mapM f = .ok results) {result : β} :
    result ∈ results ↔ ∃ item ∈ items, f item = .ok result := by
  rw [mapM_eq_ok] at h
  induction h with
  | nil => simp
  | @cons item first items rest hfirst _ ih =>
    rw [List.mem_cons, ih, List.exists_mem_cons_iff, hfirst, Except.ok.injEq]
    exact or_congr_left eq_comm

theorem exists_mapM_eq_ok {f : α → Except ε β} {items : List α}
    (h : ∀ item ∈ items, ∃ result, f item = .ok result) :
    ∃ results, items.mapM f = .ok results := by
  induction items with
  | nil => exact ⟨[], rfl⟩
  | cons item rest ih =>
    obtain ⟨⟨first, hfirst⟩, hrest⟩ := List.forall_mem_cons.mp h
    obtain ⟨more, hmore⟩ := ih hrest
    refine ⟨first :: more, ?_⟩
    rw [mapM_eq_ok] at hmore ⊢
    exact .cons hfirst hmore

theorem exists_mapM_eq_ok_iff {f : α → Except ε β} {items : List α} :
    (∃ results, items.mapM f = .ok results) ↔ ∀ item ∈ items, ∃ result, f item = .ok result := by
  refine ⟨?_, exists_mapM_eq_ok⟩
  rintro ⟨results, hresults⟩
  induction mapM_eq_ok.mp hresults with
  | nil => nofun
  | cons hfirst hrest ih => exact List.forall_mem_cons.mpr ⟨⟨_, hfirst⟩, ih (mapM_eq_ok.mpr hrest)⟩

/-- A failure is that of the first item that fails. -/
theorem mapM_eq_error {f : α → Except ε β} {items : List α} {error : ε} :
    items.mapM f = .error error ↔
      ∃ front item back, items = front ++ item :: back ∧
        (∀ earlier ∈ front, ∃ result, f earlier = .ok result) ∧ f item = .error error := by
  induction items with
  | nil =>
    refine ⟨nofun, ?_⟩
    rintro ⟨front, item, back, hitems, -⟩
    simp at hitems
  | cons item rest ih =>
    rw [List.mapM_cons, bind_eq_error]
    constructor
    · rintro (hitem | ⟨first, hfirst, hrest⟩)
      · exact ⟨[], item, rest, rfl, nofun, hitem⟩
      · rcases bind_eq_error.mp hrest with hrest | ⟨more, -, hpure⟩
        · obtain ⟨front, other, back, rfl, hfront, hother⟩ := ih.mp hrest
          exact ⟨item :: front, other, back, rfl, List.forall_mem_cons.mpr ⟨⟨first, hfirst⟩, hfront⟩,
            hother⟩
        · cases hpure
    · rintro ⟨front, other, back, hitems, hfront, hother⟩
      cases front with
      | nil =>
        obtain ⟨rfl, -⟩ := List.cons.inj hitems
        exact .inl hother
      | cons first front =>
        obtain ⟨rfl, rfl⟩ := List.cons.inj hitems
        obtain ⟨⟨result, hresult⟩, hfront⟩ := List.forall_mem_cons.mp hfront
        have hrest := ih.mpr ⟨front, other, back, rfl, hfront, hother⟩
        exact .inr ⟨result, hresult, bind_eq_error.mpr (.inl hrest)⟩

/-- If there is no result, then one of the items has failed. -/
theorem exists_of_mapM_eq_error {f : α → Except ε β} {items : List α} {error : ε}
    (h : items.mapM f = .error error) : ∃ item ∈ items, f item = .error error := by
  obtain ⟨front, item, back, rfl, -, hitem⟩ := mapM_eq_error.mp h
  exact ⟨item, by simp, hitem⟩

/-- If there is a result for every item, then none is left out. -/
theorem forall₂_filterMap_id {property : α → β → Prop} {items : List α} {found : List (Option β)}
    (h : List.Forall₂ (fun item found => ∃ value, found = some value ∧ property item value)
      items found) :
    List.Forall₂ property items (found.filterMap id) := by
  induction h with
  | nil => exact .nil
  | cons hfirst _ ih =>
    obtain ⟨value, rfl, hvalue⟩ := hfirst
    exact .cons hvalue ih

/-- Every result has an item behind it. -/
theorem exists_item_of_mem {property : α → β → Prop} {items : List α} {results : List β}
    (h : List.Forall₂ property items results) {result : β} (hresult : result ∈ results) :
    ∃ item ∈ items, property item result := by
  induction h with
  | nil => cases hresult
  | @cons item first items rest hfirst _ ih =>
    rcases List.mem_cons.mp hresult with rfl | hrest
    · exact ⟨item, List.mem_cons_self, hfirst⟩
    · obtain ⟨other, hother, hproperty⟩ := ih hrest
      exact ⟨other, List.mem_cons_of_mem _ hother, hproperty⟩

/-! ## Actions on a state -/

variable {state : Type}

theorem run_bind (act : ExceptT ε (StateM state) α) (rest : α → ExceptT ε (StateM state) β)
    (before : state) :
    (act >>= rest) before =
      match act before with
      | (.ok value, after) => rest value after
      | (.error error, after) => (.error error, after) := by
  show (let (result, after) := act before; (ExceptT.bindCont rest result) after) = _
  rcases act before with ⟨_ | _, after⟩ <;> rfl

theorem run_bind_of_ok {act : ExceptT ε (StateM state) α}
    {rest : α → ExceptT ε (StateM state) β} {before after : state} {value : α}
    (h : act before = (.ok value, after)) : (act >>= rest) before = rest value after := by
  rw [run_bind, h]

theorem run_bind_of_error {act : ExceptT ε (StateM state) α}
    {rest : α → ExceptT ε (StateM state) β} {before after : state} {error : ε}
    (h : act before = (.error error, after)) : (act >>= rest) before = (.error error, after) := by
  rw [run_bind, h]

theorem run_discard_of_ok {act : ExceptT ε (StateM state) α} {before after : state} {value : α}
    (h : act before = (.ok value, after)) : discard act before = (.ok (), after) := by
  have hmap : discard act = act >>= fun _ => pure () := (bind_pure_comp (fun _ => ()) act).symm
  rw [hmap, run_bind_of_ok h]
  rfl

/-- An action succeeds on a state, and a property holds of what it gives and leaves. -/
def Succeeds (act : ExceptT ε (StateM state) α) (before : state) (property : α → state → Prop) :
    Prop :=
  ∃ value after, act before = (.ok value, after) ∧ property value after

namespace Succeeds

variable {act : ExceptT ε (StateM state) α} {before : state} {property : α → state → Prop}

theorem of_eq {value : α} {after : state} (h : act before = (.ok value, after))
    (hproperty : property value after) : Succeeds act before property :=
  ⟨value, after, h, hproperty⟩

theorem at_ok {value : α} {after : state} (h : Succeeds act before property)
    (hact : act before = (.ok value, after)) : property value after := by
  obtain ⟨_, _, hact', hproperty⟩ := h
  rw [hact] at hact'
  cases hact'
  exact hproperty

theorem pure {value : α} (h : property value before) :
    Succeeds (Pure.pure value : ExceptT ε (StateM state) α) before property :=
  of_eq rfl h

theorem bind {rest : α → ExceptT ε (StateM state) β} {other : β → state → Prop}
    (h : Succeeds act before property)
    (hrest : ∀ value after, property value after → Succeeds (rest value) after other) :
    Succeeds (act >>= rest) before other := by
  obtain ⟨value, after, hact, hproperty⟩ := h
  obtain ⟨result, final, hresult, hother⟩ := hrest value after hproperty
  refine of_eq ?_ hother
  rw [run_bind_of_ok hact, hresult]

/-- Actions on the items of a list, with an invariant that counts them. -/
theorem mapM {items : List α} {act : α → ExceptT ε (StateM state) β}
    {invariant : Nat → state → Prop} {property : α → β → Prop} {n : Nat} {before : state}
    (h : ∀ item ∈ items, ∀ i < n + items.length, ∀ before, invariant i before →
      Succeeds (act item) before fun result after => property item result ∧ invariant (i + 1) after)
    (hbefore : invariant n before) :
    Succeeds (items.mapM act) before fun results after =>
      List.Forall₂ property items results ∧ invariant (n + items.length) after := by
  induction items generalizing n before with
  | nil => exact .pure ⟨.nil, hbefore⟩
  | cons item rest ih =>
    obtain ⟨hitem, hrest⟩ := List.forall_mem_cons.mp h
    have hlength : n + (item :: rest).length = n + 1 + rest.length := by
      rw [List.length_cons]
      omega
    rw [hlength] at hitem hrest ⊢
    rw [List.mapM_cons]
    apply (hitem n (by omega) before hbefore).bind
    rintro result after ⟨hresult, hafter⟩
    apply (ih hrest hafter).bind
    rintro results final ⟨hresults, hfinal⟩
    exact .pure ⟨.cons hresult hresults, hfinal⟩

end Succeeds

end TelemetryAutomation.Success
