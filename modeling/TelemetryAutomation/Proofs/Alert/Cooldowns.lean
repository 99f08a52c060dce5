import Mathlib.Data.List.Induction
import TelemetryAutomation.Alert.Cooldown
import TelemetryAutomation.Proofs.SortedMap
import TelemetryAutomation.Time.Timestamp

/-!
# Claimed keys

A store throws claims away when it is asked for any key, and a claim may be given up early. What matters is
only which keys it holds at a time, `Holds`, and each call is known by what the store holds afterwards. From
this follows which calls succeed (`acquire_afterCalls`): what happened to other keys has no part in it.
-/

namespace TelemetryAutomation

namespace CooldownStore

variable {store : CooldownStore} {key key' : String} {nanos now time : Nat}

/-- A key is claimed, and the claim has not ended at a time. -/
def Holds (store : CooldownStore) (key : String) (time : Nat) : Prop :=
  ∃ ends, store.claims.get? key = some ends ∧ time < ends

theorem not_holds_empty : ¬ empty.Holds key time := by
  rintro ⟨ends, hclaim, -⟩
  cases hclaim

/-- The claims that have not ended at a time. -/
def live (store : CooldownStore) (now : Nat) : CooldownStore :=
  ⟨store.claims.filter fun _ ends => now < ends⟩

theorem holds_live (h : now ≤ time) : (store.live now).Holds key time ↔ store.Holds key time := by
  simp only [Holds, live, SortedMap.get?_filter, Option.filter_eq_some_iff, decide_eq_true_eq]
  constructor
  · rintro ⟨ends, ⟨hclaim, -⟩, htime⟩
    exact ⟨ends, hclaim, htime⟩
  · rintro ⟨ends, hclaim, htime⟩
    exact ⟨ends, ⟨hclaim, by omega⟩, htime⟩

theorem contains_live : (store.live now).claims.contains key ↔ store.Holds key now := by
  simp only [Holds, live, SortedMap.contains, SortedMap.get?_filter, Option.isSome_iff_exists,
    Option.filter_eq_some_iff, decide_eq_true_eq]

/-- A request fails if its key is held, and else claims the key. -/
theorem acquire_cases (store : CooldownStore) (key : String) (nanos now : Nat) :
    store.Holds key now ∧ store.acquire key nanos now = (false, store.live now) ∨
      ¬ store.Holds key now ∧ store.acquire key nanos now =
        (true, ⟨(store.live now).claims.insert key (now + nanos)⟩) := by
  rw [← contains_live]
  by_cases hheld : (store.live now).claims.contains key
  · exact .inl ⟨hheld, if_pos hheld⟩
  · exact .inr ⟨hheld, if_neg hheld⟩

theorem acquire_eq_true_iff :
    (store.acquire key nanos now).1 = true ↔ ¬ store.Holds key now := by
  rcases store.acquire_cases key nanos now with ⟨hheld, heq⟩ | ⟨hfree, heq⟩
  · simp [heq, hheld]
  · simp [heq, hfree]

/-- After a request the store holds what it held before, and the key if the request succeeded. -/
theorem holds_acquire (h : now ≤ time) :
    (store.acquire key nanos now).2.Holds key' time ↔
      store.Holds key' time ∨
        (store.acquire key nanos now).1 = true ∧ key' = key ∧ time < now + nanos := by
  rcases store.acquire_cases key nanos now with ⟨-, heq⟩ | ⟨hfree, heq⟩
  · simp [heq, holds_live h]
  · have hbefore : store.Holds key' time ↔ (store.live now).Holds key' time := (holds_live h).symm
    rw [heq, hbefore]
    by_cases hkey : key' = key
    · -- the key was free, so that only the new claim holds it
      subst hkey
      have hfree' : ¬ (store.live now).Holds key' time := by
        rw [← hbefore]
        rintro ⟨ends, hclaim, htime⟩
        exact hfree ⟨ends, hclaim, by omega⟩
      rw [or_iff_right hfree']
      simp [Holds]
    · simp only [Holds, SortedMap.get?_insert_of_ne hkey, hkey, false_and, and_false, or_false]

/-- After a release the store holds all other keys that it held before. -/
theorem holds_release :
    (store.release key).Holds key' time ↔ key' ≠ key ∧ store.Holds key' time := by
  rw [release, Holds, SortedMap.get?_erase]
  by_cases hkey : key' = key
  · subst hkey
    simp
  · have hne : compare key key' ≠ .eq := fun heq => hkey (Std.compare_eq_iff_eq.mp heq).symm
    simp [Holds, hkey, hne]

/-! ## Calls -/

/-- A call of a store at a time. -/
inductive Call
  | acquire (key : String) (nanos time : Nat)
  | release (key : String) (time : Nat)

/-- The time of a call. -/
def Call.instant : Call → Nat
  | acquire _ _ time => time
  | release _ time => time

/-- What a call leaves. -/
def call (store : CooldownStore) : Call → CooldownStore
  | .acquire key nanos time => (store.acquire key nanos time).2
  | .release key _ => store.release key

/-- What calls leave, one after the other. -/
def afterCalls (store : CooldownStore) (calls : List Call) : CooldownStore := calls.foldl call store

/-- A key is claimed at a time: a request for it has succeeded whose claim has not ended, and it has not been
released since. -/
def Claimed (calls : List Call) (key : String) (time : Nat) : Prop :=
  ∃ earlier nanos start later, calls = earlier ++ .acquire key nanos start :: later ∧
    ((empty.afterCalls earlier).acquire key nanos start).1 = true ∧
    (∀ since, .release key since ∉ later) ∧ time < start + nanos

theorem not_claimed_nil : ¬ Claimed [] key time := by
  rintro ⟨earlier, nanos, start, later, heq, -⟩
  simp at heq

theorem claimed_concat_acquire (calls : List Call) :
    Claimed (calls ++ [.acquire key nanos now]) key' time ↔
      Claimed calls key' time ∨
        ((empty.afterCalls calls).acquire key nanos now).1 = true ∧ key' = key ∧
          time < now + nanos := by
  constructor
  · -- the key is claimed by the last request, or by an earlier one that the last one follows
    rintro ⟨earlier, nanos', start, later, heq, hgiven, hreleased, htime⟩
    rcases List.eq_nil_or_concat' later with rfl | ⟨later, last, rfl⟩
    · obtain ⟨rfl, hcall⟩ := List.append_inj' heq rfl
      cases hcall
      exact .inr ⟨hgiven, rfl, htime⟩
    · rw [← List.cons_append, ← List.append_assoc] at heq
      obtain ⟨rfl, -⟩ := List.append_inj' heq rfl
      exact .inl ⟨earlier, nanos', start, later, rfl, hgiven,
        fun since hmem => hreleased since (List.mem_append_left _ hmem), htime⟩
  · rintro (⟨earlier, nanos', start, later, rfl, hgiven, hreleased, htime⟩ | ⟨hgiven, rfl, htime⟩)
    · refine ⟨earlier, nanos', start, later ++ [.acquire key nanos now], by simp, hgiven, ?_, htime⟩
      intro since hmem
      rcases List.mem_append.mp hmem with hbefore | hlast
      · exact hreleased since hbefore
      · simp at hlast
    · exact ⟨calls, nanos, now, [], rfl, hgiven, fun _ => List.not_mem_nil, htime⟩

theorem claimed_concat_release (calls : List Call) :
    Claimed (calls ++ [.release key now]) key' time ↔ key' ≠ key ∧ Claimed calls key' time := by
  constructor
  · rintro ⟨earlier, nanos, start, later, heq, hgiven, hreleased, htime⟩
    rcases List.eq_nil_or_concat' later with rfl | ⟨later, last, rfl⟩
    · obtain ⟨-, hcall⟩ := List.append_inj' heq rfl
      cases hcall
    · rw [← List.cons_append, ← List.append_assoc] at heq
      obtain ⟨rfl, hcall⟩ := List.append_inj' heq rfl
      cases hcall
      refine ⟨?_, earlier, nanos, start, later, rfl, hgiven,
        fun since hmem => hreleased since (List.mem_append_left _ hmem), htime⟩
      rintro rfl
      exact hreleased now (by simp)
  · rintro ⟨hkey, earlier, nanos, start, later, rfl, hgiven, hreleased, htime⟩
    refine ⟨earlier, nanos, start, later ++ [.release key now], by simp, hgiven, ?_, htime⟩
    intro since hmem
    rcases List.mem_append.mp hmem with hbefore | hlast
    · exact hreleased since hbefore
    · simp only [List.mem_singleton, Call.release.injEq] at hlast
      exact hkey hlast.1

/-- After some calls the store holds the keys that they have claimed, at any time that is not before them. -/
theorem holds_afterCalls_iff (calls : List Call) (h : ∀ call ∈ calls, call.instant ≤ time) :
    (empty.afterCalls calls).Holds key time ↔ Claimed calls key time := by
  -- a call is known by what the store held before it, so the induction is on the last one
  induction calls using List.reverseRecOn generalizing key with
  | nil => exact iff_of_false not_holds_empty not_claimed_nil
  | append_singleton calls last ih =>
    obtain ⟨hcalls, hlast⟩ := List.forall_mem_append.mp h
    have hafter : empty.afterCalls (calls ++ [last]) = (empty.afterCalls calls).call last := by
      rw [afterCalls, List.foldl_append]
      rfl
    rw [hafter]
    cases last with
    | acquire key' nanos now =>
      have htime : now ≤ time := hlast _ List.mem_cons_self
      rw [call, holds_acquire htime, ih hcalls, claimed_concat_acquire]
    | release key' now =>
      rw [call, holds_release, ih hcalls, claimed_concat_release]

/-- After calls that are not later, a request succeeds if its key is not claimed. -/
theorem acquire_afterCalls (calls : List Call) (h : ∀ call ∈ calls, call.instant ≤ now) :
    ((empty.afterCalls calls).acquire key nanos now).1 = true ↔ ¬ Claimed calls key now := by
  rw [acquire_eq_true_iff, holds_afterCalls_iff calls h]

end CooldownStore

/-! ## Requests of alerts

An alert asks for its key before it is sent, and gives it up again if it cannot be delivered. -/

/-- What became of an alert that asked for its key. -/
inductive AlertAnswer
  | delivered
  | undelivered
  | silenced
deriving DecidableEq

/-- An alert that asked for its key at a time. -/
structure AlertRequest where
  key : String
  cooldown : Cooldown
  time : Nat
  answer : AlertAnswer

namespace AlertRequest

/-- How long the alert is to stay silent. -/
def nanos (request : AlertRequest) : Nat := request.cooldown.seconds * nanosPerSecond

/-- The time from which on the key is free again. -/
def ends (request : AlertRequest) : Nat := request.time + request.nanos

/-- What a request does to the store: it claims the key if it can, and gives it up again if the alert is not
delivered. -/
structure Changes (request : AlertRequest) (before after : CooldownStore) : Prop where
  granted_iff : (before.acquire request.key request.nanos request.time).1 = true ↔
    request.answer ≠ .silenced
  after_eq : after =
    if request.answer = .undelivered then
      (before.acquire request.key request.nanos request.time).2.release request.key
    else (before.acquire request.key request.nanos request.time).2

variable {request : AlertRequest} {before after : CooldownStore}

/-- An alert is silenced if its key is held. -/
theorem Changes.silenced_iff (h : request.Changes before after) :
    request.answer = .silenced ↔ before.Holds request.key request.time := by
  have hgranted := h.granted_iff
  rw [CooldownStore.acquire_eq_true_iff, ne_eq, not_iff_not] at hgranted
  exact hgranted.symm

/-- After a request the store holds what it held before, and the key if the alert was delivered. -/
theorem Changes.holds_iff (h : request.Changes before after) {key : String} {time : Nat}
    (htime : request.time ≤ time) :
    after.Holds key time ↔
      before.Holds key time ∨
        request.answer = .delivered ∧ key = request.key ∧ time < request.ends := by
  rw [h.after_eq]
  by_cases hanswer : request.answer = .undelivered
  · rw [if_pos hanswer, CooldownStore.holds_release, CooldownStore.holds_acquire htime]
    by_cases hkey : key = request.key
    · -- the key was free, or else the alert would have been silenced
      have hfree : ¬ before.Holds request.key time := by
        rintro ⟨ends, hclaim, hends⟩
        have hsilenced := h.silenced_iff.mpr ⟨ends, hclaim, by omega⟩
        rw [hanswer] at hsilenced
        cases hsilenced
      simp [hkey, hanswer, hfree]
    · simp [hkey]
  · rw [if_neg hanswer, CooldownStore.holds_acquire htime, h.granted_iff]
    have hdelivered : request.answer ≠ .silenced ↔ request.answer = .delivered := by
      cases hcases : request.answer <;> simp_all
    rw [hdelivered, ends]

end AlertRequest

/-- Requests one after the other, from one store and time to another. -/
inductive Requests : CooldownStore → Nat → List AlertRequest → CooldownStore → Nat → Prop
  | nil {store : CooldownStore} {now later : Nat} (hnow : now ≤ later) :
      Requests store now [] store later
  | cons {before between after : CooldownStore} {now later : Nat} {request : AlertRequest}
      {rest : List AlertRequest} (hnow : now ≤ request.time) (hchanges : request.Changes before between)
      (hrest : Requests between request.time rest after later) :
      Requests before now (request :: rest) after later

namespace Requests

variable {before between after : CooldownStore} {now middle later : Nat}
  {requests more : List AlertRequest}

theorem le_start (h : Requests before middle requests after later) (hnow : now ≤ middle) :
    Requests before now requests after later := by
  cases h with
  | nil hmiddle => exact .nil (hnow.trans hmiddle)
  | cons hmiddle hchanges hrest => exact .cons (hnow.trans hmiddle) hchanges hrest

theorem append (h : Requests before now requests between middle)
    (h' : Requests between middle more after later) :
    Requests before now (requests ++ more) after later := by
  induction h with
  | nil hnow => exact h'.le_start hnow
  | cons hnow hchanges _ ih => exact .cons hnow hchanges (ih h')

theorem start_le (h : Requests before now requests after later) : now ≤ later := by
  induction h with
  | nil hnow => exact hnow
  | cons hnow _ _ ih => exact hnow.trans ih

theorem start_le_time (h : Requests before now requests after later) :
    ∀ request ∈ requests, now ≤ request.time := by
  induction h with
  | nil => exact fun request hrequest => absurd hrequest List.not_mem_nil
  | cons hnow _ _ ih =>
    exact List.forall_mem_cons.mpr ⟨hnow, fun request hrequest => hnow.trans (ih request hrequest)⟩

theorem time_le (h : Requests before now requests after later) :
    ∀ request ∈ requests, request.time ≤ later := by
  induction h with
  | nil => exact fun request hrequest => absurd hrequest List.not_mem_nil
  | cons _ _ hrest ih => exact List.forall_mem_cons.mpr ⟨hrest.start_le, ih⟩

theorem ordered (h : Requests before now requests after later) :
    requests.Pairwise (·.time ≤ ·.time) := by
  induction h with
  | nil => exact .nil
  | cons _ _ hrest ih => exact .cons hrest.start_le_time ih

/-- After requests the store holds what it held before, and the keys of the alerts that were delivered. -/
theorem holds_iff (h : Requests before now requests after later) {key : String} {time : Nat}
    (htime : later ≤ time) :
    after.Holds key time ↔
      before.Holds key time ∨
        ∃ request ∈ requests, request.answer = .delivered ∧ key = request.key ∧ time < request.ends := by
  induction h with
  | nil => simp
  | cons _ hchanges hrest ih =>
    rw [ih htime, hchanges.holds_iff (hrest.start_le.trans htime), List.exists_mem_cons_iff, or_assoc]

/-- The store at the time of a request. -/
theorem exists_changes {earlier rest : List AlertRequest} {request : AlertRequest}
    (h : Requests before now (earlier ++ request :: rest) after later) :
    ∃ store store', Requests before now earlier store request.time ∧ request.Changes store store' := by
  induction earlier generalizing before now with
  | nil =>
    cases h with
    | cons hnow hchanges _ => exact ⟨before, _, .nil hnow, hchanges⟩
  | cons first earlier ih =>
    cases h with
    | cons hnow hchanges hrest =>
      obtain ⟨store, store', hearlier, hrequest⟩ := ih hrest
      exact ⟨store, store', .cons hnow hchanges hearlier, hrequest⟩

end Requests

/-- Requests honour cooldowns. An alert is silenced exactly if its key is held from the beginning, or if an
earlier alert was delivered under it whose cooldown has not elapsed. So no alert is delivered under a key
before the cooldown of an earlier one has elapsed, and after an alert that was not delivered the next one
under its key is not silenced. -/
structure HonourCooldowns (first : CooldownStore) (requests : List AlertRequest) : Prop where
  ordered : requests.Pairwise (·.time ≤ ·.time)
  silenced_iff : ∀ earlier request later, requests = earlier ++ request :: later →
    (request.answer = .silenced ↔
      first.Holds request.key request.time ∨
        ∃ other ∈ earlier, other.answer = .delivered ∧ request.key = other.key ∧
          request.time < other.ends)
  spaced : requests.Pairwise fun earlier later =>
    earlier.answer = .delivered → later.answer = .delivered → later.key = earlier.key →
      earlier.ends ≤ later.time
  free_after_failure : ∀ earlier failed between next later,
    requests = earlier ++ failed :: between ++ next :: later → failed.answer = .undelivered →
      next.key = failed.key → (∀ other ∈ between, other.key ≠ failed.key) → next.answer ≠ .silenced

namespace Requests

variable {before after : CooldownStore} {now later : Nat} {requests : List AlertRequest}

theorem silenced_iff {earlier rest : List AlertRequest} {request : AlertRequest}
    (h : Requests before now (earlier ++ request :: rest) after later) :
    request.answer = .silenced ↔
      before.Holds request.key request.time ∨
        ∃ other ∈ earlier, other.answer = .delivered ∧ request.key = other.key ∧
          request.time < other.ends := by
  obtain ⟨store, store', hearlier, hchanges⟩ := h.exists_changes
  rw [hchanges.silenced_iff, hearlier.holds_iff le_rfl]

theorem spaced (h : Requests before now requests after later) :
    requests.Pairwise fun earlier later =>
      earlier.answer = .delivered → later.answer = .delivered → later.key = earlier.key →
        earlier.ends ≤ later.time := by
  induction h with
  | nil => exact .nil
  | @cons before between after now later request rest _ hchanges hrest ih =>
    refine .cons ?_ ih
    intro other hother hrequest hdelivered hkey
    obtain ⟨earlier, more, rfl⟩ := List.append_of_mem hother
    have hafter := hrest.start_le_time other hother
    by_contra hearly
    -- the key is still held, so the other alert would have been silenced
    have hheld : between.Holds other.key other.time :=
      (hchanges.holds_iff hafter).mpr (.inr ⟨hrequest, hkey, by omega⟩)
    have hsilenced := hrest.silenced_iff.mpr (.inl hheld)
    rw [hdelivered] at hsilenced
    cases hsilenced

theorem free_after_failure {earlier between rest : List AlertRequest} {failed next : AlertRequest}
    (h : Requests before now (earlier ++ failed :: between ++ next :: rest) after later)
    (hfailed : failed.answer = .undelivered) (hkey : next.key = failed.key)
    (hbetween : ∀ other ∈ between, other.key ≠ failed.key) : next.answer ≠ .silenced := by
  intro hsilenced
  have hfirst : ¬ (before.Holds failed.key failed.time ∨ ∃ other ∈ earlier,
      other.answer = .delivered ∧ failed.key = other.key ∧ failed.time < other.ends) := by
    have hmore := h
    rw [List.append_assoc, List.cons_append] at hmore
    rw [← hmore.silenced_iff, hfailed]
    nofun
  have htime : failed.time ≤ next.time := by
    have hpairs := h.ordered
    rw [List.pairwise_append] at hpairs
    exact hpairs.2.2 failed (by simp) next List.mem_cons_self
  rw [h.silenced_iff, hkey] at hsilenced
  -- whatever silences the next alert would have silenced the one that failed
  rcases hsilenced with ⟨ends, hclaim, hends⟩ | ⟨other, hother, hdelivered, hsame, hends⟩
  · exact hfirst (.inl ⟨ends, hclaim, by omega⟩)
  · rcases List.mem_append.mp hother with hearlier | hmem
    · exact hfirst (.inr ⟨other, hearlier, hdelivered, hsame, by omega⟩)
    · rcases List.mem_cons.mp hmem with rfl | hmem
      · rw [hfailed] at hdelivered
        cases hdelivered
      · exact hbetween other hmem hsame.symm

theorem honourCooldowns (h : Requests before now requests after later) :
    HonourCooldowns before requests where
  ordered := h.ordered
  silenced_iff := by
    rintro earlier request rest rfl
    exact h.silenced_iff
  spaced := h.spaced
  free_after_failure := by
    rintro earlier failed between next rest rfl
    exact h.free_after_failure

end Requests

end TelemetryAutomation
