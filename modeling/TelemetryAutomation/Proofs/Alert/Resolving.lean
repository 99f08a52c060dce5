import TelemetryAutomation.Proofs.Alert.Addresses
import TelemetryAutomation.Proofs.Repetitions

/-!
# Lists of recipients in normal form

Recipients are resolved one after the other, and the list of those resolved so far decides whether an address
is repeated. Seen from the whole list, the result is the list of normal forms without repetitions, in the order
in which they come up first, or else the first entry that is no address.

* `Recipient.resolve_eq_ok_iff`, `Recipient.resolve_eq_error_iff`: what resolving comes to
* `Recipient.resolve_resolved`: resolving again changes nothing
-/

namespace TelemetryAutomation

namespace Recipient

open Success (bind_eq_error bind_eq_ok)

variable {recipients : Option Json} {resolved addresses seen entries : List String} {entry : String}

/-! ## Entries -/

/-- Whether an entry is left when blanks are trimmed. -/
def isFilled (entry : String) : Bool := Text.trimmed entry ≠ ""

/-- The texts among recipients that are not blank. What is no list has none. -/
def textsOf : Option Json → List String
  | some (.arr items) => (items.filterMap Json.str?).filter isFilled
  | _ => []

/-- No character is lost in lower case, so the normal form is blank only if the entry is. -/
theorem normalize_eq_empty_iff : normalize entry = "" ↔ Text.trimmed entry = "" := by
  refine ⟨fun h => ?_, normalize_of_blank⟩
  rw [normalize, Text.lowercase, String.ofList_eq_empty_iff] at h
  exact String.toList_eq_nil_iff.mp (Text.lowerAfter_eq_nil h)

/-! ## One entry after the other -/

theorem add_of_blank (h : isFilled entry = false) : add resolved entry = .ok resolved := by
  have hblank : normalize entry = "" := normalize_eq_empty_iff.mpr (by simpa [isFilled] using h)
  rw [add, hblank]
  rfl

/-- The normal form of an address is put at the end unless it has come up before. -/
theorem add_of_isAddress (h : isAddress (normalize entry)) (seen : List String) :
    add seen.eraseDups entry = .ok (seen ++ [normalize entry]).eraseDups := by
  have hfilled : (normalize entry).isEmpty = false := by
    rw [← Bool.not_eq_true, String.isEmpty_iff]
    exact ne_empty_of_isAddress h
  by_cases hmem : normalize entry ∈ seen
  · simp [add, hfilled, h, hmem, eraseDups_concat_of_mem]
  · simp [add, hfilled, h, hmem, eraseDups_concat_of_not_mem]

theorem add_of_not_isAddress (hfilled : isFilled entry) (h : ¬ isAddress (normalize entry)) :
    add resolved entry = .error ⟨entry⟩ := by
  have hsome : (normalize entry).isEmpty = false := by
    rw [← Bool.not_eq_true, String.isEmpty_iff, normalize_eq_empty_iff]
    simpa [isFilled] using hfilled
  simp [add, hsome, h]

/-- Blank entries are passed over. -/
theorem foldlM_add_filter (resolved entries : List String) :
    entries.foldlM add resolved = (entries.filter isFilled).foldlM add resolved := by
  have hadd : (fun resolved entry => if isFilled entry then add resolved entry else pure resolved) =
      add := by
    funext resolved entry
    cases hfilled : isFilled entry with
    | false =>
      rw [if_neg Bool.false_ne_true, add_of_blank hfilled]
      rfl
    | true => rw [if_pos rfl]
  rw [List.foldlM_filter, hadd]

theorem resolve_eq (recipients : Option Json) :
    resolve recipients = (textsOf recipients).foldlM add [] := by
  unfold resolve
  split
  · exact foldlM_add_filter [] _
  · next hlist =>
    rw [textsOf]
    · rfl
    · exact hlist

/-- If all entries are addresses, the result is known from what has been seen and what is to come. -/
theorem foldlM_add_of_forall (h : ∀ entry ∈ entries, isAddress (normalize entry)) (seen : List String) :
    entries.foldlM add seen.eraseDups = .ok (seen ++ entries.map normalize).eraseDups := by
  induction entries generalizing seen with
  | nil => simp [pure, Except.pure]
  | cons entry rest ih =>
    obtain ⟨hentry, hrest⟩ := List.forall_mem_cons.mp h
    have hmore := ih hrest (seen ++ [normalize entry])
    rw [List.append_assoc, List.singleton_append] at hmore
    rw [List.foldlM_cons]
    exact bind_eq_ok.mpr ⟨_, add_of_isAddress hentry seen, hmore⟩

/-! ## The whole list -/

/-- An entry that is not blank and no address, where all such entries before it are addresses. -/
def IsFirstInvalid (recipients : Option Json) (entry : String) : Prop :=
  ∃ front back, textsOf recipients = front ++ entry :: back ∧
    (∀ earlier ∈ front, isAddress (normalize earlier)) ∧ ¬ isAddress (normalize entry)

theorem resolve_of_forall (h : ∀ entry ∈ textsOf recipients, isAddress (normalize entry)) :
    resolve recipients = .ok ((textsOf recipients).map normalize).eraseDups := by
  rw [resolve_eq]
  exact foldlM_add_of_forall h []

theorem isFilled_of_mem_textsOf (h : entry ∈ textsOf recipients) : isFilled entry := by
  unfold textsOf at h
  split at h
  · exact (List.mem_filter.mp h).2
  · cases h

theorem resolve_of_isFirstInvalid (h : IsFirstInvalid recipients entry) :
    resolve recipients = .error ⟨entry⟩ := by
  obtain ⟨front, back, htexts, hfront, hentry⟩ := h
  have hmem : entry ∈ textsOf recipients := by
    rw [htexts]
    exact List.mem_append_right _ List.mem_cons_self
  have hfilled := isFilled_of_mem_textsOf hmem
  have hseen : front.foldlM add [] = .ok (front.map normalize).eraseDups := foldlM_add_of_forall hfront []
  have hstops : (entry :: back).foldlM add (front.map normalize).eraseDups = .error ⟨entry⟩ := by
    rw [List.foldlM_cons]
    exact bind_eq_error.mpr (.inl (add_of_not_isAddress hfilled hentry))
  rw [resolve_eq, htexts, List.foldlM_append]
  exact bind_eq_error.mpr (.inr ⟨_, hseen, hstops⟩)

/-- Where not all entries are addresses, there is a first one that is none. -/
theorem exists_isFirstInvalid (h : ∃ entry ∈ textsOf recipients, ¬ isAddress (normalize entry)) :
    ∃ entry, IsFirstInvalid recipients entry := by
  cases hfind : (textsOf recipients).find? (fun entry => !isAddress (normalize entry)) with
  | none =>
    obtain ⟨entry, hentry, hinvalid⟩ := h
    have hvalid : isAddress (normalize entry) := by simpa using List.find?_eq_none.mp hfind entry hentry
    exact absurd hvalid hinvalid
  | some entry =>
    obtain ⟨hinvalid, front, back, htexts, hfront⟩ := List.find?_eq_some_iff_append.mp hfind
    exact ⟨entry, front, back, htexts, by simpa using hfront, by simpa using hinvalid⟩

/-- Recipients can be resolved if all entries are addresses, and then to their normal forms. -/
theorem resolve_eq_ok_iff :
    resolve recipients = .ok addresses ↔
      (∀ entry ∈ textsOf recipients, isAddress (normalize entry)) ∧
        addresses = ((textsOf recipients).map normalize).eraseDups := by
  by_cases hall : ∀ entry ∈ textsOf recipients, isAddress (normalize entry)
  · rw [resolve_of_forall hall, Except.ok.injEq]
    exact ⟨fun h => ⟨hall, h.symm⟩, fun h => h.2.symm⟩
  · obtain ⟨entry, hentry⟩ := exists_isFirstInvalid (by simpa using hall)
    rw [resolve_of_isFirstInvalid hentry]
    exact ⟨nofun, fun h => absurd h.1 hall⟩

/-- Otherwise the first entry that is no address is named. -/
theorem resolve_eq_error_iff {error : InvalidRecipient} :
    resolve recipients = .error error ↔ IsFirstInvalid recipients error.entry := by
  refine ⟨fun h => ?_, resolve_of_isFirstInvalid⟩
  by_cases hall : ∀ entry ∈ textsOf recipients, isAddress (normalize entry)
  · rw [resolve_of_forall hall] at h
    cases h
  · obtain ⟨entry, hentry⟩ := exists_isFirstInvalid (by simpa using hall)
    rw [resolve_of_isFirstInvalid hentry, Except.error.injEq] at h
    exact h ▸ hentry

/-! ## Resolved lists -/

theorem nodup_of_resolve (h : resolve recipients = .ok addresses) : addresses.Nodup := by
  obtain ⟨-, rfl⟩ := resolve_eq_ok_iff.mp h
  exact nodup_eraseDups _

theorem isNormal_of_mem_resolved (h : resolve recipients = .ok addresses) {address : String}
    (haddress : address ∈ addresses) : IsNormal address := by
  obtain ⟨hall, rfl⟩ := resolve_eq_ok_iff.mp h
  rw [List.mem_eraseDups] at haddress
  obtain ⟨entry, hentry, rfl⟩ := List.mem_map.mp haddress
  exact isNormal_normalize (hall entry hentry)

/-- Of a list of addresses in normal form, all are entries. -/
theorem textsOf_ofStrings (h : ∀ address ∈ addresses, IsNormal address) :
    textsOf (some (.ofStrings addresses)) = addresses := by
  have htexts : (addresses.map Json.str).filterMap Json.str? = addresses := by
    rw [List.filterMap_map]
    exact List.filterMap_some
  rw [Json.ofStrings, textsOf, htexts, List.filter_eq_self]
  intro address haddress
  have hnormal := h address haddress
  rw [isFilled, hnormal.isTrimmed.trimmed_eq, decide_eq_true_eq]
  exact ne_empty_of_isAddress hnormal.isAddress

/-- **Resolving a resolved list changes nothing.** -/
theorem resolve_resolved (h : resolve recipients = .ok addresses) :
    resolve (some (.ofStrings addresses)) = .ok addresses := by
  have hnormal : ∀ address ∈ addresses, IsNormal address := fun address => isNormal_of_mem_resolved h
  have hsame : ∀ address ∈ addresses, normalize address = address :=
    fun address haddress => (hnormal address haddress).normalize_eq
  have hmap : addresses.map normalize = addresses := (List.map_congr_left hsame).trans (List.map_id' _)
  rw [resolve_eq_ok_iff, textsOf_ofStrings hnormal, hmap, eraseDups_eq_self (nodup_of_resolve h)]
  refine ⟨fun address haddress => ?_, rfl⟩
  rw [hsame address haddress]
  exact (hnormal address haddress).isAddress

end Recipient

end TelemetryAutomation
