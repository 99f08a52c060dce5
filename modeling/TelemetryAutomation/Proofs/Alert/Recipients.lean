import TelemetryAutomation.Alert.Settings
import TelemetryAutomation.Proofs.Success
import TelemetryAutomation.Proofs.Text.Lowercase

/-!
# Recipients that pass the check

Recipients are checked as they are written and used in lower case. An address is ASCII, so its lower case
is an address too, and recipients that pass the check can be resolved, to one at least.
-/

namespace TelemetryAutomation.Recipient

open Text (IsAscii isPlainAlphanumeric)

/-! ## Addresses are ASCII -/

theorem lt_of_mem_localMarks : ∀ c ∈ localMarks, c.toNat < 128 := by
  have hall : localMarks.all (·.toNat < 128) := rfl
  simpa using List.all_eq_true.mp hall

theorem isAscii_of_isLocalPart {cs : List Char} (h : isLocalPart cs) : IsAscii cs := by
  intro c hc
  simp only [isLocalPart, Bool.and_eq_true, List.all_eq_true, Bool.or_eq_true] at h
  rcases h.2 c hc with hletter | hmark
  · exact Text.lt_of_isPlainAlphanumeric hletter
  · exact lt_of_mem_localMarks c (by simpa using hmark)

theorem isAscii_of_isLabel {cs : List Char} (h : isLabel cs) : IsAscii cs := by
  intro c hc
  simp only [isLabel, Bool.and_eq_true, List.all_eq_true, Bool.or_eq_true, decide_eq_true_eq] at h
  rcases h.2 c hc with hletter | rfl
  · exact Text.lt_of_isPlainAlphanumeric hletter
  · decide

theorem isAscii_of_isHost {cs : List Char} (h : isHost cs) : IsAscii cs := by
  intro c hc
  simp only [isHost, Bool.and_eq_true, List.all_eq_true] at h
  rw [← Text.joined_pieces '.' cs] at hc
  obtain rfl | ⟨label, hlabel, hc⟩ := Text.mem_joined hc
  · decide
  · exact isAscii_of_isLabel (h.2 label hlabel) c hc

theorem isAscii_of_isAddress {address : String} (h : isAddress address) :
    IsAscii address.toList := by
  rw [isAddress] at h
  split at h
  · next localPart host hcut =>
    rw [Bool.and_eq_true] at h
    rw [Text.eq_of_cut hcut, Text.isAscii_append, Text.isAscii_cons]
    exact ⟨isAscii_of_isLocalPart h.1, by decide, isAscii_of_isHost h.2⟩
  · contradiction

/-! ## Lower case of addresses -/

theorem head?_map_toLower {cs : List Char} {mark : Char} (hcs : IsAscii cs)
    (hmark : isPlainAlphanumeric mark = false) :
    (cs.map Char.toLower).head? = some mark ↔ cs.head? = some mark := by
  cases cs with
  | nil => simp
  | cons c rest => simpa using Text.toLower_eq_iff hmark (hcs c List.mem_cons_self)

theorem getLast?_map_toLower {cs : List Char} {mark : Char} (hcs : IsAscii cs)
    (hmark : isPlainAlphanumeric mark = false) :
    (cs.map Char.toLower).getLast? = some mark ↔ cs.getLast? = some mark := by
  rw [← List.head?_reverse, ← List.head?_reverse, ← List.map_reverse]
  refine head?_map_toLower (fun c hc => hcs c ?_) hmark
  exact List.mem_reverse.mp hc

theorem hasDoublePoint_cons (c : Char) (rest : List Char) :
    hasDoublePoint (c :: rest) =
      (decide (c = '.' ∧ rest.head? = some '.') || hasDoublePoint rest) := by
  by_cases h : c = '.' ∧ rest.head? = some '.'
  · obtain ⟨rfl, hhead⟩ := h
    obtain ⟨rest, rfl⟩ := List.head?_eq_some_iff.mp hhead
    rfl
  · rw [hasDoublePoint, decide_eq_false h, Bool.false_or]
    rintro more rfl rfl
    exact h ⟨rfl, rfl⟩

theorem hasDoublePoint_map_toLower {cs : List Char} (hcs : IsAscii cs) :
    hasDoublePoint (cs.map Char.toLower) = hasDoublePoint cs := by
  induction cs with
  | nil => rfl
  | cons c rest ih =>
    obtain ⟨hc, hrest⟩ := Text.isAscii_cons.mp hcs
    rw [List.map_cons, hasDoublePoint_cons, hasDoublePoint_cons, ih hrest]
    congr 2
    rw [Text.toLower_eq_iff rfl hc, head?_map_toLower hrest rfl]

theorem all_map_toLower {cs : List Char} {test : Char → Bool} (hcs : IsAscii cs)
    (htest : ∀ c, c.toNat < 128 → test c.toLower = test c) :
    (cs.map Char.toLower).all test = cs.all test := by
  rw [List.all_map, Bool.eq_iff_iff, List.all_eq_true, List.all_eq_true]
  apply forall₂_congr
  intro c hc
  rw [Function.comp_apply, htest c (hcs c hc)]

theorem isLocalPart_map_toLower {cs : List Char} (hcs : IsAscii cs) :
    isLocalPart (cs.map Char.toLower) = isLocalPart cs := by
  have hhead : (cs.map Char.toLower).head? = some '.' ↔ cs.head? = some '.' :=
    head?_map_toLower hcs rfl
  have hlast : (cs.map Char.toLower).getLast? = some '.' ↔ cs.getLast? = some '.' :=
    getLast?_map_toLower hcs rfl
  have hchars : (cs.map Char.toLower).all (fun c => isPlainAlphanumeric c || localMarks.contains c) =
      cs.all fun c => isPlainAlphanumeric c || localMarks.contains c := by
    apply all_map_toLower hcs
    intro c hc
    -- a character that changes is a letter before and after
    rcases Text.toLower_cases hc with heq | ⟨hletter, hlower⟩
    · rw [heq]
    · rw [hletter, hlower, Bool.true_or, Bool.true_or]
  simp only [isLocalPart, hchars, List.isEmpty_map, List.length_map, ne_eq, hhead, hlast,
    hasDoublePoint_map_toLower hcs]

theorem isLabel_map_toLower {cs : List Char} (hcs : IsAscii cs) :
    isLabel (cs.map Char.toLower) = isLabel cs := by
  have hhead : (cs.map Char.toLower).head? = some '-' ↔ cs.head? = some '-' :=
    head?_map_toLower hcs rfl
  have hlast : (cs.map Char.toLower).getLast? = some '-' ↔ cs.getLast? = some '-' :=
    getLast?_map_toLower hcs rfl
  have hchars : (cs.map Char.toLower).all (fun c => isPlainAlphanumeric c || c = '-') =
      cs.all fun c => isPlainAlphanumeric c || c = '-' := by
    apply all_map_toLower hcs
    intro c hc
    have hhyphen : c.toLower = '-' ↔ c = '-' := Text.toLower_eq_iff rfl hc
    simp only [Text.isPlainAlphanumeric_toLower hc, hhyphen]
  simp only [isLabel, hchars, List.isEmpty_map, List.length_map, ne_eq, hhead, hlast]

theorem isHost_map_toLower {cs : List Char} (hcs : IsAscii cs) :
    isHost (cs.map Char.toLower) = isHost cs := by
  have hpieces : Text.pieces '.' (cs.map Char.toLower) =
      (Text.pieces '.' cs).map (List.map Char.toLower) :=
    Text.pieces_map fun c hc => Text.toLower_eq_iff rfl (hcs c hc)
  have hlabels : ((Text.pieces '.' cs).map (List.map Char.toLower)).all isLabel =
      (Text.pieces '.' cs).all isLabel := by
    rw [List.all_map, Bool.eq_iff_iff, List.all_eq_true, List.all_eq_true]
    apply forall₂_congr
    intro label hlabel
    rw [Function.comp_apply, isLabel_map_toLower (hcs.of_mem_pieces hlabel)]
  simp only [isHost, hpieces, hlabels, List.length_map]

/-- The lower case of an address is an address. -/
theorem isAddress_lowercase {address : String} (h : isAddress address) :
    isAddress (Text.lowercase address) := by
  have hascii := isAscii_of_isAddress h
  have hcut : Text.cut '@' (address.toList.map Char.toLower) =
      (Text.cut '@' address.toList).map (Prod.map (List.map Char.toLower) (List.map Char.toLower)) :=
    Text.cut_map fun c hc => Text.toLower_eq_iff rfl (hascii c hc)
  rw [isAddress, Text.lowercase, String.toList_ofList, Text.lower_eq_map hascii, hcut]
  rw [isAddress] at h
  cases hparts : Text.cut '@' address.toList with
  | none =>
    rw [hparts] at h
    contradiction
  | some parts =>
    obtain ⟨localPart, host⟩ := parts
    rw [hparts, Bool.and_eq_true] at h
    rw [Text.eq_of_cut hparts, Text.isAscii_append, Text.isAscii_cons] at hascii
    rw [Option.map_some, Prod.map_apply, Bool.and_eq_true]
    rw [isLocalPart_map_toLower hascii.1, isHost_map_toLower hascii.2.2]
    exact h

/-! ## Resolving -/

theorem normalize_of_blank {entry : String} (h : Text.trimmed entry = "") : normalize entry = "" := by
  rw [normalize, h]
  rfl

theorem ne_empty_of_isAddress {address : String} (h : isAddress address) : address ≠ "" := by
  rintro rfl
  exact absurd h (by decide)

/-- A blank entry is left out, and an address is taken in lower case. -/
theorem add_eq_ok {entry : String} (h : Text.trimmed entry ≠ "" → isAddress (Text.trimmed entry))
    (resolved : List String) :
    ∃ result, add resolved entry = .ok result ∧ resolved ⊆ result ∧
      (Text.trimmed entry ≠ "" → normalize entry ∈ result) := by
  by_cases hblank : Text.trimmed entry = ""
  · refine ⟨resolved, ?_, List.Subset.refl _, fun hne => absurd hblank hne⟩
    rw [add, normalize_of_blank hblank]
    rfl
  · have haddress : isAddress (normalize entry) := isAddress_lowercase (h hblank)
    have hempty : (normalize entry).isEmpty = false := by
      rw [← Bool.not_eq_true, String.isEmpty_iff]
      exact ne_empty_of_isAddress haddress
    by_cases hmem : normalize entry ∈ resolved
    · refine ⟨resolved, ?_, List.Subset.refl _, fun _ => hmem⟩
      simp [add, hempty, haddress, hmem]
    · refine ⟨resolved ++ [normalize entry], ?_, List.subset_append_left .., fun _ => by simp⟩
      simp [add, hempty, haddress, hmem]

theorem foldlM_add_eq_ok {entries : List String}
    (h : ∀ entry ∈ entries, Text.trimmed entry ≠ "" → isAddress (Text.trimmed entry))
    (resolved : List String) :
    ∃ result, entries.foldlM add resolved = .ok result ∧ resolved ⊆ result ∧
      ∀ entry ∈ entries, Text.trimmed entry ≠ "" → normalize entry ∈ result := by
  induction entries generalizing resolved with
  | nil => exact ⟨resolved, rfl, List.Subset.refl _, by simp⟩
  | cons entry rest ih =>
    obtain ⟨hentry, hrest⟩ := List.forall_mem_cons.mp h
    obtain ⟨next, hnext, hkept, hadded⟩ := add_eq_ok hentry resolved
    obtain ⟨result, hresult, hmore, hall⟩ := ih hrest next
    refine ⟨result, ?_, List.Subset.trans hkept hmore, ?_⟩
    · rw [List.foldlM_cons, hnext]
      exact hresult
    · exact List.forall_mem_cons.mpr ⟨fun hne => hmore (hadded hne), hall⟩

/-- Recipients that pass the check can be resolved, and there is one at least. -/
theorem resolve_of_checkRecipients {recipients : Option Json}
    (h : Alert.checkRecipients recipients = .ok ()) :
    ∃ first rest, resolve recipients = .ok (first :: rest) := by
  unfold Alert.checkRecipients at h
  split at h
  · next entries =>
    dsimp only at h
    split_ifs at h with hall hsome
    rw [Bool.not_eq_true', Bool.not_eq_false, List.all_eq_true] at hall
    have haddress : ∀ entry ∈ entries.filterMap Json.str?,
        Text.trimmed entry ≠ "" → isAddress (Text.trimmed entry) := by
      intro entry hentry hne
      refine hall _ (List.mem_filter.mpr ⟨List.mem_map_of_mem hentry, ?_⟩)
      simpa using hne
    obtain ⟨result, hresult, -, hadded⟩ := foldlM_add_eq_ok haddress []
    obtain ⟨text, htext⟩ := List.exists_mem_of_ne_nil _ (mt List.isEmpty_iff.mpr hsome)
    obtain ⟨htext, hne⟩ := List.mem_filter.mp htext
    obtain ⟨entry, hentry, rfl⟩ := List.mem_map.mp htext
    have hmem := hadded entry hentry (by simpa using hne)
    obtain ⟨first, rest, rfl⟩ := List.exists_cons_of_ne_nil (List.ne_nil_of_mem hmem)
    exact ⟨first, rest, hresult⟩
  · contradiction

end TelemetryAutomation.Recipient
