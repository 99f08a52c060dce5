import TelemetryAutomation.Proofs.Alert.Recipients
import TelemetryAutomation.Proofs.Text.Trimming

/-!
# Mail addresses in normal form

An address consists of letters, digits and marks of ASCII, with one `@` among them. If it has been trimmed and
brought into lower case, then doing so again changes nothing.
-/

namespace TelemetryAutomation.Recipient

open Text (IsAscii IsCapital IsTrimmed isBlank isPlainAlphanumeric)

variable {address entry : String} {cs : List Char} {c : Char}

/-! ## The characters of addresses -/

/-- The characters that may stand on either side of the `@`. -/
def IsAddressChar (c : Char) : Prop := isPlainAlphanumeric c ∨ c ∈ localMarks

theorem forall_of_isLocalPart (h : isLocalPart cs) : ∀ c ∈ cs, IsAddressChar c := by
  intro c hc
  simp only [isLocalPart, Bool.and_eq_true, List.all_eq_true, Bool.or_eq_true,
    List.contains_iff_mem] at h
  exact h.2 c hc

theorem forall_of_isLabel (h : isLabel cs) : ∀ c ∈ cs, IsAddressChar c := by
  intro c hc
  simp only [isLabel, Bool.and_eq_true, List.all_eq_true, Bool.or_eq_true, decide_eq_true_eq] at h
  rcases h.2 c hc with hletter | rfl
  · exact .inl hletter
  · exact .inr (by decide)

theorem forall_of_isHost (h : isHost cs) : ∀ c ∈ cs, IsAddressChar c := by
  intro c hc
  simp only [isHost, Bool.and_eq_true, List.all_eq_true] at h
  rw [← Text.joined_pieces '.' cs] at hc
  obtain rfl | ⟨label, hlabel, hc⟩ := Text.mem_joined hc
  · exact .inr (by decide)
  · exact forall_of_isLabel (h.2 label hlabel) c hc

/-- The two sides of an address. -/
theorem exists_sides (h : isAddress address) :
    ∃ localPart host, address.toList = localPart ++ '@' :: host ∧
      (∀ c ∈ localPart, IsAddressChar c) ∧ ∀ c ∈ host, IsAddressChar c := by
  rw [isAddress] at h
  split at h
  · next localPart host hcut =>
    rw [Bool.and_eq_true] at h
    exact ⟨localPart, host, Text.eq_of_cut hcut, forall_of_isLocalPart h.1, forall_of_isHost h.2⟩
  · contradiction

theorem not_isAddressChar_at : ¬ IsAddressChar '@' := by
  rw [IsAddressChar]
  decide

/-- Addresses are made of characters that can be seen. -/
theorem visible_of_isAddressChar (h : IsAddressChar c) : 0x20 < c.toNat ∧ c.toNat < 0x7F := by
  rcases h with hletter | hmark
  · simp only [isPlainAlphanumeric, Text.isDigit, Bool.or_eq_true, Bool.and_eq_true, decide_eq_true_eq,
      Char.le_def, UInt32.le_iff_toNat_le] at hletter
    have hzero : '0'.val.toNat = 48 := rfl
    have hnine : '9'.val.toNat = 57 := rfl
    have hsmall : 'a'.val.toNat = 97 ∧ 'z'.val.toNat = 122 := ⟨rfl, rfl⟩
    have hcapitals : 'A'.val.toNat = 65 ∧ 'Z'.val.toNat = 90 := ⟨rfl, rfl⟩
    rw [Char.toNat]
    omega
  · have hmarks : localMarks.all fun mark => 0x20 < mark.toNat ∧ mark.toNat < 0x7F := by decide
    exact of_decide_eq_true (List.all_eq_true.mp hmarks c hmark)

theorem visible_of_mem (h : isAddress address) (hc : c ∈ address.toList) :
    0x20 < c.toNat ∧ c.toNat < 0x7F := by
  obtain ⟨localPart, host, hsides, hlocal, hhost⟩ := exists_sides h
  rw [hsides, List.mem_append, List.mem_cons] at hc
  rcases hc with hc | rfl | hc
  · exact visible_of_isAddressChar (hlocal c hc)
  · decide
  · exact visible_of_isAddressChar (hhost c hc)

theorem count_at (h : isAddress address) : address.toList.count '@' = 1 := by
  obtain ⟨localPart, host, hsides, hlocal, hhost⟩ := exists_sides h
  have hnone (side : List Char) (hside : ∀ c ∈ side, IsAddressChar c) : side.count '@' = 0 :=
    List.count_eq_zero.mpr fun hmem => not_isAddressChar_at (hside '@' hmem)
  rw [hsides, List.count_append, List.count_cons_self, hnone localPart hlocal, hnone host hhost]

/-! ## Normal forms -/

/-- The characters of the category `Cc`. -/
def IsControl (c : Char) : Prop := c.toNat < 0x20 ∨ 0x7F ≤ c.toNat ∧ c.toNat < 0xA0

/-- An address in normal form: trimmed, in lower case, with exactly one `@`, and of ASCII characters that
are neither blanks nor control characters. -/
structure IsNormal (address : String) : Prop where
  isAddress : isAddress address
  isTrimmed : IsTrimmed address.toList
  lowercase_eq : Text.lowercase address = address
  noCapital : ∀ c ∈ address.toList, ¬ IsCapital c
  count_at : address.toList.count '@' = 1
  isAscii : IsAscii address.toList
  noBlank : ∀ c ∈ address.toList, isBlank c = false
  noControl : ∀ c ∈ address.toList, ¬ IsControl c

/-- The normal form of an entry is an address in normal form if it is an address. -/
theorem isNormal_normalize (h : isAddress (normalize entry)) : IsNormal (normalize entry) := by
  have hvisible : ∀ c ∈ (normalize entry).toList, 0x20 < c.toNat ∧ c.toNat < 0x7F :=
    fun c => visible_of_mem h
  have hascii : IsAscii (normalize entry).toList := isAscii_of_isAddress h
  have hblank : ∀ c ∈ (normalize entry).toList, isBlank c = false :=
    fun c hc => Text.isBlank_of_visible (hvisible c hc)
  have hcapital : ∀ c ∈ (normalize entry).toList, ¬ IsCapital c := by
    intro c hc
    rw [normalize, Text.lowercase, String.toList_ofList] at hc
    exact Text.not_isCapital_of_mem_lower hc
  refine ⟨h, Text.isTrimmed_of_forall hblank, ?_, hcapital, count_at h, hascii, hblank, ?_⟩
  · rw [Text.lowercase, Text.lower_eq_self hascii hcapital, String.ofList_toList]
  · intro c hc hcontrol
    have hc := hvisible c hc
    rw [IsControl] at hcontrol
    omega

theorem IsNormal.normalize_eq (h : IsNormal address) : normalize address = address := by
  rw [normalize, h.isTrimmed.trimmed_eq, h.lowercase_eq]

end TelemetryAutomation.Recipient
