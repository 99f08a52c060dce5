import Mathlib.Data.List.Basic
import TelemetryAutomation.Identity.Key
import TelemetryAutomation.Proofs.Text.Integer
import TelemetryAutomation.Proofs.Text.Pieces

/-!
# Keys as text

The text of a key is read as the key, and so are the digits of its integer alone. Labels of different kinds
differ and have no underscore, so that no label can be taken for the beginning of another: a key is never read
as one of another kind, not even where one label begins with the other, as `wfv` does with `wf`.

* `Key.Spells`: the texts of a key
* `Key.parse_spells`: **the texts of a key are read as the key, and no others are**
-/

namespace TelemetryAutomation

/-! ## Labels -/

namespace Entity

variable {entity other : Entity}

theorem find?_label (entity : Entity) : all.find? (·.label = entity.label) = some entity := by
  cases entity <;> rfl

/-- A label belongs to one kind. -/
theorem label_inj : entity.label = other.label ↔ entity = other := by
  refine ⟨fun h => ?_, congrArg _⟩
  have hfound := find?_label entity
  rw [h, find?_label, Option.some.injEq] at hfound
  exact hfound.symm

/-- A label begins neither with a digit nor with a sign. -/
theorem exists_label_eq_cons (entity : Entity) :
    ∃ c rest, entity.label.toList = c :: rest ∧ ¬ Text.isDigit c ∧ c ≠ '+' ∧ c ≠ '-' := by
  cases entity <;> exact ⟨_, _, rfl, by decide⟩

theorem underscore_not_mem_label (entity : Entity) : '_' ∉ entity.label.toList := by
  cases entity <;> decide

end Entity

namespace Key

variable {entity other : Entity} {key : Key entity} {s : String}

/-- The texts of a key: its integer as a numeral, perhaps after the label of its kind. -/
inductive Spells (key : Key entity) : String → Prop
  | plain {s : String} {n : Nat} (h : Text.Numeral s.toList n) (hn : n = key.value.toInt) : Spells key s
  | labelled {s : String} {n : Nat} (h : Text.Numeral s.toList n) (hn : n = key.value.toInt) :
      Spells key (entity.label ++ "_" ++ s)

/-- What a text says without the label of a kind, if it begins with that. -/
def unlabelled (entity : Entity) (s : String) : List Char :=
  ((entity.label ++ "_").toList.isPrefixOf? s.toList).getD s.toList

theorem new?_of_pos {value : Int64} (h : 0 < value) : (new? value : Option (Key entity)) = some ⟨value⟩ :=
  if_pos h

theorem parse_eq (entity : Entity) (s : String) :
    parse entity s = match Text.readInt64 (unlabelled entity s) with
      | .error fault => .error ⟨entity, .integer fault⟩
      | .ok value =>
        match new? value with
        | some key => .ok key
        | none => .error ⟨entity, .notPositive value⟩ :=
  rfl

/-- A positive integer is read as a key, and nothing else is. -/
theorem parse_eq_ok_iff :
    parse entity s = .ok key ↔ 0 < key.value ∧ Text.readInt64 (unlabelled entity s) = .ok key.value := by
  rw [parse_eq]
  cases hread : Text.readInt64 (unlabelled entity s) with
  | error fault => simp
  | ok value =>
    by_cases hpos : 0 < value
    · simp only [new?_of_pos hpos, Except.ok.injEq, Key.ext_iff]
      constructor
      · rintro rfl
        exact ⟨hpos, rfl⟩
      · exact fun h => h.2
    · simp only [new?, if_neg hpos]
      refine iff_of_false nofun ?_
      rintro ⟨hkey, hvalue⟩
      cases hvalue
      exact hpos hkey

/-! ## Texts with and without labels -/

theorem unlabelled_append (entity : Entity) (rest : String) :
    unlabelled entity (entity.label ++ "_" ++ rest) = rest.toList := by
  have hstart : (entity.label ++ "_").toList.isPrefixOf? (entity.label ++ "_" ++ rest).toList =
      some rest.toList :=
    List.isPrefixOf?_eq_some_iff_append_eq.mpr String.toList_append.symm
  rw [unlabelled, hstart, Option.getD_some]

/-- A text without the label is left as it is. -/
theorem unlabelled_of_forall_ne (h : ∀ rest, s ≠ entity.label ++ "_" ++ rest) :
    unlabelled entity s = s.toList := by
  cases hstart : (entity.label ++ "_").toList.isPrefixOf? s.toList with
  | none => rw [unlabelled, hstart, Option.getD_none]
  | some rest =>
    have heq := List.isPrefixOf?_eq_some_iff_append_eq.mp hstart
    refine absurd ?_ (h (.ofList rest))
    rw [← String.toList_inj, ← heq]
    simp

/-- The label of another kind is no label. -/
theorem unlabelled_of_ne (h : other ≠ entity) (rest : String) :
    unlabelled other (entity.label ++ "_" ++ rest) = (entity.label ++ "_" ++ rest).toList := by
  have hcut (entity : Entity) (rest : String) :
      Text.cut '_' (entity.label ++ "_" ++ rest).toList = some (entity.label.toList, rest.toList) := by
    rw [Text.cut_eq_some_iff]
    exact ⟨by simp, entity.underscore_not_mem_label⟩
  apply unlabelled_of_forall_ne
  intro rest' heq
  have hlabels := hcut entity rest
  rw [heq, hcut, Option.some.injEq, Prod.mk.injEq, String.toList_inj] at hlabels
  exact h (Entity.label_inj.mp hlabels.1)

theorem exists_labelled_eq_cons (entity : Entity) (s : String) :
    ∃ c rest, (entity.label ++ "_" ++ s).toList = c :: rest ∧ ¬ Text.isDigit c ∧ c ≠ '+' ∧ c ≠ '-' := by
  obtain ⟨c, rest, hlabel, hc⟩ := entity.exists_label_eq_cons
  exact ⟨c, rest ++ '_' :: s.toList, by simp [hlabel], hc⟩

/-- A numeral has no label. -/
theorem unlabelled_of_numeral {n : Nat} (h : Text.Numeral s.toList n) : unlabelled entity s = s.toList := by
  apply unlabelled_of_forall_ne
  rintro rest rfl
  obtain ⟨c, more, hlabelled, hdigit, hplus, -⟩ := exists_labelled_eq_cons entity rest
  rw [hlabelled] at h
  exact h.head.elim hplus hdigit

/-- A text with the label of another kind is no key. -/
theorem parse_of_ne (h : other ≠ entity) (rest : String) :
    parse other (entity.label ++ "_" ++ rest) = .error ⟨other, .integer .invalidDigit⟩ := by
  obtain ⟨c, more, hlabelled, hdigit, hplus, hminus⟩ := exists_labelled_eq_cons entity rest
  rw [parse_eq, unlabelled_of_ne h, hlabelled, Text.readInt64_of_not_isDigit hplus hminus hdigit]

/-! ## The texts of a key -/

theorem text_eq (key : Key entity) : key.text = entity.label ++ "_" ++ Text.decimal key.value.toInt := rfl

theorem toInt_pos (h : 0 < key.value) : 0 < key.value.toInt := Int64.lt_iff_toInt_lt.mp h

/-- The digits of a positive key are a numeral of its integer. -/
theorem exists_numeral (h : 0 < key.value) :
    ∃ n : Nat, n = key.value.toInt ∧ Text.Numeral (Text.decimal key.value.toInt).toList n := by
  obtain ⟨n, hn⟩ := Int.eq_ofNat_of_zero_le (Int.le_of_lt (toInt_pos h))
  refine ⟨n, hn.symm, ?_⟩
  rw [hn, Text.toList_decimal]
  exact Text.numeral_decimalDigits n

/-- A positive key is read from its texts and from nothing else. -/
theorem parse_eq_ok_iff_spells : parse entity s = .ok key ↔ 0 < key.value ∧ key.Spells s := by
  rw [parse_eq_ok_iff]
  refine and_congr_right fun hpos => ?_
  rw [Text.readInt64_eq_ok_iff_numeral hpos]
  have hvalue : (key.value.toInt.toNat : Int) = key.value.toInt :=
    Int.toNat_of_nonneg (Int.le_of_lt (toInt_pos hpos))
  constructor
  · intro h
    by_cases hlabel : ∃ rest, s = entity.label ++ "_" ++ rest
    · obtain ⟨rest, rfl⟩ := hlabel
      rw [unlabelled_append] at h
      exact .labelled h hvalue
    · rw [unlabelled_of_forall_ne (not_exists.mp hlabel)] at h
      exact .plain h hvalue
  · intro h
    cases h with
    | plain h hn =>
      rw [unlabelled_of_numeral h, ← hn]
      exact h
    | labelled h hn =>
      rw [unlabelled_append, ← hn]
      exact h

/-- **The texts of a key are read as the key, and no others are.** A positive key is read from its text and from
the digits of its integer, and its text is a key of no other kind. Whatever is read is a positive key, and what
it is read from is a numeral of its integer, without a label or after one of its kind. -/
theorem parse_spells (entity : Entity) :
    (∀ key : Key entity, 0 < key.value →
      new? key.value = some key ∧ parse entity key.text = .ok key ∧
        parse entity (Text.decimal key.value.toInt) = .ok key ∧
        ∀ other ≠ entity, parse other key.text = .error ⟨other, .integer .invalidDigit⟩) ∧
    ∀ (s : String) (key : Key entity), parse entity s = .ok key ↔ 0 < key.value ∧ key.Spells s := by
  refine ⟨fun key hkey => ⟨new?_of_pos hkey, ?_, ?_, ?_⟩, fun s key => parse_eq_ok_iff_spells⟩
  · obtain ⟨n, hn, hnumeral⟩ := exists_numeral hkey
    rw [parse_eq_ok_iff_spells, text_eq]
    exact ⟨hkey, .labelled hnumeral hn⟩
  · obtain ⟨n, hn, hnumeral⟩ := exists_numeral hkey
    rw [parse_eq_ok_iff_spells]
    exact ⟨hkey, .plain hnumeral hn⟩
  · intro other hother
    rw [text_eq]
    exact parse_of_ne hother _

theorem parse_spells_largest :
    let key : Key .workflowVersion := ⟨0x7fffffffffffffff⟩
    0 < key.value ∧ key.text = "wfv_9223372036854775807" ∧
      parse .workflowVersion "wfv_9223372036854775807" = .ok key ∧
      parse .workflowVersion "9223372036854775807" = .ok key ∧
      parse .workflow "wfv_9223372036854775807" = .error ⟨.workflow, .integer .invalidDigit⟩ := by
  intro key
  have hpos : 0 < key.value := by decide
  have htext : key.text = "wfv_9223372036854775807" := by decide
  have hdigits : Text.decimal key.value.toInt = "9223372036854775807" := by decide
  obtain ⟨-, hlabelled, hplain, hothers⟩ := (parse_spells .workflowVersion).1 key hpos
  rw [htext] at hlabelled hothers
  rw [hdigits] at hplain
  exact ⟨hpos, htext, hlabelled, hplain, hothers .workflow nofun⟩

/-- A second label, a number out of bounds and zero are refused, each for its own reason. -/
example :
    parse .device "dev_dev_7" = .error ⟨.device, .integer .invalidDigit⟩ ∧
      parse .device "dev_9223372036854775808" = .error ⟨.device, .integer .tooLarge⟩ ∧
      parse .device "dev_-0" = .error ⟨.device, .notPositive 0⟩ ∧
      parse .device "dev_+007" = .ok ⟨7⟩ :=
  ⟨rfl, rfl, rfl, rfl⟩

end Key

end TelemetryAutomation
