import TelemetryAutomation.Catalog.Parameter
import TelemetryAutomation.Proofs.Json.Numbers
import TelemetryAutomation.Proofs.Success

/-!
# Bounds of parameters

A value that passes the check of a numeric parameter denotes a number, and its double respects the bounds. The
digits of an integer may go beyond the doubles: then no number is read off the text, and no bound applies.
-/

namespace TelemetryAutomation

open Decimal (Rounded Writes Unsigned underflow overflow)

namespace DataType

theorem isIntegerText_unsigned {cs : List Char} (hminus : ∀ digits, cs = '-' :: digits → False) :
    isIntegerText cs = Text.isNatural cs := by
  rw [isIntegerText]
  exact hminus

/-- The text of an integer writes a number, of any length. -/
theorem writes_of_isIntegerText {cs : List Char} (h : isIntegerText cs) : ∃ q, Writes cs q := by
  have hunsigned {digits : List Char} (hdigits : Text.isNatural digits) : ∃ a, Unsigned digits a := by
    have hwhole := Unsigned.whole hdigits .none
    rw [List.append_nil] at hwhole
    exact ⟨_, hwhole⟩
  fun_cases isIntegerText cs with
  | case1 digits =>
    obtain ⟨a, ha⟩ := hunsigned h
    exact ⟨-a, .minus ha⟩
  | case2 _ hminus =>
    rw [isIntegerText_unsigned hminus] at h
    obtain ⟨a, ha⟩ := hunsigned h
    exact ⟨a, .plain ha⟩

/-- The text of an integer has no blanks. -/
theorem trim_of_isIntegerText {cs : List Char} (h : isIntegerText cs) : Text.trim cs = cs := by
  have hdigits {digits : List Char} (hdigits : Text.isNatural digits) : ∀ c ∈ digits, Text.isBlank c = false :=
    fun c hc => Text.isBlank_of_isDigit (List.all_eq_true.mp (Text.isNatural_iff.mp hdigits).2 c hc)
  apply Text.trim_eq_self
  fun_cases isIntegerText cs with
  | case1 digits => exact List.forall_mem_cons.mpr ⟨rfl, hdigits h⟩
  | case2 _ hminus =>
    rw [isIntegerText_unsigned hminus] at h
    exact hdigits h

/-- What a numeric parameter accepts denotes a number. -/
theorem denotes_of_accepts {dataType : DataType} {value : Json} (hnumeric : dataType = integer ∨ dataType = decimal)
    (h : dataType.accepts value) : ∃ q, value.Denotes q := by
  rcases hnumeric with rfl | rfl
  · cases value with
    | num n => exact ⟨n.value, .num n⟩
    | str s =>
      obtain ⟨q, hwrites⟩ := writes_of_isIntegerText h
      rw [← trim_of_isIntegerText h] at hwrites
      exact ⟨q, .str hwrites⟩
    | _ => cases h
  · obtain ⟨x, hx⟩ := Option.isSome_iff_exists.mp h
    obtain ⟨q, hdenotes, -⟩ := Json.denotes_of_number? hx
    exact ⟨q, hdenotes⟩

end DataType

/-- A double respects the finite bounds among some rules. -/
def ValueRules.Respected (rules : ValueRules) (x : Float) : Prop :=
  (∀ min, rules.min = some min → min.isFinite → min ≤ x) ∧
    ∀ max, rules.max = some max → max.isFinite → x ≤ max

namespace Parameter

variable {parameter : Parameter} {value : Json}

/-- A number that is read off a value is within the bounds. -/
theorem respected_of_checkBounds {rules : ValueRules} {x : Float} (hx : value.number? = some x)
    (h : checkBounds rules value = .ok ()) : rules.Respected x := by
  obtain ⟨q, -, hrounded, -⟩ := Json.denotes_of_number? hx
  have hnan := hrounded.isNaN_eq_false
  unfold checkBounds at h
  rw [hx] at h
  dsimp only at h
  split at h
  · cases h
  · cases h
  · next hmin hmax =>
    constructor
    · intro min hrule hfinite
      have hnot := Option.filter_eq_none_iff.mp hmin min hrule
      exact (Decimal.not_lt_iff hnan (Decimal.isNaN_of_isFinite hfinite)).mp (by simpa using hnot)
    · intro max hrule hfinite
      have hnot := Option.filter_eq_none_iff.mp hmax max hrule
      exact (Decimal.not_lt_iff (Decimal.isNaN_of_isFinite hfinite) hnan).mp (by simpa using hnot)

/-- No bound applies to a number that is too large for a double. -/
theorem checkBounds_of_overflow {q : ℚ} (hq : value.Denotes q) (h : overflow ≤ |q|) (rules : ValueRules) :
    checkBounds rules value = .ok () := by
  obtain ⟨x, hrounded, hread⟩ := Json.number?_of_denotes hq
  rw [if_neg (mt hrounded.isFinite_iff.mp (not_lt.mpr h))] at hread
  unfold checkBounds
  rw [hread]

/-- A value that is there passes if it passes each of three checks. -/
theorem checkPresent_eq_ok_iff :
    parameter.checkPresent value = .ok () ↔
      parameter.dataType.accepts value ∧ checkBounds parameter.rules value = .ok () ∧
        checkAllowed parameter.rules value = .ok () := by
  unfold checkPresent
  refine Success.require_eq_ok.trans ?_
  rw [Success.bind_eq_ok]
  exact and_congr_right fun _ => ⟨fun ⟨_, hbounds, hallowed⟩ => ⟨hbounds, hallowed⟩,
    fun ⟨hbounds, hallowed⟩ => ⟨(), hbounds, hallowed⟩⟩

theorem check_of_present (h : isMissing (some value) = false) :
    parameter.check (some value) = parameter.checkPresent value := by
  unfold check
  dsimp only
  rw [h, if_neg Bool.false_ne_true]

/-- A numeric value that is accepted holds a number, unless it is the text of an integer. -/
theorem isSome_number?_or (hnumeric : parameter.dataType = .integer ∨ parameter.dataType = .decimal)
    (h : parameter.dataType.accepts value) :
    value.number?.isSome ∨ parameter.dataType = .integer ∧ ∃ s, value = .str s := by
  rcases hnumeric with hinteger | hdecimal
  · rw [hinteger] at h
    cases value with
    | num n => exact .inl rfl
    | str s => exact .inr ⟨hinteger, s, rfl⟩
    | _ => cases h
  · rw [hdecimal] at h
    exact .inl h

/-- **Bounds hold,** except for the digits of an integer beyond the doubles. -/
theorem respected_of_check (hnumeric : parameter.dataType = .integer ∨ parameter.dataType = .decimal)
    (hpresent : isMissing (some value) = false) (h : parameter.check (some value) = .ok ()) :
    (∃ q, value.Denotes q) ∧
      ∀ q x, value.Denotes q → Rounded q x →
        parameter.rules.Respected x ∨
          (parameter.dataType = .integer ∧ (∃ s, value = .str s) ∧ overflow ≤ |q|) := by
  rw [check_of_present hpresent] at h
  obtain ⟨haccepts, hbounds, -⟩ := checkPresent_eq_ok_iff.mp h
  refine ⟨DataType.denotes_of_accepts hnumeric haccepts, fun q x hq hx => ?_⟩
  obtain ⟨y, hy, hread⟩ := Json.number?_of_denotes hq
  by_cases hfinite : y.isFinite
  · rw [if_pos hfinite] at hread
    obtain ⟨hmin, hmax⟩ := respected_of_checkBounds hread hbounds
    exact .inl ⟨fun min hrule hbound => (hx.le_iff_le hy min).mpr (hmin min hrule hbound),
      fun max hrule hbound => (hx.ge_iff_ge hy max).mpr (hmax max hrule hbound)⟩
  · rw [if_neg hfinite] at hread
    rcases isSome_number?_or hnumeric haccepts with hsome | ⟨hinteger, htext⟩
    · rw [hread] at hsome
      cases hsome
    · exact .inr ⟨hinteger, htext, not_lt.mp (mt hy.isFinite_iff.mpr hfinite)⟩

/-- The number of the phases of a meter, from one to three. -/
def phases : Parameter where
  id := ⟨9⟩
  topic := ⟨5⟩
  key := "phases"
  path := "phases"
  dataType := .integer
  isRequired := true
  defaultValue := none
  rules := ⟨some 1, some 3, none⟩
  isActive := true

theorem respected_of_check_phases :
    (phases.dataType = .integer ∨ phases.dataType = .decimal) ∧ isMissing (some (.str "3")) = false ∧
      phases.check (some (.str "3")) = .ok () ∧ (∃ q, (Json.str "3").Denotes q) ∧
        ∀ q x, (Json.str "3").Denotes q → Rounded q x →
          phases.rules.Respected x ∨
            (phases.dataType = .integer ∧ (∃ s, Json.str "3" = .str s) ∧ overflow ≤ |q|) := by
  have hpresent : isMissing (some (.str "3")) = false := by decide
  have hcheck : phases.check (some (.str "3")) = .ok () := by decide +kernel
  exact ⟨.inl rfl, hpresent, hcheck, respected_of_check (.inl rfl) hpresent hcheck⟩

/-- A power of ten in digits. -/
def tenPowText (n : ℕ) : String := String.ofList ('1' :: List.replicate n '0')

theorem isNatural_tenPowText (n : ℕ) : Text.isNatural (tenPowText n).toList := by
  rw [tenPowText, String.toList_ofList, Text.isNatural_iff]
  refine ⟨List.cons_ne_nil _ _, List.all_eq_true.mpr (List.forall_mem_cons.mpr ⟨rfl, ?_⟩)⟩
  intro c hc
  rw [List.eq_of_mem_replicate hc]
  rfl

theorem accepts_tenPowText (n : ℕ) : DataType.integer.accepts (.str (tenPowText n)) := by
  show DataType.isIntegerText (tenPowText n).toList
  rw [DataType.isIntegerText_unsigned]
  · exact isNatural_tenPowText n
  · rintro digits heq
    rw [tenPowText, String.toList_ofList] at heq
    cases heq

theorem denotes_tenPowText (n : ℕ) : (Json.str (tenPowText n)).Denotes (10 ^ n) := by
  have hvalue : Decimal.number (tenPowText n).toList = 10 ^ n := by
    rw [tenPowText, String.toList_ofList, Decimal.number, Nat.ofDigitChars_cons,
      Nat.ofDigitChars_replicate_zero]
    exact Nat.mul_one _
  have hwrites : Writes ((tenPowText n).toList ++ []) (Decimal.number (tenPowText n).toList * 10 ^ (0 : ℤ)) :=
    .plain (.whole (isNatural_tenPowText n) .none)
  rw [hvalue, List.append_nil, zpow_zero, mul_one, Nat.cast_pow, Nat.cast_ofNat] at hwrites
  rw [Json.denotes_str, DataType.trim_of_isIntegerText (accepts_tenPowText n)]
  exact hwrites

/-- Digits that go beyond the doubles are accepted. -/
theorem check_tenPowText {n : ℕ} (h : 309 ≤ n) :
    phases.check (some (.str (tenPowText n))) = .ok () := by
  have hlarge : overflow ≤ |(10 : ℚ) ^ n| := by
    rw [abs_of_nonneg (by positivity), ← zpow_natCast]
    exact Decimal.overflow_le_ten_zpow (by exact_mod_cast h)
  have hpresent : isMissing (some (.str (tenPowText n))) = false := by
    have hne : tenPowText n ≠ "" := fun heq => by
      have hnil := congrArg String.toList heq
      rw [tenPowText, String.toList_ofList] at hnil
      cases hnil
    show decide (some (tenPowText n) = some "") = false
    simpa using hne
  rw [check_of_present hpresent, checkPresent_eq_ok_iff]
  exact ⟨accepts_tenPowText n, checkBounds_of_overflow (denotes_tenPowText n) hlarge _, rfl⟩

/-- The digits pass as a number of phases, although they write far more than three. -/
theorem check_tenPowText_400 :
    phases.check (some (.str (tenPowText 400))) = .ok () ∧
      ∃ q, (Json.str (tenPowText 400)).Denotes q ∧ ∀ x, Rounded q x → ¬ x ≤ 3 := by
  refine ⟨check_tenPowText (by norm_num), 10 ^ 400, denotes_tenPowText 400, fun x hx => ?_⟩
  refine hx.not_le ?_ (by decide +kernel)
  rw [← zpow_natCast]
  exact Decimal.overflow_le_ten_zpow (by norm_num)

end Parameter

end TelemetryAutomation
