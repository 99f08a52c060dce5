import TelemetryAutomation.Condition.Guided
import TelemetryAutomation.Proofs.Condition.Order
import TelemetryAutomation.Proofs.Json.Path
import TelemetryAutomation.Run.Context

/-!
# What guided conditions test

A guided condition names its left operand by a path through the data in which it is evaluated. The data also show
the fields of the payload, but none of these can stand on the path, because the fields of the context win. So
the condition tests what the trigger found or the query gave.

Main result: `GuidedCondition.evaluate_of_compile`.
-/

namespace TelemetryAutomation

open Expression (evaluate)

/-! ## The data of conditions -/

namespace Context

/-- The keys that always refer to the context. -/
def ownKeys : List String := ["trigger", "payload", "query", "queries"]

variable (context : Context)

theorem field?_evaluationData (key : String) :
    context.evaluationData.field? key = (context.fields.get? key).or (context.payload.get? key) := by
  simp only [evaluationData, Json.field?, Json.obj?, Option.bind_some, SortedMap.get?_overlay]

/-- Beside the fields of the context the data show the payload as it is. -/
theorem field?_payload {key : String} (h : key ∉ ownKeys) :
    context.evaluationData.field? key = context.payload.get? key := by
  have habsent : context.fields.get? key = none := by
    rw [fields, SortedMap.get?_eq_none_iff, SortedMap.mem_keys_ofList]
    exact h
  rw [field?_evaluationData, habsent, Option.none_or]

end Context

/-! ## Operands -/

/-- What a guided condition looks at. -/
inductive LeftOperand
  | trigger
  | query
deriving DecidableEq

namespace LeftOperand

def name : LeftOperand → String
  | trigger => "trigger.value"
  | query => "query.value"

/-- The field of the data that the name starts with. -/
def key : LeftOperand → String
  | trigger => "trigger"
  | query => "query"

/-- The field of the context that is looked at. -/
def source : LeftOperand → Context → Json
  | trigger, context => context.trigger
  | query, context => context.query

/-- What is compared: the value that the trigger found or the query gave, `null` if there is none. -/
def value (left : LeftOperand) (context : Context) : Json :=
  ((left.source context).field? "value").getD .null

theorem mem_leftOperands_iff {text : String} :
    text ∈ GuidedCondition.leftOperands ↔ ∃ left : LeftOperand, left.name = text := by
  constructor
  · intro h
    simp only [GuidedCondition.leftOperands, List.mem_cons, List.not_mem_nil, or_false] at h
    rcases h with rfl | rfl
    · exact ⟨.trigger, rfl⟩
    · exact ⟨.query, rfl⟩
  · rintro ⟨left, rfl⟩
    cases left <;> decide

variable (left : LeftOperand) (context : Context)

/-- Whatever the payload holds, the data show the field of the context. -/
theorem field?_key : context.evaluationData.field? left.key = some (left.source context) := by
  rw [Context.field?_evaluationData, Context.fields, SortedMap.get?_ofList]
  cases left <;> rfl

end LeftOperand

/-- A piece of a path that is no number leads to a field. -/
theorem Json.step?_eq_field? (value : Json) {piece : List Char} (h : position? piece = none) :
    value.step? piece = value.field? (.ofList piece) := by
  cases value with
  | arr items =>
    rw [step?, h]
    rfl
  | _ => rfl

namespace LeftOperand

variable (left : LeftOperand)

theorem lookup_name (data : Json) :
    data.lookup left.name = (data.field? left.key).bind (·.field? "value") := by
  have hname : left.name.toList ≠ [] := by
    cases left <;> decide
  have hpieces : Text.pieces '.' left.name.toList = [left.key.toList, "value".toList] := by
    cases left <;> rfl
  -- neither piece is a number, so they name fields and no items of arrays
  have hkey : Json.position? left.key.toList = none := by
    cases left <;> rfl
  have hvalue (found : Json) : found.follow ["value".toList] = found.field? "value" := by
    rw [Json.follow_cons, Json.step?_eq_field? found rfl, String.ofList_toList]
    exact Option.bind_fun_some _
  rw [Json.lookup, Json.lookupChars_of_ne_nil _ hname, hpieces, Json.follow_cons,
    Json.step?_eq_field? _ hkey, String.ofList_toList]
  exact congrArg _ (funext hvalue)

/-- The name of a left operand leads to its value. -/
theorem resolve_name (context : Context) :
    Expression.resolve (.str left.name) context.evaluationData = left.value context := by
  have hname : left.name.isEmpty ≠ true := by
    cases left <;> decide
  calc Expression.resolve (.str left.name) context.evaluationData
      = (context.evaluationData.lookup left.name).getD .null := if_neg hname
    _ = left.value context := by
      rw [lookup_name, field?_key]
      rfl

end LeftOperand

/-! ## Comparisons with thresholds -/

namespace Comparison

/-- The comparison of a value with a threshold: by the order of values or by their equality across types. -/
def judges (comparison : Comparison) (value : Json) (threshold : Float) : Bool :=
  match comparison with
  | gt => value.order (.ofFloat threshold) = .gt
  | ge => value.order (.ofFloat threshold) ≠ .lt
  | lt => value.order (.ofFloat threshold) = .lt
  | le => value.order (.ofFloat threshold) ≠ .gt
  | eq => value.looseEq (.ofFloat threshold)
  | ne => !value.looseEq (.ofFloat threshold)

/-- The comparison of numbers. -/
def Relates : Comparison → ℚ → ℚ → Prop
  | gt, q, r => r < q
  | ge, q, r => r ≤ q
  | lt, q, r => q < r
  | le, q, r => q ≤ r
  | eq, q, r => q = r
  | ne, q, r => q ≠ r

/-- The comparison of a missing value: it is below every threshold, and equal to zero. -/
def RelatesMissing : Comparison → ℚ → Prop
  | gt, _ => False
  | ge, _ => False
  | lt, _ => True
  | le, _ => True
  | eq, r => r = 0
  | ne, r => r ≠ 0

theorem mem_operators_iff {text : String} :
    text ∈ GuidedCondition.operators ↔ ∃ comparison : Comparison, comparison.name = text := by
  constructor
  · intro h
    simp only [GuidedCondition.operators, List.mem_cons, List.not_mem_nil, or_false] at h
    rcases h with rfl | rfl | rfl | rfl | rfl | rfl
    · exact ⟨.gt, rfl⟩
    · exact ⟨.ge, rfl⟩
    · exact ⟨.lt, rfl⟩
    · exact ⟨.le, rfl⟩
    · exact ⟨.eq, rfl⟩
    · exact ⟨.ne, rfl⟩
  · rintro ⟨comparison, rfl⟩
    cases comparison <;> decide

variable (comparison : Comparison) {value : Json} {x threshold : Float}

theorem outcome_ofFloat (value : Json) (threshold : Float) :
    comparison.outcome value (.ofFloat threshold) = comparison.judges value threshold := by
  cases comparison <;> rfl

theorem judges_of_number? (h : value.number? = some x) (hthreshold : threshold.isFinite) :
    comparison.judges value threshold ↔
      comparison.Relates (Decimal.value x) (Decimal.value threshold) := by
  have horder := Json.order_ofFloat h hthreshold
  have hequal := Json.looseEq_ofFloat h hthreshold
  cases comparison with
  | gt => simp only [judges, horder, Relates, decide_eq_true_eq, compare_gt_iff_gt]
  | ge => simp only [judges, horder, Relates, decide_eq_true_eq, compare_ge_iff_ge]
  | lt => simp only [judges, horder, Relates, decide_eq_true_eq, compare_lt_iff_lt]
  | le => simp only [judges, horder, Relates, decide_eq_true_eq, compare_le_iff_le]
  | eq => exact hequal
  | ne => rw [judges, Bool.not_eq_true', ← Bool.not_eq_true, hequal, Relates]

theorem judges_null (h : threshold.isFinite) :
    comparison.judges .null threshold ↔ comparison.RelatesMissing (Decimal.value threshold) := by
  have horder := Json.order_null h
  have hequal := Json.looseEq_null h
  cases comparison with
  | eq => exact hequal
  | ne => rw [judges, Bool.not_eq_true', ← Bool.not_eq_true, hequal, RelatesMissing]
  | _ => simp [judges, horder, RelatesMissing]

end Comparison

/-! ## Compiled conditions -/

namespace GuidedCondition

variable {condition : GuidedCondition} {compiled : Json}

/-- A condition compiles if all its parts are valid, to the comparison of these. -/
theorem compile_eq_ok_iff :
    condition.compile = .ok compiled ↔
      ∃ (left : LeftOperand) (comparison : Comparison) (threshold : Float),
        condition.left = some left.name ∧ condition.operator = some comparison.name ∧
        condition.right.bind Json.number? = some threshold ∧
        compiled = expression left.name comparison.name threshold := by
  constructor
  · intro h
    rw [compile] at h
    -- the parts are checked one after the other
    rcases hleft : condition.left.filter (· ∈ leftOperands) with _ | text
    · rw [hleft] at h
      cases h
    rcases hoperator : condition.operator.filter (· ∈ operators) with _ | name
    · rw [hleft, hoperator] at h
      cases h
    rcases hright : condition.right.bind Json.number? with _ | threshold
    · rw [hleft, hoperator, hright] at h
      cases h
    rw [hleft, hoperator, hright] at h
    cases h
    obtain ⟨hleft, hmem⟩ := Option.filter_eq_some_iff.mp hleft
    obtain ⟨hoperator, hmem'⟩ := Option.filter_eq_some_iff.mp hoperator
    obtain ⟨left, rfl⟩ := LeftOperand.mem_leftOperands_iff.mp (of_decide_eq_true hmem)
    obtain ⟨comparison, rfl⟩ := Comparison.mem_operators_iff.mp (of_decide_eq_true hmem')
    exact ⟨left, comparison, threshold, hleft, hoperator, rfl, rfl⟩
  · rintro ⟨left, comparison, threshold, hleft, hoperator, hright, rfl⟩
    have hleft' : condition.left.filter (· ∈ leftOperands) = some left.name :=
      Option.filter_eq_some_iff.mpr
        ⟨hleft, decide_eq_true (LeftOperand.mem_leftOperands_iff.mpr ⟨left, rfl⟩)⟩
    have hoperator' : condition.operator.filter (· ∈ operators) = some comparison.name :=
      Option.filter_eq_some_iff.mpr
        ⟨hoperator, decide_eq_true (Comparison.mem_operators_iff.mpr ⟨comparison, rfl⟩)⟩
    rw [compile, hleft', hoperator', hright]
    rfl

theorem evaluate_expression (left : LeftOperand) (comparison : Comparison) {threshold : Float}
    (hfinite : threshold.isFinite) (context : Context) :
    evaluate context.evaluationData (expression left.name comparison.name threshold) =
      .bool (comparison.judges (left.value context) threshold) := by
  have hvar : evaluate context.evaluationData (.object [("var", .str left.name)]) = left.value context :=
    left.resolve_name context
  have hthreshold : evaluate context.evaluationData (.ofFloat threshold) = .ofFloat threshold := by
    rw [Json.ofFloat_of_isFinite hfinite]
    rfl
  rw [expression, comparison.evaluate_comparison, hvar, hthreshold, comparison.outcome_ofFloat]

/-- What a compiled condition tests: a left operand against a threshold. -/
structure Tests (condition : GuidedCondition) (compiled : Json) (left : LeftOperand)
    (comparison : Comparison) (threshold : Float) : Prop where
  left_eq : condition.left = some left.name
  operator_eq : condition.operator = some comparison.name
  right_eq : condition.right.bind Json.number? = some threshold
  evaluate_eq : ∀ context : Context, evaluate context.evaluationData compiled =
    .bool (comparison.judges (left.value context) threshold)
  of_number : ∀ (context : Context) (x : Float), (left.value context).number? = some x →
    (evaluate context.evaluationData compiled = .bool true ↔
      comparison.Relates (Decimal.value x) (Decimal.value threshold))
  of_missing : ∀ context : Context, left.value context = .null →
    (evaluate context.evaluationData compiled = .bool true ↔
      comparison.RelatesMissing (Decimal.value threshold))

theorem exists_tests (h : condition.compile = .ok compiled) :
    ∃ left comparison threshold, condition.Tests compiled left comparison threshold := by
  obtain ⟨left, comparison, threshold, hleft, hoperator, hright, rfl⟩ := compile_eq_ok_iff.mp h
  obtain ⟨right, -, hnumber⟩ := Option.bind_eq_some_iff.mp hright
  have hfinite := Json.isFinite_of_number? hnumber
  have heval := evaluate_expression left comparison hfinite
  refine ⟨left, comparison, threshold, hleft, hoperator, hright, heval, ?_, ?_⟩
  · intro context x hx
    rw [heval, Json.bool.injEq, comparison.judges_of_number? hx hfinite]
  · intro context hmissing
    rw [heval, Json.bool.injEq, hmissing, comparison.judges_null hfinite]

/-- **A guided condition tests what the trigger found or the query gave**, whatever the payload says. If it
compiles, then in every context it compares this value with its threshold. So its outcome is the same in
contexts that agree in trigger and query. The payload is still seen, under all keys but those of the context. -/
theorem evaluate_of_compile (h : condition.compile = .ok compiled) :
    (∃ left comparison threshold, condition.Tests compiled left comparison threshold) ∧
      (∀ context context' : Context, context.trigger = context'.trigger → context.query = context'.query →
        evaluate context.evaluationData compiled = evaluate context'.evaluationData compiled) ∧
      ∀ (context : Context) (key : String), key ∉ Context.ownKeys →
        context.evaluationData.field? key = context.payload.get? key := by
  obtain ⟨left, comparison, threshold, htests⟩ := exists_tests h
  refine ⟨⟨left, comparison, threshold, htests⟩, ?_, fun context _ => context.field?_payload⟩
  intro context context' htrigger hquery
  have hsource : left.source context = left.source context' := by
    cases left with
    | trigger => exact htrigger
    | query => exact hquery
  rw [htests.evaluate_eq, htests.evaluate_eq, LeftOperand.value, hsource, LeftOperand.value]

end GuidedCondition

namespace Sample

/-- Whether the power is high. -/
def high : GuidedCondition := ⟨some "trigger.value", some ">", some (.str " 40 ")⟩

/-- The condition as an expression. -/
def highCompiled : Json := GuidedCondition.expression "trigger.value" ">" 40

/-- A trigger that found a high power. -/
def honest : Context := .new (.object [("value", .ofInt64 50)]) ∅

/-- The same trigger, with a payload that claims a low power. -/
def spoofed : Context :=
  .new (.object [("value", .ofInt64 50)]) (.ofList [("trigger", .object [("value", .ofInt64 7)])])

end Sample

namespace GuidedCondition

theorem evaluate_high :
    Sample.high.compile = .ok Sample.highCompiled ∧
      (∃ left comparison threshold, Sample.high.Tests Sample.highCompiled left comparison threshold) ∧
      evaluate Sample.spoofed.evaluationData Sample.highCompiled =
        evaluate Sample.honest.evaluationData Sample.highCompiled := by
  have hcompile : Sample.high.compile = .ok Sample.highCompiled := by decide +kernel
  obtain ⟨htests, hsame, -⟩ := evaluate_of_compile hcompile
  exact ⟨hcompile, htests, hsame Sample.spoofed Sample.honest rfl rfl⟩

example : evaluate Sample.spoofed.evaluationData Sample.highCompiled = .bool true := by decide +kernel

end GuidedCondition

end TelemetryAutomation
