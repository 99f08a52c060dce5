import TelemetryAutomation.Proofs.Identity.Correlation
import TelemetryAutomation.Proofs.Run.Moments
import TelemetryAutomation.Proofs.Text.Integer

/-!
# The numbers of steps

The steps of a run are counted from one across all of its branches, and the id of a step is put together from
the id of the run, its number and the id of its node, with colons in between. Ids of nodes may have any
characters; they are sanitized, so that no colon is left in them, and then different nodes may look the same.
The ids of the steps still differ, because the numbers do.

* `RunStep.IsNumbered`: what a step and its id say
* `RunStep.IsNumbered.eq_of_correlation_eq`: the id of a step says to which run it belongs and where
* `Execution.execute_numbers`: **the steps of a run are numbered, and their ids are unique**
-/

namespace TelemetryAutomation

variable {σ : Type}

/-! ## Sanitized ids -/

namespace NodeId

/-- The characters that are left alone. -/
def IsPlain (c : Char) : Prop :=
  ('A' ≤ c ∧ c ≤ 'Z') ∨ ('a' ≤ c ∧ c ≤ 'z') ∨ ('0' ≤ c ∧ c ≤ '9') ∨ c = '_' ∨ c = '-'

instance : DecidablePred IsPlain := fun c => by
  unfold IsPlain
  infer_instance

variable {id : NodeId} {c : Char}

theorem isPlain_iff : IsPlain c ↔ Text.isPlainAlphanumeric c ∨ c = '_' ∨ c = '-' := by
  simp only [IsPlain, Text.isPlainAlphanumeric, Text.isDigit, Bool.or_eq_true, Bool.and_eq_true,
    decide_eq_true_eq]
  tauto

theorem toList_sanitized (h : id ≠ "") :
    id.sanitized.toList = id.toList.map fun c => if IsPlain c then c else '_' := by
  have hempty : ¬ id.isEmpty := fun hempty => h (String.isEmpty_iff.mp hempty)
  rw [sanitized, if_neg hempty, String.toList_ofList]
  simp only [isPlain_iff, Bool.or_eq_true, decide_eq_true_eq, or_assoc]

theorem sanitized_empty : NodeId.sanitized "" = "node" := rfl

/-- Only plain characters are left. -/
theorem isPlain_of_mem_sanitized (h : c ∈ id.sanitized.toList) : IsPlain c := by
  by_cases hid : id = ""
  · subst hid
    rw [sanitized_empty] at h
    have hall : "node".toList.all fun c => IsPlain c := by decide
    exact of_decide_eq_true (List.all_eq_true.mp hall c h)
  · rw [toList_sanitized hid] at h
    obtain ⟨original, -, rfl⟩ := List.mem_map.mp h
    split
    · next hplain => exact hplain
    · decide

theorem length_sanitized (h : id ≠ "") : id.sanitized.length = id.length := by
  rw [← String.length_toList, toList_sanitized h, List.length_map, String.length_toList]

theorem sanitized_ne_empty : id.sanitized ≠ "" := by
  by_cases hid : id = ""
  · subst hid
    decide
  · intro hempty
    have hlength := length_sanitized hid
    rw [hempty, String.length_empty] at hlength
    exact hid (String.length_eq_zero_iff.mp hlength.symm)

theorem colon_not_mem_sanitized : ':' ∉ id.sanitized.toList :=
  fun h => absurd (isPlain_of_mem_sanitized h) (by decide)

end NodeId

/-! ## Ids of steps -/

/-- The id of a step: three parts with colons in between. -/
def RunStep.idText (correlation : CorrelationId) (number : Nat) (node : NodeId) : String :=
  ":".intercalate [correlation.text, toString number, node.sanitized]

/-- A step of a run with its number, whose id can be cut into the three parts again. The first is read as the
id of the run and the second as the number. -/
structure RunStep.IsNumbered (run : Run) (correlation : CorrelationId) (number : Nat) (step : RunStep) :
    Prop where
  run_eq : step.run = run.id
  sequence_eq : step.sequence.toNat = number
  correlation_eq : step.correlation =
    ":".intercalate [correlation.text, toString number, step.node.sanitized]
  splits : ∃ first second, step.correlation.toList.splitOn ':' =
      [first, second, step.node.sanitized.toList] ∧
    CorrelationId.read (.ofList first) = .ok correlation ∧
    Text.readInteger 0 0xffffffff second = .ok number

namespace RunStep

variable {correlation other : CorrelationId} {number number' : Nat} {node node' : NodeId}

theorem splitOn_idText : (idText correlation number node).toList.splitOn ':' =
    [correlation.text.toList, Text.decimalDigits number, node.sanitized.toList] := by
  have hparts : ∀ part ∈ [correlation.text.toList, Text.decimalDigits number, node.sanitized.toList],
      ':' ∉ part := by
    have hdigits : ':' ∉ Text.decimalDigits number :=
      fun h => absurd (Text.isDigit_of_mem_decimalDigits h) (by decide)
    simp [CorrelationId.colon_not_mem_text, hdigits, NodeId.colon_not_mem_sanitized]
  have hnumber : (toString number).toList = Text.decimalDigits number := Nat.toList_repr
  rw [idText, String.toList_intercalate, List.map_cons, List.map_cons, List.map_singleton, hnumber]
  exact List.splitOn_intercalate ':' hparts (List.cons_ne_nil _ _)

/-- From the id of a step follow the id of the run and the number of the step. -/
theorem eq_of_idText_eq (h : idText correlation number node = idText other number' node') :
    correlation = other ∧ number = number' := by
  have hparts : [correlation.text.toList, Text.decimalDigits number, node.sanitized.toList] =
      [other.text.toList, Text.decimalDigits number', node'.sanitized.toList] := by
    rw [← splitOn_idText, h, splitOn_idText]
  rw [List.cons.injEq, List.cons.injEq, String.toList_inj] at hparts
  exact ⟨CorrelationId.text_inj.mp hparts.1, Text.decimalDigits_inj.mp hparts.2.1⟩

theorem IsNumbered.eq_of_correlation_eq {run run' : Run} {correlation other : CorrelationId}
    {number number' : Nat} {step step' : RunStep} (h : step.IsNumbered run correlation number)
    (h' : step'.IsNumbered run' other number') (heq : step.correlation = step'.correlation) :
    correlation = other ∧ number = number' := by
  rw [h.correlation_eq, h'.correlation_eq] at heq
  exact eq_of_idText_eq heq

end RunStep

namespace Execution

open RunStep (IsNumbered idText splitOn_idText eq_of_idText_eq)

theorem correlation_stepOf (run : Run) (correlation : CorrelationId) (position : Nat) (visit : Visit) :
    (stepOf run correlation position visit).correlation =
      idText correlation (min (position + 1) (UInt32.size - 1)) visit.node := by
  simp [stepOf, idText, String.intercalate_cons_cons, toString, String.append_assoc]

/-- As long as the numbers suffice, a visit is recorded under its own. -/
theorem isNumbered_stepOf (run : Run) (correlation : CorrelationId) {position : Nat}
    (h : position + 1 < 2 ^ 32) (visit : Visit) :
    (stepOf run correlation position visit).IsNumbered run correlation (position + 1) := by
  have hmin : min (position + 1) (UInt32.size - 1) = position + 1 :=
    Nat.min_eq_left (Nat.le_sub_one_of_lt h)
  have hid : (stepOf run correlation position visit).correlation =
      idText correlation (position + 1) visit.node := by
    rw [correlation_stepOf, hmin]
  refine ⟨rfl, ?_, hid, correlation.text.toList, Text.decimalDigits (position + 1), ?_, ?_, ?_⟩
  · show (UInt32.ofNat (min (position + 1) (UInt32.size - 1))).toNat = position + 1
    rw [hmin, UInt32.toNat_ofNat', Nat.mod_eq_of_lt h]
  · rw [hid, splitOn_idText]
    rfl
  · rw [String.ofList_toList, CorrelationId.read_text]
  · exact Text.readInteger_decimalDigits (by omega)

/-! ## Runs -/

section

variable {services : Services σ} {run : Run} {version : WorkflowVersion} {record : TelemetryRecord}
  {correlation : CorrelationId} {world : World σ} {result : ExecutionResult}

/-- The steps are records of visits, one after the other, whatever branches they are in. -/
theorem exists_steps_eq
    (h : (execute services run version record correlation world).1 = .ok result) :
    ∃ visits : List Visit, result.steps = visits.mapIdx (stepOf run correlation) := by
  obtain ⟨error, herror⟩ | ⟨told, last, graph, triggers, branches, htold, htells⟩ :=
    execute_tells services run version record correlation world
  · rw [herror] at h
    cases h
  · rw [htold, Except.ok.injEq] at h
    subst h
    exact ⟨_, htells.steps_eq⟩

theorem exists_correlation_eq
    (h : (execute services run version record correlation world).1 = .ok result) {step : RunStep}
    (hstep : step ∈ result.steps) : ∃ number node, step.correlation = idText correlation number node := by
  obtain ⟨visits, hvisits⟩ := exists_steps_eq h
  rw [hvisits] at hstep
  obtain ⟨position, -, rfl⟩ := List.mem_mapIdx.mp hstep
  exact ⟨_, _, correlation_stepOf run correlation position _⟩

theorem isNumbered_of_getElem?
    (h : (execute services run version record correlation world).1 = .ok result)
    (hcount : result.steps.length < 2 ^ 32) {i : Nat} {step : RunStep}
    (hstep : result.steps[i]? = some step) : step.IsNumbered run correlation (i + 1) := by
  have hi : i + 1 < 2 ^ 32 := by
    obtain ⟨hi, -⟩ := List.getElem?_eq_some_iff.mp hstep
    omega
  obtain ⟨visits, hvisits⟩ := exists_steps_eq h
  rw [hvisits, List.getElem?_mapIdx] at hstep
  obtain ⟨visit, -, rfl⟩ := Option.map_eq_some_iff.mp hstep
  exact isNumbered_stepOf run correlation hi visit

/-- Numbered steps have different ids, because their numbers differ. -/
theorem nodup_of_isNumbered {steps : List RunStep}
    (h : ∀ (i : Nat) (step : RunStep), steps[i]? = some step → step.IsNumbered run correlation (i + 1)) :
    (steps.map (·.correlation)).Nodup := by
  rw [List.nodup_iff_pairwise_ne, List.pairwise_map, List.pairwise_iff_getElem]
  intro i j hi hj hlt heq
  have hfirst := h i steps[i] (List.getElem?_eq_getElem hi)
  have hsecond := h j steps[j] (List.getElem?_eq_getElem hj)
  have hnumber := (hfirst.eq_of_correlation_eq hsecond heq).2
  omega

end

/-- **The steps of a run are numbered from one, and their ids are unique.** A step has the id of the run, its
number, and an id that consists of the id of the run, the number and the sanitized id of the node and that is
cut into these parts again. What is left of an id of a node is a text of plain characters, as long as the id.
No two steps of a run have one id, whatever nodes they are of, and neither do steps of executions with
different ids. -/
theorem execute_numbers (services : Services σ) (run : Run) (version : WorkflowVersion)
    (record : TelemetryRecord) (correlation : CorrelationId) (world : World σ) (result : ExecutionResult)
    (h : (execute services run version record correlation world).1 = .ok result)
    (hcount : result.steps.length < 2 ^ 32) :
    (∀ (i : Nat) (step : RunStep), result.steps[i]? = some step → step.IsNumbered run correlation (i + 1)) ∧
    (∀ id : NodeId, id.sanitized ≠ "" ∧ (id ≠ "" → id.sanitized.length = id.length) ∧
      ∀ c ∈ id.sanitized.toList, NodeId.IsPlain c) ∧
    (result.steps.map (·.correlation)).Nodup ∧
    ∀ {τ : Type} (services' : Services τ) (run' : Run) (version' : WorkflowVersion)
      (record' : TelemetryRecord) (other : CorrelationId) (world' : World τ) (result' : ExecutionResult),
      (execute services' run' version' record' other world').1 = .ok result' → correlation ≠ other →
        ∀ step ∈ result.steps, ∀ step' ∈ result'.steps, step.correlation ≠ step'.correlation := by
  have hnumbered (i : Nat) (step : RunStep) (hstep : result.steps[i]? = some step) :
      step.IsNumbered run correlation (i + 1) :=
    isNumbered_of_getElem? h hcount hstep
  refine ⟨hnumbered, ?_, nodup_of_isNumbered hnumbered, ?_⟩
  · intro id
    exact ⟨NodeId.sanitized_ne_empty, NodeId.length_sanitized, fun c => NodeId.isPlain_of_mem_sanitized⟩
  · intro τ services' run' version' record' other world' result' h' hne step hstep step' hstep' heq
    obtain ⟨number, node, hid⟩ := exists_correlation_eq h hstep
    obtain ⟨number', node', hid'⟩ := exists_correlation_eq h' hstep'
    rw [hid, hid'] at heq
    exact hne (eq_of_idText_eq heq).1

end Execution

/-! ## A node that is visited twice, and one that looks the same -/

namespace Sample

/-- Two nodes behind the meter that look the same when their ids are sanitized, one behind the other. -/
def lookalikes : Graph :=
  .new [listener, .new "a:b" "schedule-trigger" .null, .new "a b" "schedule-trigger" .null]
    [.new "first" "meter" "a:b", .new "second" "meter" "a b", .new "third" "a:b" "a b"]

/-- The ids of the steps of an execution. -/
def stepIds (answer : Except ExecutionError ExecutionResult) : List String :=
  match answer with
  | .ok result => result.steps.map (·.correlation)
  | .error _ => []

end Sample

namespace Execution

theorem execute_lookalikes :
    ∃ result,
      (execute Sample.services Sample.run (Sample.versionOf Sample.lookalikes) Sample.record ⟨1⟩
        Sample.world).1 = .ok result ∧
      result.steps.map (·.correlation) =
        ["00000000000000000000000001:1:meter", "00000000000000000000000001:2:a_b",
          "00000000000000000000000001:3:a_b", "00000000000000000000000001:4:a_b"] ∧
      result.steps.length < 2 ^ 32 ∧
      (∀ (i : Nat) (step : RunStep), result.steps[i]? = some step → step.IsNumbered Sample.run ⟨1⟩ (i + 1)) ∧
      (result.steps.map (·.correlation)).Nodup := by
  have hids : Sample.stepIds (execute Sample.services Sample.run
      (Sample.versionOf Sample.lookalikes) Sample.record ⟨1⟩ Sample.world).1 =
        ["00000000000000000000000001:1:meter", "00000000000000000000000001:2:a_b",
          "00000000000000000000000001:3:a_b", "00000000000000000000000001:4:a_b"] := by
    decide +kernel
  cases hanswer : (execute Sample.services Sample.run (Sample.versionOf Sample.lookalikes)
      Sample.record ⟨1⟩ Sample.world).1 with
  | error error =>
    rw [hanswer] at hids
    cases hids
  | ok result =>
    rw [hanswer] at hids
    have hcount : result.steps.length < 2 ^ 32 := by
      rw [← List.length_map (·.correlation), show result.steps.map (·.correlation) = _ from hids]
      decide
    obtain ⟨hnumbered, -, hnodup, -⟩ := execute_numbers Sample.services Sample.run
      (Sample.versionOf Sample.lookalikes) Sample.record ⟨1⟩ Sample.world result hanswer hcount
    exact ⟨result, rfl, hids, hcount, hnumbered, hnodup⟩

end Execution

end TelemetryAutomation
