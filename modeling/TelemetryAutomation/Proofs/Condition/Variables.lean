import TelemetryAutomation.Json.Path
import TelemetryAutomation.Proofs.Condition.Expression
import TelemetryAutomation.Proofs.Json.Nesting

/-!
# What an expression reads

The variables of an expression name paths. The data of an evaluation are seen through these alone: data in which
lookups at these paths find the same give the expression the same value, however they differ otherwise.

Main result: `Expression.evaluate_reads_paths`.
-/

namespace TelemetryAutomation

namespace Expression

/-! ## Paths of variables -/

/-- The path that an operand of `var` names, unless it is empty: the operand, or the first item of a list. -/
def operandPath? (operand : Json) : Option String :=
  let path? := match operand with
    | .arr items => items.head?.bind Json.str?
    | operand => operand.str?
  path?.filter (!·.isEmpty)

/-- The path that an object names if it is a variable. -/
def variablePath? (fields : Object) : Option String :=
  match fields.entries with
  | [("var", operand)] => operandPath? operand
  | _ => none

mutual

/-- The paths that are named anywhere in an expression. -/
def paths : Json → List String
  | .arr items => itemPaths items
  | .obj ⟨names, sorted, row⟩ => (variablePath? ⟨names, sorted, row⟩).toList ++ rowPaths row
  | _ => []
termination_by structural expression => expression

def itemPaths : List Json → List String
  | [] => []
  | item :: rest => paths item ++ itemPaths rest
termination_by structural items => items

def rowPaths {names : List String} : Row Json names → List String
  | .nil => []
  | .cons value rest => paths value ++ rowPaths rest
termination_by structural row => row

end

theorem itemPaths_eq (items : List Json) : itemPaths items = items.flatMap paths := by
  induction items with
  | nil => rfl
  | cons item rest ih => rw [itemPaths, List.flatMap_cons, ih]

theorem rowPaths_eq {names : List String} (row : Row Json names) : rowPaths row = row.toList.flatMap paths := by
  induction row with
  | nil => rfl
  | cons value rest ih => rw [rowPaths, Row.toList, List.flatMap_cons, ih]

theorem paths_arr (items : List Json) : paths (.arr items) = items.flatMap paths := by
  rw [paths, itemPaths_eq]

theorem paths_obj (fields : Object) :
    paths (.obj fields) = (variablePath? fields).toList ++ fields.toList.flatMap paths := by
  obtain ⟨names, sorted, row⟩ := fields
  rw [paths, rowPaths_eq]
  rfl

/-! ## Values of variables -/

/-- The value of a variable whose path leads nowhere: the second item of a list, or `null`. -/
def fallback : Json → Json
  | .arr items => (items[1]?).getD .null
  | _ => .null

theorem getD_of_path (path? : Option String) (other data : Json) :
    (match path? with
      | some path => if path.isEmpty then other else (data.lookup path).getD other
      | none => other) = ((path?.filter (!·.isEmpty)).bind data.lookup).getD other := by
  cases path? with
  | none => rfl
  | some path => cases hempty : path.isEmpty <;> simp [Option.filter, hempty]

/-- The value of a variable is what a lookup at its path finds. -/
theorem resolve_eq (operand data : Json) :
    resolve operand data = ((operandPath? operand).bind data.lookup).getD (fallback operand) := by
  cases operand with
  | arr items =>
    rw [operandPath?, ← getD_of_path, List.head?_eq_getElem?]
    rfl
  | str path => exact getD_of_path (some path) .null data
  | _ => rfl

theorem ofName?_eq_var {name : String} (h : Operator.ofName? name = some .var) : name = "var" := by
  obtain ⟨front, back, hnamed, -⟩ := List.lookup_eq_some_iff.mp h
  have hmem : (name, Operator.var) ∈ Operator.named := by simp [hnamed]
  simpa [Operator.named] using hmem

/-! ## Data that agree -/

/-- At the paths of an expression lookups in two data find the same. -/
def Agree (data data' expression : Json) : Prop :=
  ∀ path ∈ paths expression, data.lookup path = data'.lookup path

variable {data data' operand expression : Json}

theorem Agree.item {items : List Json} (h : Agree data data' (.arr items)) {item : Json} (hitem : item ∈ items) :
    Agree data data' item := by
  intro path hpath
  apply h
  rw [paths_arr]
  exact List.mem_flatMap.mpr ⟨item, hitem, hpath⟩

theorem Agree.field {fields : Object} (h : Agree data data' (.obj fields)) {key : String} {value : Json}
    (hvalue : fields.get? key = some value) : Agree data data' value := by
  intro path hpath
  apply h
  rw [paths_obj]
  have hmem : value ∈ fields.toList := SortedMap.mem_toList_iff.mpr ⟨key, hvalue⟩
  exact List.mem_append_right _ (List.mem_flatMap.mpr ⟨value, hmem, hpath⟩)

theorem Agree.variable (h : Agree data data' (.object [("var", operand)])) :
    resolve operand data = resolve operand data' := by
  rw [resolve_eq, resolve_eq]
  cases hpath : operandPath? operand with
  | none => rfl
  | some path =>
    have hmem : path ∈ paths (.object [("var", operand)]) := by
      rw [Json.object, paths_obj]
      exact List.mem_append_left _ (Option.mem_toList.mpr hpath)
    rw [Option.bind_some, Option.bind_some, h path hmem]

/-- Data that agree give an expression the same value, and to its operands if it is a list of operands. -/
theorem Agree.values (h : Agree data data' expression) :
    evaluate data expression = evaluate data' expression ∧
      operandValues data expression = operandValues data' expression := by
  -- operands are not evaluated as a whole, so what holds of their parts goes through the induction as well
  induction expression using Json.nested_ind with
  | arr items ih =>
    have hitems : items.map (evaluate data) = items.map (evaluate data') :=
      List.map_congr_left fun item hitem => (ih item hitem (h.item hitem)).1
    rw [evaluate_arr, evaluate_arr, operandValues_eq, operandValues_eq]
    exact ⟨congrArg Json.arr hitems, hitems⟩
  | obj fields ih =>
    have hvalues : fields.toList.map (evaluate data) = fields.toList.map (evaluate data') := by
      refine List.map_congr_left fun value hmem => ?_
      obtain ⟨key, hvalue⟩ := SortedMap.mem_toList_iff.mp hmem
      exact (ih key value hvalue (h.field hvalue)).1
    rw [operandValues_eq, operandValues_eq]
    refine ⟨?_, hvalues⟩
    rcases obj_cases fields with ⟨name, operand, hsingle⟩ | hliteral
    · obtain rfl : fields = .ofList [(name, operand)] := Json.obj.inj hsingle
      have hget : (SortedMap.ofList [(name, operand)]).get? name = some operand := by
        rw [SortedMap.get?_ofList]
        simp
      have hoperands := (ih name operand hget (h.field hget)).2
      cases hname : Operator.ofName? name with
      | none => rw [← Json.object, evaluate_object, evaluate_object, hname]
      | some operator =>
        by_cases hvar : operator = .var
        · subst hvar
          obtain rfl := ofName?_eq_var hname
          exact h.variable
        · rw [← Json.object, evaluate_operator data hname hvar, evaluate_operator data' hname hvar,
            ← operandValues_eq, ← operandValues_eq, hoperands]
    · -- an object that applies nothing stands for itself, though its fields may be operands
      rw [hliteral, hliteral]
  | _ => exact ⟨rfl, rfl⟩

/-- **An expression reads only what its variables name.** Data in which lookups at the paths of an expression find
the same give it the same value. What a variable itself reads is just what a lookup at its path finds. -/
theorem evaluate_reads_paths :
    (∀ data data' expression : Json, (∀ path ∈ paths expression, data.lookup path = data'.lookup path) →
      evaluate data expression = evaluate data' expression) ∧
      ∀ data operand : Json, evaluate data (.object [("var", operand)]) =
        ((operandPath? operand).bind data.lookup).getD (fallback operand) :=
  ⟨fun _ _ _ h => (Agree.values h).1, fun data operand => resolve_eq operand data⟩

end Expression

namespace Sample

/-- Whether the power is high while the pump runs, or else has been high before. -/
def alarming : Json :=
  .object [("and", .arr [
    .object [(">", .arr [.object [("var", .str "trigger.value")], .ofInt64 40])],
    .object [("if", .arr [.object [("var", .arr [.str "pump", .bool true])], .bool true,
      .object [("var", .str "query.value")]])]])]

/-- What is known of a site. -/
def site (secret : String) : Json :=
  .object [("trigger", .object [("value", .ofInt64 50), ("secret", .str secret)]), ("pump", .bool false),
    ("secret", .str secret)]

end Sample

namespace Expression

theorem evaluate_site :
    (∀ path ∈ paths Sample.alarming, (Sample.site "a").lookup path = (Sample.site "b").lookup path) ∧
      evaluate (Sample.site "a") Sample.alarming = evaluate (Sample.site "b") Sample.alarming := by
  have hlookup : ∀ path ∈ paths Sample.alarming, (Sample.site "a").lookup path = (Sample.site "b").lookup path := by
    decide +kernel
  exact ⟨hlookup, evaluate_reads_paths.1 _ _ _ hlookup⟩

example : paths Sample.alarming = ["trigger.value", "pump", "query.value"] := by decide +kernel

end Expression

end TelemetryAutomation
