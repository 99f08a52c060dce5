import TelemetryAutomation.Run.Walk

/-!
# Paths of visits

The visits of a branch are read as a forest: below a visit stand the visits of the children of its node. The
forest is not recorded, but the visits can have only one (`Grown.unique`). So every visit has a path, from
the first visit below the trigger down to it, and by its path it has a context, `contextOn`.
-/

namespace TelemetryAutomation

/-! ## What a visit hands on -/

namespace Visit

/-- What the node does, by its type. -/
def kind? (visit : Visit) : Option NodeKind := NodeKind.ofName? visit.nodeType

/-- The result of a query that was executed, with the id of its node. -/
def answer? (visit : Visit) : Option (NodeId × Json) :=
  if visit.kind? = some .query ∧ visit.status = .completed then some (visit.node, visit.output) else none

/-- Whether the children of the node are visited: not after a failure, nor if a condition does not hold. -/
def HandsOn (visit : Visit) : Prop :=
  visit.status ≠ .failed ∧
    (visit.kind? = some .condition → visit.output.field? "passed" = some (.bool true))

instance (visit : Visit) : Decidable visit.HandsOn := inferInstanceAs (Decidable (_ ∧ _))

/-- The context of the children in terms of that of the node. -/
def below (visit : Visit) (context : Context) : Context :=
  match visit.answer? with
  | some (node, result) => context.withQueryResult node result
  | none => context

/-- The context that is handed on, if one is. -/
def handedOn? (visit : Visit) (context : Context) : Option Context :=
  if visit.HandsOn then some (visit.below context) else none

end Visit

/-- The context at the end of a path of visits below a trigger, by the queries that were executed on it: the
last result counts, and under each id the last result for the id. -/
def contextOn (trigger : Json) (values : Object) (path : List Visit) : Context where
  trigger := trigger
  payload := values
  query := ((path.filterMap Visit.answer?).getLast?.map (·.2)).getD (.obj ∅)
  queries := .ofList (path.filterMap Visit.answer?)

theorem contextOn_nil (trigger : Json) (values : Object) :
    contextOn trigger values [] = Context.new trigger values := rfl

/-- One more visit on the path. -/
theorem contextOn_concat (trigger : Json) (values : Object) (path : List Visit) (visit : Visit) :
    contextOn trigger values (path ++ [visit]) = visit.below (contextOn trigger values path) := by
  rw [contextOn, List.filterMap_append, Visit.below]
  cases hanswer : visit.answer? with
  | none => simp [contextOn, hanswer]
  | some answer => simp [contextOn, hanswer, Context.withQueryResult, SortedMap.ofList]

/-! ## Forests -/

/-- Visits, each with the visits below it. -/
inductive Forest
  | nil
  | cons (visit : Visit) (below rest : Forest)

namespace Forest

/-- The visits in preorder. -/
def visits : Forest → List Visit
  | nil => []
  | cons visit below rest => visit :: (below.visits ++ rest.visits)

/-- Every visit in preorder after the path that leads to it from a path above. -/
def paths (above : List Visit) : Forest → List (List Visit × Visit)
  | nil => []
  | cons visit below rest => (above, visit) :: (below.paths (above ++ [visit]) ++ rest.paths above)

/-- The trees of one forest, then those of another. -/
def append : Forest → Forest → Forest
  | nil, other => other
  | cons visit below rest, other => cons visit below (rest.append other)

@[simp] theorem visits_append (forest other : Forest) :
    (forest.append other).visits = forest.visits ++ other.visits := by
  induction forest with
  | nil => rfl
  | cons visit below rest _ ih => simp [append, visits, ih]

@[simp] theorem paths_append (above : List Visit) (forest other : Forest) :
    (forest.append other).paths above = forest.paths above ++ other.paths above := by
  induction forest with
  | nil => rfl
  | cons visit below rest _ ih => simp [append, paths, ih]

/-- Each visit has its path. -/
theorem map_paths (above : List Visit) (forest : Forest) :
    (forest.paths above).map (·.2) = forest.visits := by
  induction forest generalizing above with
  | nil => rfl
  | cons visit below rest ihBelow ihRest => simp [paths, visits, ihBelow, ihRest]

end Forest

/-- The nodes of a list of ids are visited in order, each before its children. Where there is no node of an
id, or none that does anything, there is no visit, and a visit that hands nothing on has none below it. -/
inductive Grown (index : GraphIndex) : List NodeId → Forest → Prop
  | nil : Grown index [] .nil
  | blank {id : NodeId} {ids : List NodeId} {forest : Forest}
      (hblank : (index.node? id).bind Node.kind? = none) (hforest : Grown index ids forest) :
      Grown index (id :: ids) forest
  | visit {id : NodeId} {ids : List NodeId} {node : Node} {kind : NodeKind} {visit : Visit}
      {below rest : Forest} (hnode : index.node? id = some node) (hkind : node.kind? = some kind)
      (hid : visit.node = node.id) (htype : visit.nodeType = node.typeName)
      (hbelow : Grown index (if visit.HandsOn then index.children node.id else []) below)
      (hrest : Grown index ids rest) :
      Grown index (id :: ids) (.cons visit below rest)

namespace Grown

variable {index : GraphIndex}

theorem append {ids ids' : List NodeId} {forest forest' : Forest} (h : Grown index ids forest)
    (h' : Grown index ids' forest') : Grown index (ids ++ ids') (forest.append forest') := by
  induction h with
  | nil => exact h'
  | blank hblank _ ih => exact .blank hblank ih
  | visit hnode hkind hid htype hbelow _ _ ih => exact .visit hnode hkind hid htype hbelow ih

/-- Forests in front of further visits can be told from each other: the ids say where a forest ends. -/
theorem append_injective {ids : List NodeId} {forest forest' : Forest} (h : Grown index ids forest)
    (h' : Grown index ids forest') {more more' : List Visit}
    (heq : forest.visits ++ more = forest'.visits ++ more') : forest = forest' ∧ more = more' := by
  induction h generalizing forest' more more' with
  | nil =>
    cases h'
    exact ⟨rfl, heq⟩
  | blank hblank _ ih =>
    cases h' with
    | blank _ hforest => exact ih hforest heq
    | visit hnode hkind => simp [hnode, hkind] at hblank
  | @visit id ids node kind visit below rest hnode hkind _ _ _ _ ihBelow ihRest =>
    cases h' with
    | blank hblank => simp [hnode, hkind] at hblank
    | @visit _ _ node' _ visit' below' rest' hnode' _ _ _ hbelow' hrest' =>
      obtain rfl : node = node' := Option.some.inj (hnode.symm.trans hnode')
      simp only [Forest.visits, List.cons_append, List.append_assoc, List.cons.injEq] at heq
      obtain ⟨rfl, hvisits⟩ := heq
      -- what is handed on is seen in the visit, so the forests below have grown from the same ids
      obtain ⟨rfl, hafter⟩ := ihBelow hbelow' hvisits
      obtain ⟨rfl, hmore⟩ := ihRest hrest' hafter
      exact ⟨rfl, hmore⟩

/-- The visits determine the forest. -/
theorem unique {ids : List NodeId} {forest forest' : Forest} (h : Grown index ids forest)
    (h' : Grown index ids forest') (heq : forest.visits = forest'.visits) : forest = forest' := by
  have hvisits : forest.visits ++ [] = forest'.visits ++ [] := by rw [heq]
  exact (append_injective h h' hvisits).1

end Grown

end TelemetryAutomation
