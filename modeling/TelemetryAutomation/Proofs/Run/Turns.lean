import Mathlib.Algebra.Ring.GeomSum
import TelemetryAutomation.Proofs.Graph.Index
import TelemetryAutomation.Proofs.Run.Behavior
import TelemetryAutomation.Proofs.Run.Traversal

/-!
# The turns of a walk

A walk takes the frame on top of its stack, visits the node, and puts frames for the children in its place.
Each time it does so is a turn. No list of visited nodes keeps it from coming back, so on a cycle the same
nodes come up again and again. It ends because every frame has a depth: a frame can lead to no more frames
than a tree of the same width has nodes down to the limit (`Walk.load`), and each turn takes one of them away.

Main results: `Turns.walk_eq` (a walk is what its turns come to) and `walk_ends`.
-/

namespace TelemetryAutomation

variable {σ : Type}

/-- One turn of a walk: the frame that it takes from the stack, the visit that it records, if any, and the
frames that it puts in the place of the frame. -/
structure Turn (σ : Type) where
  frame : Frame
  visit? : Option Visit
  pushed : List Frame
  before : World σ
  after : World σ

namespace Walk

/-! ## One turn -/

section

variable (services : Services σ) (run : Run) (index : GraphIndex)

/-- The frames of the children of a node, if it hands a context on. -/
def framesBelow (parent : NodeId) (depth : Nat) (next : Option Context) : List Frame :=
  (next.map (childFrames index parent · (depth + 1))).getD []

/-- What a walk does with a frame. -/
def take (frame : Frame) : Action σ (Option Visit × List Frame) :=
  match index.node? frame.node with
  | none => return (none, [])
  | some node =>
    match node.kind? with
    | none => return (none, [])
    | some kind =>
      if limit services < frame.depth then
        return (some (← refuse node frame.context), [])
      else do
        let (entered, next) ← enter services run node kind frame.context
        return (some entered, framesBelow index node.id frame.depth next)

/-- A walk takes the first frame and goes on with what is pushed in front of the others. -/
theorem walk_cons (frame : Frame) (rest : List Frame) :
    walk services run index (frame :: rest) = do
      let (visit?, pushed) ← take services run index frame
      let more ← walk services run index (pushed ++ rest)
      return visit?.toList ++ more := by
  rw [walk, take]
  cases hnode : index.node? frame.node with
  | none => simp
  | some node =>
    cases hkind : node.kind? with
    | none => simp [hkind]
    | some kind =>
      by_cases hdepth : limit services < frame.depth
      · simp [hkind, hdepth]
      · simp only [hkind, if_neg hdepth, bind_assoc, pure_bind]
        apply bind_congr
        rintro ⟨entered, next⟩
        cases next with
        | none => simp [framesBelow]
        | some next => simp [framesBelow]

/-- What a turn can be. The frame is passed over if its node does nothing, the node is refused if the frame is
too deep, and otherwise it is entered. -/
inductive Takes (turn : Turn σ) : Prop
  | passed (hnode : (index.node? turn.frame.node).bind Node.kind? = none)
      (hvisit : turn.visit? = none) (hpushed : turn.pushed = []) (hafter : turn.after = turn.before)
  | refused {node : Node} {visit : Visit} (hnode : index.node? turn.frame.node = some node)
      (hdepth : limit services < turn.frame.depth)
      (hrefuse : refuse node turn.frame.context turn.before = (visit, turn.after))
      (hvisit : turn.visit? = some visit) (hpushed : turn.pushed = [])
  | entered {node : Node} {kind : NodeKind} {visit : Visit} {next : Option Context}
      (hnode : index.node? turn.frame.node = some node) (hkind : node.kind? = some kind)
      (hdepth : turn.frame.depth ≤ limit services)
      (henter : enter services run node kind turn.frame.context turn.before =
        ((visit, next), turn.after))
      (hvisit : turn.visit? = some visit)
      (hpushed : turn.pushed = framesBelow index node.id turn.frame.depth next)

/-- Frames are taken from a stack until it is empty. -/
inductive Turns : List Frame → World σ → List (Turn σ) → World σ → Prop
  | done {world : World σ} : Turns [] world [] world
  | turn {turn : Turn σ} {rest : List Frame} {turns : List (Turn σ)} {last : World σ}
      (htake : take services run index turn.frame turn.before =
        ((turn.visit?, turn.pushed), turn.after))
      (hrest : Turns (turn.pushed ++ rest) turn.after turns last) :
      Turns (turn.frame :: rest) turn.before (turn :: turns) last

end

variable {services : Services σ} {run : Run} {index : GraphIndex}

theorem takes_of_take {turn : Turn σ}
    (h : take services run index turn.frame turn.before = ((turn.visit?, turn.pushed), turn.after)) :
    Takes services run index turn := by
  obtain ⟨frame, visit?, pushed, before, after⟩ := turn
  dsimp only at h
  cases hnode : index.node? frame.node with
  | none =>
    simp only [take, hnode] at h
    cases h
    exact .passed (by simp [hnode]) rfl rfl rfl
  | some node =>
    cases hkind : node.kind? with
    | none =>
      simp only [take, hnode, hkind] at h
      cases h
      exact .passed (by simp [hnode, hkind]) rfl rfl rfl
    | some kind =>
      by_cases hdepth : limit services < frame.depth
      · simp only [take, hnode, hkind, if_pos hdepth] at h
        cases h
        exact .refused hnode hdepth rfl rfl rfl
      · simp only [take, hnode, hkind, if_neg hdepth] at h
        cases h
        exact .entered hnode hkind (Nat.le_of_not_lt hdepth) rfl rfl rfl

/-- Frames are only pushed for the children of the node, one deeper and no deeper than one below the limit. -/
theorem Takes.of_mem_pushed {turn : Turn σ} (h : Takes services run index turn) {frame : Frame}
    (hframe : frame ∈ turn.pushed) :
    ∃ node, index.node? turn.frame.node = some node ∧ frame.node ∈ index.children node.id ∧
      turn.frame.depth ≤ limit services ∧ frame.depth = turn.frame.depth + 1 := by
  cases h with
  | passed _ _ hpushed =>
    rw [hpushed] at hframe
    cases hframe
  | refused _ _ _ _ hpushed =>
    rw [hpushed] at hframe
    cases hframe
  | @entered node _ _ next hnode _ hdepth _ _ hpushed =>
    rw [hpushed] at hframe
    cases next with
    | none => cases hframe
    | some next =>
      obtain ⟨child, hchild, rfl⟩ := List.mem_map.mp hframe
      exact ⟨node, hnode, hchild, hdepth, rfl⟩

/-! ## All turns -/

namespace Turns

variable {stack : List Frame} {first last : World σ} {turns : List (Turn σ)}

/-- A walk is what its turns come to. -/
theorem walk_eq (h : Turns services run index stack first turns last) :
    walk services run index stack first = (turns.filterMap Turn.visit?, last) := by
  induction h with
  | done =>
    rw [walk]
    rfl
  | @turn turn rest turns last htake _ ih =>
    rw [walk_cons, Action.bind_apply, htake]
    show ((turn.visit?.toList ++ _, _) : List Visit × World σ) = _
    rw [ih]
    cases hvisit : turn.visit? <;> simp [hvisit]

/-- What holds of the frames of the stack holds of every frame that is taken, if each turn hands it on to the
frames that it pushes. -/
theorem forall_frame (frameOk : Frame → Prop)
    (hpushed : ∀ turn : Turn σ, Takes services run index turn → frameOk turn.frame →
      ∀ frame ∈ turn.pushed, frameOk frame)
    (h : Turns services run index stack first turns last) (hstack : ∀ frame ∈ stack, frameOk frame) :
    ∀ turn ∈ turns, Takes services run index turn ∧ frameOk turn.frame := by
  induction h with
  | done => simp
  | @turn turn rest turns last htake _ ih =>
    obtain ⟨hframe, hrest⟩ := List.forall_mem_cons.mp hstack
    have htakes := takes_of_take htake
    have hmore : ∀ frame ∈ turn.pushed ++ rest, frameOk frame :=
      List.forall_mem_append.mpr ⟨hpushed turn htakes hframe, hrest⟩
    exact List.forall_mem_cons.mpr ⟨⟨htakes, hframe⟩, ih hmore⟩

end Turns

/-! ## Walks end -/

/-- The number of frames that can be taken at and below a frame, if no node has more children than `width`:
one for the frame, and on each level down to the one below the limit `width` times as many as on the level
above. -/
def load (width limit : Nat) (frame : Frame) : Nat :=
  ∑ level ∈ Finset.range (limit + 1 - frame.depth + 1), width ^ level

theorem load_pos (width limit : Nat) (frame : Frame) : 0 < load width limit frame := by
  rw [load, geom_sum_succ]
  exact Nat.succ_pos _

theorem sum_load_childFrames (index : GraphIndex) (width limit : Nat) (parent : NodeId)
    (context : Context) (depth : Nat) :
    ((childFrames index parent context (depth + 1)).map (load width limit)).sum =
      (index.children parent).length *
        ∑ level ∈ Finset.range (limit - depth + 1), width ^ level := by
  have hlevels : limit + 1 - (depth + 1) = limit - depth := by omega
  simp [childFrames, load, Function.comp_def, hlevels]

/-- The frames of the children can lead to as many frames as the frame of their parent, less the one that is
taken. -/
theorem sum_load_childFrames_lt {width limit : Nat} {parent : NodeId}
    (hwidth : (index.children parent).length ≤ width) (context : Context) {frame : Frame}
    (hdepth : frame.depth ≤ limit) :
    ((childFrames index parent context (frame.depth + 1)).map (load width limit)).sum <
      load width limit frame := by
  have hlevels : limit + 1 - frame.depth = limit - frame.depth + 1 := by omega
  have hload : load width limit frame =
      width * ∑ level ∈ Finset.range (limit - frame.depth + 1), width ^ level + 1 := by
    rw [load, hlevels, geom_sum_succ]
  rw [sum_load_childFrames, hload]
  exact Nat.lt_succ_of_le (Nat.mul_le_mul_right _ hwidth)

/-- Below a root the frames are those of the levels of a tree. -/
theorem sum_load_childFrames_le {width : Nat} {root : NodeId}
    (hwidth : (index.children root).length ≤ width) (limit : Nat) (context : Context) :
    ((childFrames index root context 1).map (load width limit)).sum ≤
      ∑ depth ∈ Finset.Icc 1 (limit + 1), width ^ depth := by
  have hlevels : ∑ depth ∈ Finset.Icc 1 (limit + 1), width ^ depth =
      width * ∑ level ∈ Finset.range (limit + 1), width ^ level := by
    rw [Finset.mul_sum, Finset.range_eq_Ico, ← Finset.Ico_add_one_right_eq_Icc,
      ← Finset.sum_Ico_add' (width ^ ·) 0 (limit + 1) 1]
    simp [Nat.pow_succ']
  rw [hlevels, sum_load_childFrames, Nat.sub_zero]
  exact Nat.mul_le_mul_right _ hwidth

theorem Takes.sum_load_pushed_lt {turn : Turn σ} (h : Takes services run index turn) {width : Nat}
    (hwidth : ∀ id, (index.children id).length ≤ width) :
    (turn.pushed.map (load width (limit services))).sum < load width (limit services) turn.frame := by
  cases h with
  | passed _ _ hpushed =>
    rw [hpushed]
    exact load_pos ..
  | refused _ _ _ _ hpushed =>
    rw [hpushed]
    exact load_pos ..
  | @entered node _ _ next _ _ hdepth _ _ hpushed =>
    rw [hpushed]
    cases next with
    | none => exact load_pos ..
    | some next => exact sum_load_childFrames_lt (hwidth node.id) next hdepth

variable (services run) in
/-- Every stack becomes empty, after no more turns than its frames can lead to. -/
theorem exists_turns {width : Nat} (hwidth : ∀ id, (index.children id).length ≤ width)
    (stack : List Frame) (world : World σ) :
    ∃ turns last, Turns services run index stack world turns last ∧
      turns.length ≤ (stack.map (load width (limit services))).sum := by
  -- each turn takes from the load of the stack at least the frame itself
  induction hload : (stack.map (load width (limit services))).sum using Nat.strong_induction_on
    generalizing stack world with
  | _ total ih =>
    cases stack with
    | nil => exact ⟨[], world, .done, Nat.zero_le _⟩
    | cons frame rest =>
      rcases htake : take services run index frame world with ⟨⟨visit?, pushed⟩, after⟩
      let turn : Turn σ := ⟨frame, visit?, pushed, world, after⟩
      have htakes : Takes services run index turn := takes_of_take htake
      have hlighter := htakes.sum_load_pushed_lt hwidth
      have hstack : ((pushed ++ rest).map (load width (limit services))).sum < total := by
        rw [← hload, List.map_append, List.sum_append, List.map_cons, List.sum_cons]
        exact Nat.add_lt_add_right hlighter _
      obtain ⟨turns, last, hturns, hlength⟩ := ih _ hstack (pushed ++ rest) after rfl
      have hall : Turns services run index (turn.frame :: rest) turn.before (turn :: turns) last :=
        .turn htake hturns
      exact ⟨turn :: turns, last, hall, Nat.lt_of_le_of_lt hlength hstack⟩

/-- Deeper than the limit nothing is done: no frame is pushed, only the clock is read, and a visit that is
recorded shows nothing but that it was refused. -/
theorem Takes.of_limit_lt {turn : Turn σ} (h : Takes services run index turn)
    (hdepth : limit services < turn.frame.depth) :
    turn.pushed = [] ∧ turn.after = { turn.before with clock := turn.after.clock } ∧
      ∀ visit, turn.visit? = some visit → ∃ node, index.node? turn.frame.node = some node ∧
        visit.Records node (inputOf turn.frame.context) (.failed .depthExceeded) := by
  cases h with
  | passed _ hvisit hpushed hafter =>
    rw [hvisit, hafter]
    exact ⟨hpushed, rfl, nofun⟩
  | @refused node visit hnode _ hrefuse hvisit hpushed =>
    have hrecords := refuse_yields node turn.frame.context turn.before
    rw [hrefuse] at hrecords
    have hafter : turn.after = (refuse node turn.frame.context turn.before).2 := by rw [hrefuse]
    refine ⟨hpushed, ?_, ?_⟩
    · rw [hafter]
      rfl
    · intro visit' hvisit'
      rw [hvisit, Option.some.injEq] at hvisit'
      exact ⟨node, hnode, hvisit' ▸ hrecords⟩
  | entered _ _ hle => exact absurd hdepth (Nat.not_lt_of_le hle)

/-- A turn keeps to a limit. Its frame is at most one deeper. If it is deeper, then no frame is pushed, only the
clock is read, and the step that is recorded, if any, has failed because it is too deep. -/
structure KeepsTo (limit : Nat) (turn : Turn σ) : Prop where
  depth_pos : 1 ≤ turn.frame.depth
  depth_le : turn.frame.depth ≤ limit + 1
  pushed_eq : limit < turn.frame.depth → turn.pushed = []
  after_eq : limit < turn.frame.depth → turn.after = { turn.before with clock := turn.after.clock }
  refused : limit < turn.frame.depth → ∀ visit, turn.visit? = some visit →
    visit.status = .failed ∧ visit.output = .object [] ∧
      reasonOf? visit.error = some "max_traversal_depth_exceeded"

theorem Takes.keepsTo {turn : Turn σ} (h : Takes services run index turn)
    (hdepth : 1 ≤ turn.frame.depth ∧ turn.frame.depth ≤ limit services + 1) :
    KeepsTo (limit services) turn := by
  refine ⟨hdepth.1, hdepth.2, fun hdeep => (h.of_limit_lt hdeep).1,
    fun hdeep => (h.of_limit_lt hdeep).2.1, ?_⟩
  intro hdeep visit hvisit
  obtain ⟨node, -, hrecords⟩ := (h.of_limit_lt hdeep).2.2 visit hvisit
  refine ⟨hrecords.status_eq, hrecords.output_eq, ?_⟩
  rw [hrecords.error_eq]
  exact StepFault.reasonOf?_toJson .depthExceeded

/-- **Walks end.** Below any node of any graph, also one with cycles, the frames of a walk run out: if no node
of the index has more than `width` children, at the latest when `width ^ depth` frames have been taken on each
level down to the one below the limit. So no more visits are recorded either. All turns keep to the limit:
nodes are entered only down to it, and on the level below it each node is refused and none of its children
comes up. -/
theorem walk_ends (services : Services σ) (run : Run) (graph : Graph) (root : NodeId)
    (context : Context) (world : World σ) {width : Nat}
    (hwidth : ∀ id node, graph.index.node? id = some node →
      (graph.index.children id).length ≤ width) :
    ∃ turns last,
      Turns services run graph.index (childFrames graph.index root context 1) world turns last ∧
      walk services run graph.index (childFrames graph.index root context 1) world =
        (turns.filterMap Turn.visit?, last) ∧
      turns.length ≤ ∑ depth ∈ Finset.Icc 1 (limit services + 1), width ^ depth ∧
      (turns.filterMap Turn.visit?).length ≤
        ∑ depth ∈ Finset.Icc 1 (limit services + 1), width ^ depth ∧
      ∀ turn ∈ turns, Takes services run graph.index turn ∧ KeepsTo (limit services) turn := by
  have hchildren := GraphIndex.length_children_le_of_node? hwidth
  let stack := childFrames graph.index root context 1
  obtain ⟨turns, last, hturns, hlength⟩ := exists_turns services run hchildren stack world
  have hbound : turns.length ≤ ∑ depth ∈ Finset.Icc 1 (limit services + 1), width ^ depth :=
    hlength.trans (sum_load_childFrames_le (hchildren root) _ context)
  refine ⟨turns, last, hturns, hturns.walk_eq, hbound, ?_, ?_⟩
  · exact (List.length_filterMap_le _ _).trans hbound
  · intro turn hturn
    let frameOk (frame : Frame) : Prop := 1 ≤ frame.depth ∧ frame.depth ≤ limit services + 1
    have hstack : ∀ frame ∈ stack, frameOk frame := by
      intro frame hframe
      obtain ⟨child, -, rfl⟩ := List.mem_map.mp hframe
      exact ⟨Nat.le_refl 1, Nat.le_add_left 1 _⟩
    have hpushed : ∀ turn : Turn σ, Takes services run graph.index turn → frameOk turn.frame →
        ∀ frame ∈ turn.pushed, frameOk frame := by
      intro turn htakes _ frame hframe
      obtain ⟨-, -, -, hlimit, hdepth⟩ := htakes.of_mem_pushed hframe
      show 1 ≤ frame.depth ∧ frame.depth ≤ limit services + 1
      omega
    obtain ⟨htakes, hdepth⟩ := hturns.forall_frame frameOk hpushed hstack turn hturn
    exact ⟨htakes, htakes.keepsTo hdepth⟩

/-- The walk below the meter goes through the node that leads back to itself four times at most if nodes are
executed down to the third level. -/
theorem walk_ends_loop :
    let services : Services Recorder := { Sample.services with maxDepth := 3 }
    let index := Sample.loop.index
    let stack := childFrames index "meter" (.new .null .empty) 1
    (∀ id node, index.node? id = some node → (index.children id).length ≤ 1) ∧
      ∃ turns last,
        Turns services Sample.run index stack Sample.world turns last ∧
        walk services Sample.run index stack Sample.world = (turns.filterMap Turn.visit?, last) ∧
        turns.length ≤ 4 ∧
        (turns.filterMap Turn.visit?).length ≤ 4 ∧
        ∀ turn ∈ turns, Takes services Sample.run index turn ∧ KeepsTo 3 turn := by
  intro services index stack
  have hwidth : ∀ id node, index.node? id = some node → (index.children id).length ≤ 1 := by
    intro id _ _
    have hwidest : index.widest = 1 := by decide
    exact hwidest ▸ index.length_children_le id
  refine ⟨hwidth, ?_⟩
  exact walk_ends services Sample.run Sample.loop "meter" (.new .null .empty) Sample.world hwidth

end Walk

end TelemetryAutomation
