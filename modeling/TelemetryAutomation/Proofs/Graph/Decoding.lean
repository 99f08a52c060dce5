import TelemetryAutomation.Proofs.Graph.Encoding
import TelemetryAutomation.Proofs.Success

/-!
# Which graph a document describes

A document describes at most one graph, and only two things keep it from describing one: that it is no object, or
that its version is no integer of 64 bits. Lists that are missing or no lists are empty. Each item of a list has
its place in the graph; one that is no object is blank there, and one that is an object has lost nothing.

Main result: `Graph.ofJson_spec`.
-/

namespace TelemetryAutomation

/-! ## Fields of objects -/

namespace Object

variable {fields rest : Object} {name text : String} {names : List String}

/-- The text under a name is the given one, or the empty text stands for what is no text. -/
def HasText (fields : Object) (name text : String) : Prop :=
  fields.get? name = some (.str text) ∨ text = "" ∧ ∀ other, fields.get? name ≠ some (.str other)

/-- An object holds all fields of another one but those with some names. -/
def IsRestOf (rest fields : Object) (names : List String) : Prop :=
  ∀ name, rest.get? name = if name ∈ names then none else fields.get? name

/-- The items of the array under a name; without an array there are none. -/
def itemsUnder (fields : Object) (name : String) : List Json := ((fields.get? name).bind Json.arr?).getD []

theorem hasText_iff : fields.HasText name text ↔ text = fields.textOrEmpty name := by
  unfold HasText textOrEmpty
  rcases fields.get? name with _ | ⟨_ | _ | _ | other | _ | _⟩ <;>
    simp [Json.textOrEmpty, Json.str?, eq_comm]

theorem isRestOf_iff : rest.IsRestOf fields names ↔ rest = fields.filterKeys (· ∉ names) := by
  constructor
  · intro h
    apply SortedMap.ext_get?
    intro name
    rw [h, SortedMap.get?_filterKeys]
    by_cases hname : name ∈ names <;> simp [hname]
  · rintro rfl name
    rw [SortedMap.get?_filterKeys]
    by_cases hname : name ∈ names <;> simp [hname]

end Object

/-! ## Nodes and edges -/

/-- The node that an object describes. -/
structure Node.DescribedBy (node : Node) (fields : Object) : Prop where
  id : fields.HasText "id" node.id
  typeName : fields.HasText "type" node.typeName
  data : node.data = (fields.get? "data").getD .null
  extra : node.extra.IsRestOf fields ["id", "type", "data"]

/-- The edge that an object describes. -/
structure Edge.DescribedBy (edge : Edge) (fields : Object) : Prop where
  id : fields.HasText "id" edge.id
  source : fields.HasText "source" edge.source
  target : fields.HasText "target" edge.target
  extra : edge.extra.IsRestOf fields ["id", "source", "target"]

theorem Node.describedBy_iff {node : Node} {fields : Object} :
    node.DescribedBy fields ↔ node = ofObject fields := by
  constructor
  · rintro ⟨hid, htype, hdata, hextra⟩
    rw [Object.hasText_iff] at hid htype
    rw [Object.isRestOf_iff] at hextra
    cases node
    dsimp only at hid htype hdata hextra
    subst hid htype hdata hextra
    rfl
  · rintro rfl
    exact ⟨Object.hasText_iff.mpr rfl, Object.hasText_iff.mpr rfl, rfl, Object.isRestOf_iff.mpr rfl⟩

theorem Edge.describedBy_iff {edge : Edge} {fields : Object} :
    edge.DescribedBy fields ↔ edge = ofObject fields := by
  constructor
  · rintro ⟨hid, hsource, htarget, hextra⟩
    rw [Object.hasText_iff] at hid hsource htarget
    rw [Object.isRestOf_iff] at hextra
    cases edge
    dsimp only at hid hsource htarget hextra
    subst hid hsource htarget hextra
    rfl
  · rintro rfl
    exact ⟨Object.hasText_iff.mpr rfl, Object.hasText_iff.mpr rfl, Object.hasText_iff.mpr rfl,
      Object.isRestOf_iff.mpr rfl⟩

namespace Graph

/-! ## Lists -/

/-- What an item of a list stands for: what it describes if it is an object, else the blank one. -/
inductive StandsFor {α : Type} (DescribedBy : α → Object → Prop) (blank : α) : Json → α → Prop
  | object {fields : Object} {item : α} (h : DescribedBy item fields) :
      StandsFor DescribedBy blank (.obj fields) item
  | blank {value : Json} (h : ∀ fields, value ≠ .obj fields) : StandsFor DescribedBy blank value blank

section

variable {α : Type} [FromDocument α] {DescribedBy : α → Object → Prop} {ofObject : Object → α} {blank : α}

theorem standsFor_iff (hread : ∀ fields, (Json.obj fields).read = .ok (ofObject fields))
    (h : ∀ {item fields}, DescribedBy item fields ↔ item = ofObject fields) {value : Json} {item : α} :
    StandsFor DescribedBy blank value item ↔ lenientItem blank value = item := by
  rw [lenientItem_eq hread]
  constructor
  · rintro (hdescribed | hvalue)
    · exact (h.mp hdescribed).symm
    · cases value with
      | obj fields => exact absurd rfl (hvalue fields)
      | _ => rfl
  · rintro rfl
    cases value with
    | obj fields => exact .object (h.mpr rfl)
    | _ => exact .blank nofun

/-- Lists are read item by item, and no item gets lost or changes its place. -/
theorem forall₂_standsFor_iff (hread : ∀ fields, (Json.obj fields).read = .ok (ofObject fields))
    (h : ∀ {item fields}, DescribedBy item fields ↔ item = ofObject fields) {fields : Object} {name : String}
    {items : List α} :
    List.Forall₂ (StandsFor DescribedBy blank) (fields.itemsUnder name) items ↔
      items = lenientList blank ((fields.get? name).getD .null) := by
  have hlist : lenientList blank ((fields.get? name).getD .null) =
      (fields.itemsUnder name).map (lenientItem blank) := by
    rw [Object.itemsUnder]
    rcases fields.get? name with _ | ⟨_ | _ | _ | _ | _ | _⟩ <;> rfl
  have hstands : StandsFor DescribedBy blank = fun value item => lenientItem blank value = item := by
    funext value item
    exact propext (standsFor_iff hread h)
  rw [hlist, hstands, ← List.forall₂_map_left_iff, List.forall₂_eq_eq_eq, eq_comm]

end

/-! ## Versions -/

/-- The version of a graph: an integer of 64 bits, or the first version where none is given. -/
def HasVersion (fields : Object) (version : Int64) : Prop :=
  fields.get? "version" = some (.ofInt64 version) ∨ fields.get? "version" = none ∧ version = 1

theorem hasVersion_iff {fields : Object} {version : Int64} :
    HasVersion fields version ↔ fields.readD "version" firstVersion = .ok version := by
  rw [HasVersion, Object.readD]
  cases fields.get? "version" with
  | none => simp [firstVersion, eq_comm]
  | some value => simp [Json.read_eq_ok_iff_ofInt64]

/-! ## Graphs -/

/-- The graph that an object describes. -/
structure DescribedBy (graph : Graph) (fields : Object) : Prop where
  version : HasVersion fields graph.version
  nodes : List.Forall₂ (StandsFor Node.DescribedBy ⟨"", "", .null, ∅⟩) (fields.itemsUnder "nodes") graph.nodes
  edges : List.Forall₂ (StandsFor Edge.DescribedBy ⟨"", "", "", ∅⟩) (fields.itemsUnder "edges") graph.edges
  viewport : graph.viewport = (fields.get? "viewport").getD .null

theorem ofJson_obj_eq_ok_iff {fields : Object} {graph : Graph} :
    ofJson (.obj fields) = .ok graph ↔ graph.DescribedBy fields := by
  rw [ofJson_obj, Success.mapError_eq_ok]
  constructor
  · intro h
    cases hversion : Object.readD fields "version" firstVersion with
    | error error =>
      rw [hversion] at h
      cases h
    | ok version =>
      rw [hversion] at h
      cases h
      exact ⟨hasVersion_iff.mpr hversion, (forall₂_standsFor_iff Node.read_obj Node.describedBy_iff).mpr rfl,
        (forall₂_standsFor_iff Edge.read_obj Edge.describedBy_iff).mpr rfl, rfl⟩
  · intro h
    have hnodes := (forall₂_standsFor_iff Node.read_obj Node.describedBy_iff).mp h.nodes
    have hedges := (forall₂_standsFor_iff Edge.read_obj Edge.describedBy_iff).mp h.edges
    have hgraph : graph = ⟨graph.version, graph.nodes, graph.edges, graph.viewport⟩ := rfl
    rw [hasVersion_iff.mp h.version, hgraph, hnodes, hedges, h.viewport]
    rfl

/-- An object is refused exactly for its version. -/
theorem exists_ofJson_obj_eq_error_iff {fields : Object} :
    (∃ error, ofJson (.obj fields) = .error error) ↔
      ∃ value, fields.get? "version" = some value ∧ ∀ n, value ≠ .ofInt64 n := by
  -- the lists are read whatever they are, so it all depends on the version
  rw [ofJson_obj]
  cases hversion : Object.readD fields "version" firstVersion with
  | ok version =>
    refine ⟨nofun, ?_⟩
    rintro ⟨value, hvalue, hnone⟩
    rcases hasVersion_iff.mpr hversion with hgiven | ⟨habsent, -⟩
    · rw [hvalue, Option.some.injEq] at hgiven
      exact absurd hgiven (hnone version)
    · rw [hvalue] at habsent
      cases habsent
  | error cause =>
    refine ⟨fun _ => ?_, fun _ => ⟨.field cause, rfl⟩⟩
    cases hvalue : fields.get? "version" with
    | none =>
      rw [hasVersion_iff.mp (.inr ⟨hvalue, rfl⟩)] at hversion
      cases hversion
    | some value =>
      refine ⟨value, rfl, ?_⟩
      rintro n rfl
      rw [hasVersion_iff.mp (.inl hvalue)] at hversion
      cases hversion

/-- **What can be read as a graph, and what is read.** A document is refused exactly if it is no object or gives
a version that is no integer of 64 bits. Else it is read as the one graph that it describes, with a node for each
item of its list of nodes, in order, and so for the edges. -/
theorem ofJson_spec (document : Json) :
    ((∃ error, ofJson document = .error error) ↔
      (∀ fields, document ≠ .obj fields) ∨
        ∃ fields value, document = .obj fields ∧ fields.get? "version" = some value ∧
          ∀ n, value ≠ .ofInt64 n) ∧
      ∀ graph, ofJson document = .ok graph ↔ ∃ fields, document = .obj fields ∧ graph.DescribedBy fields := by
  cases document with
  | obj fields =>
    constructor
    · rw [exists_ofJson_obj_eq_error_iff]
      simp
    · intro graph
      rw [ofJson_obj_eq_ok_iff]
      simp
  | _ => simp [ofJson]

/-- A text in the place of a node and a node with a number for its id: both keep their places, without a name. -/
example :
    (ofJson (.object [("nodes", .arr [.str "b", .object [("id", .ofInt64 7)], .object [("id", .str "a")]])])).map
      (·.nodes.map Node.id) = .ok ["", "", "a"] := by
  rfl

end Graph

end TelemetryAutomation
