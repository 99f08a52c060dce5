import TelemetryAutomation.Proofs.Json.Documents
import TelemetryAutomation.Workflow.Basic

/-!
# Stored graphs

A node is stored as one object: its own fields and, laid over them, whatever else the editor keeps. Nothing is
lost exactly if the two do not meet. That they do not is true of all that is read from a document, so a graph
that was read once is stored and read again as it is.
-/

namespace TelemetryAutomation

/-! ## Own fields and others -/

/-- An object has none of some names. -/
def Object.Avoids (fields : Object) (names : List String) : Prop :=
  ∀ name ∈ names, name ∉ fields.keys

instance (fields : Object) (names : List String) : Decidable (fields.Avoids names) :=
  inferInstanceAs (Decidable (∀ _ ∈ _, _))

namespace Object

/-- The text under a name; anything that is no text counts as empty. -/
def textOrEmpty (fields : Object) (name : String) : String :=
  ((fields.get? name).getD .null).textOrEmpty

variable {own : List (String × Json)} {names : List String} {extra : Object}

theorem avoids_empty : Object.Avoids ∅ names := fun _ _ => List.not_mem_nil

theorem Avoids.get?_eq_none (h : extra.Avoids names) {name : String} (hname : name ∈ names) :
    extra.get? name = none :=
  SortedMap.get?_eq_none_iff.mpr (h name hname)

/-- What is left of an object without some names has none of them. -/
theorem avoids_filterKeys (fields : Object) :
    Object.Avoids (fields.filterKeys (· ∉ names)) names := by
  intro name hname
  rw [← SortedMap.get?_eq_none_iff, SortedMap.get?_filterKeys]
  simp [hname]

/-- Under the own names the own fields are found, if the others do not have these names. -/
theorem Avoids.get?_overlay (h : extra.Avoids names) {name : String} (hname : name ∈ names) :
    ((SortedMap.ofList own).overlay extra).get? name = own.reverse.lookup name := by
  rw [SortedMap.get?_overlay, h.get?_eq_none hname, Option.none_or, SortedMap.get?_ofList]

/-- Under all other names the other fields are found. -/
theorem get?_overlay_of_notMem (hown : own.map (·.1) ⊆ names) {name : String} (hname : name ∉ names) :
    ((SortedMap.ofList own).overlay extra).get? name = extra.get? name := by
  have habsent : (SortedMap.ofList own).get? name = none := by
    rw [SortedMap.get?_eq_none_iff, SortedMap.mem_keys_ofList]
    exact fun hmem => hname (hown hmem)
  rw [SortedMap.get?_overlay, habsent, Option.or_none]

theorem Avoids.textOrEmpty_overlay (h : extra.Avoids names) {name text : String} (hname : name ∈ names)
    (htext : own.reverse.lookup name = some (.str text)) :
    Object.textOrEmpty ((SortedMap.ofList own).overlay extra) name = text := by
  rw [textOrEmpty, h.get?_overlay hname, htext]
  rfl

/-- The other fields come back exactly if they do not have the own names. -/
theorem filterKeys_overlay_eq_iff (hown : own.map (·.1) ⊆ names) (extra : Object) :
    ((SortedMap.ofList own).overlay extra).filterKeys (· ∉ names) = extra ↔ extra.Avoids names := by
  constructor
  · intro heq
    rw [← heq]
    exact avoids_filterKeys _
  · intro h
    apply SortedMap.ext_get?
    intro name
    rw [SortedMap.get?_filterKeys]
    by_cases hname : name ∈ names
    · rw [h.get?_eq_none hname]
      simp [hname]
    · rw [get?_overlay_of_notMem hown hname]
      simp [hname]

end Object

/-! ## Nodes and edges -/

namespace Node

/-- The node that an object describes. -/
def ofObject (fields : Object) : Node where
  id := fields.textOrEmpty "id"
  typeName := fields.textOrEmpty "type"
  data := (fields.get? "data").getD .null
  extra := fields.filterKeys (· ∉ ownFields)

/-- Every object is read as the node that it describes. -/
theorem read_obj (fields : Object) : (Json.obj fields).read = .ok (ofObject fields) := by
  have hread : reader.read (Json.obj fields).toDocument = .ok (ofObject fields) := by
    rw [RecordReader.read_obj, reader]
    simp only [RecordReader.defaulted_null_bind_ofObject, RecordReader.others_bind_ofObject]
    rfl
  exact hread

/-- The fields of a node that have a place of their own, as they are stored. -/
def ownEntries (node : Node) : List (String × Json) :=
  [("id", .str node.id), ("type", .str node.typeName)] ++
    if node.data.isNull then [] else [("data", node.data)]

theorem toObject_eq (node : Node) :
    node.toObject = (SortedMap.ofList node.ownEntries).overlay node.extra := rfl

theorem ownEntries_subset (node : Node) : node.ownEntries.map (·.1) ⊆ ownFields := by
  rw [ownEntries]
  split <;> simp [ownFields]

theorem avoids_ofObject (fields : Object) : (ofObject fields).extra.Avoids ownFields :=
  Object.avoids_filterKeys fields

/-- A node comes back from its object exactly if its other fields do not have the names of its own. -/
theorem ofObject_toObject_eq_iff (node : Node) :
    ofObject node.toObject = node ↔ node.extra.Avoids ownFields := by
  have hextra := Object.filterKeys_overlay_eq_iff node.ownEntries_subset node.extra
  rw [← toObject_eq] at hextra
  rw [← hextra]
  -- if the other fields come back, then they hide none of the own ones
  refine ⟨congrArg extra, fun heq => ?_⟩
  have havoids := hextra.mp heq
  have hid : node.ownEntries.reverse.lookup "id" = some (.str node.id) := by
    rw [ownEntries]
    split <;> rfl
  have htype : node.ownEntries.reverse.lookup "type" = some (.str node.typeName) := by
    rw [ownEntries]
    split <;> rfl
  have hdata : (node.toObject.get? "data").getD .null = node.data := by
    rw [toObject_eq, havoids.get?_overlay (by decide), ownEntries]
    cases node.data <;> rfl
  rw [ofObject, hdata, heq, toObject_eq, havoids.textOrEmpty_overlay (by decide) hid,
    havoids.textOrEmpty_overlay (by decide) htype]

end Node

namespace Edge

/-- The edge that an object describes. -/
def ofObject (fields : Object) : Edge where
  id := fields.textOrEmpty "id"
  source := fields.textOrEmpty "source"
  target := fields.textOrEmpty "target"
  extra := fields.filterKeys (· ∉ ownFields)

/-- Every object is read as the edge that it describes. -/
theorem read_obj (fields : Object) : (Json.obj fields).read = .ok (ofObject fields) := by
  have hread : reader.read (Json.obj fields).toDocument = .ok (ofObject fields) := by
    rw [RecordReader.read_obj, reader]
    simp only [RecordReader.defaulted_null_bind_ofObject, RecordReader.others_bind_ofObject]
    rfl
  exact hread

/-- The fields of an edge that have a place of their own, as they are stored. -/
def ownEntries (edge : Edge) : List (String × Json) :=
  [("id", .str edge.id), ("source", .str edge.source), ("target", .str edge.target)]

theorem toObject_eq (edge : Edge) :
    edge.toObject = (SortedMap.ofList edge.ownEntries).overlay edge.extra := rfl

theorem ownEntries_subset (edge : Edge) : edge.ownEntries.map (·.1) ⊆ ownFields := List.Subset.refl _

theorem avoids_ofObject (fields : Object) : (ofObject fields).extra.Avoids ownFields :=
  Object.avoids_filterKeys fields

/-- An edge comes back from its object exactly if its other fields do not have the names of its own. -/
theorem ofObject_toObject_eq_iff (edge : Edge) :
    ofObject edge.toObject = edge ↔ edge.extra.Avoids ownFields := by
  have hextra := Object.filterKeys_overlay_eq_iff edge.ownEntries_subset edge.extra
  rw [← toObject_eq] at hextra
  rw [← hextra]
  refine ⟨congrArg extra, fun heq => ?_⟩
  have havoids := hextra.mp heq
  have hid : edge.toObject.textOrEmpty "id" = edge.id := havoids.textOrEmpty_overlay (by decide) rfl
  have hsource : edge.toObject.textOrEmpty "source" = edge.source :=
    havoids.textOrEmpty_overlay (by decide) rfl
  have htarget : edge.toObject.textOrEmpty "target" = edge.target :=
    havoids.textOrEmpty_overlay (by decide) rfl
  rw [ofObject, hid, hsource, htarget, heq]

end Edge

/-! ## Graphs -/

namespace Graph

/-- The other fields of the nodes and edges do not have the names of their own. -/
structure KeepsOwnFields (graph : Graph) : Prop where
  nodes : ∀ node ∈ graph.nodes, node.extra.Avoids Node.ownFields
  edges : ∀ edge ∈ graph.edges, edge.extra.Avoids Edge.ownFields

section

variable {α : Type} [FromDocument α] {ofObject : Object → α} {blank : α}

/-- If every object can be read, then only what is no object is blank. -/
theorem lenientItem_eq (h : ∀ fields, (Json.obj fields).read = .ok (ofObject fields)) (value : Json) :
    lenientItem blank value = (value.obj?.map ofObject).getD blank := by
  cases value with
  | obj fields =>
    rw [lenientItem, h]
    rfl
  | _ => rfl

/-- An item of a list is blank or described by an object. -/
theorem eq_of_mem_lenientList (h : ∀ fields, (Json.obj fields).read = .ok (ofObject fields)) {value : Json}
    {item : α} (hitem : item ∈ lenientList blank value) :
    item = blank ∨ ∃ fields, item = ofObject fields := by
  cases value with
  | arr items =>
    obtain ⟨value, -, rfl⟩ := List.mem_map.mp hitem
    rw [lenientItem_eq h]
    cases value.obj? with
    | none => exact .inl rfl
    | some fields => exact .inr ⟨fields, rfl⟩
  | _ => exact absurd hitem List.not_mem_nil

/-- Of a list of items each one is read from its object. -/
theorem lenientList_toJson (h : ∀ fields, (Json.obj fields).read = .ok (ofObject fields))
    {toObject : α → Object} (items : List α) :
    lenientList blank (.arr (items.map fun item => .obj (toObject item))) =
      items.map fun item => ofObject (toObject item) := by
  rw [lenientList, List.map_map]
  exact List.map_congr_left fun item _ => lenientItem_eq h (.obj (toObject item))

end

/-- A graph is read from an object: only the version number can be refused. -/
theorem ofJson_obj (fields : Object) :
    ofJson (.obj fields) = ((fields.readD "version" firstVersion).map fun version =>
      { version
        nodes := lenientList .blank ((fields.get? "nodes").getD .null)
        edges := lenientList .blank ((fields.get? "edges").getD .null)
        viewport := (fields.get? "viewport").getD .null : Graph }).mapError .field := by
  rw [ofJson, RecordReader.read_obj, reader, RecordReader.defaulted_bind_ofObject]
  simp only [RecordReader.defaulted_null_bind_ofObject]
  cases fields.readD "version" firstVersion <;> rfl

/-- What is read from a document keeps its own fields. -/
theorem keepsOwnFields_of_ofJson {document : Json} {graph : Graph} (h : ofJson document = .ok graph) :
    graph.KeepsOwnFields := by
  cases document with
  | obj fields =>
    rw [ofJson_obj] at h
    cases hversion : Object.readD fields "version" firstVersion with
    | error error =>
      rw [hversion] at h
      cases h
    | ok version =>
      rw [hversion] at h
      cases h
      constructor
      · intro node hnode
        rcases eq_of_mem_lenientList Node.read_obj hnode with rfl | ⟨fields, rfl⟩
        · exact Object.avoids_empty
        · exact Node.avoids_ofObject fields
      · intro edge hedge
        rcases eq_of_mem_lenientList Edge.read_obj hedge with rfl | ⟨fields, rfl⟩
        · exact Object.avoids_empty
        · exact Edge.avoids_ofObject fields
  | _ => cases h

/-- The fields of a graph as they are stored; a viewport that is `null` is left out. -/
def storedEntries (graph : Graph) : List (String × Json) :=
  [("version", toJson graph.version), ("nodes", toJson graph.nodes), ("edges", toJson graph.edges)] ++
    if graph.viewport.isNull then [] else [("viewport", graph.viewport)]

theorem toJson_eq (graph : Graph) : toJson graph = .obj (.ofList graph.storedEntries) := rfl

/-- What becomes of a graph that is stored and read: each node and each edge is read from its object. -/
theorem ofJson_toJson (graph : Graph) :
    ofJson (toJson graph) = .ok { graph with
      nodes := graph.nodes.map fun node => .ofObject node.toObject
      edges := graph.edges.map fun edge => .ofObject edge.toObject } := by
  have hget (name : String) :
      (SortedMap.ofList graph.storedEntries).get? name = graph.storedEntries.reverse.lookup name :=
    SortedMap.get?_ofList _ name
  have hversion : graph.storedEntries.reverse.lookup "version" = some (.ofInt64 graph.version) := by
    rw [storedEntries]
    split <;> rfl
  have hnodes : graph.storedEntries.reverse.lookup "nodes" = some (toJson graph.nodes) := by
    rw [storedEntries]
    split <;> rfl
  have hedges : graph.storedEntries.reverse.lookup "edges" = some (toJson graph.edges) := by
    rw [storedEntries]
    split <;> rfl
  have hviewport : (graph.storedEntries.reverse.lookup "viewport").getD .null = graph.viewport := by
    rw [storedEntries]
    cases graph.viewport <;> rfl
  have hread : Object.readD (SortedMap.ofList graph.storedEntries) "version" firstVersion =
      .ok graph.version := by
    rw [Object.readD, hget, hversion]
    exact Json.read_ofInt64 graph.version
  rw [toJson_eq, ofJson_obj, hread, hget, hget, hget, hnodes, hedges, hviewport]
  simp only [Option.getD_some, toJson, lenientList_toJson Node.read_obj, lenientList_toJson Edge.read_obj]
  rfl

/-- A graph is read again as it was stored exactly if it keeps its own fields. -/
theorem ofJson_toJson_eq_ok_iff (graph : Graph) :
    ofJson (toJson graph) = .ok graph ↔ graph.KeepsOwnFields := by
  have hmap {α : Type} {f : α → α} {items : List α} :
      items.map f = items ↔ ∀ item ∈ items, f item = item := by
    conv_lhs => rhs; rw [← List.map_id items]
    exact List.map_inj_left
  obtain ⟨version, nodes, edges, viewport⟩ := graph
  rw [ofJson_toJson, Except.ok.injEq, mk.injEq]
  simp only [true_and, and_true, hmap, Node.ofObject_toObject_eq_iff, Edge.ofObject_toObject_eq_iff]
  exact ⟨fun h => ⟨h.1, h.2⟩, fun h => ⟨h.nodes, h.edges⟩⟩

end Graph

namespace WorkflowVersion

/-- **Nothing is lost when a graph is stored.** A version gives back the graph that it was made of exactly if
its nodes and edges keep their own fields. All graphs that were read from a document do, so to store one and
to read it again changes nothing. -/
theorem readGraph_new (id : Key .workflowVersion) (workflow : Key .workflow) (number : UInt32)
    (createdAt : Timestamp) :
    (∀ graph, (new id workflow number graph createdAt).readGraph = .ok graph ↔ graph.KeepsOwnFields) ∧
      ∀ document,
        (Graph.ofJson document >>= fun graph => (new id workflow number graph createdAt).readGraph) =
          Graph.ofJson document := by
  refine ⟨Graph.ofJson_toJson_eq_ok_iff, fun document => ?_⟩
  cases hgraph : Graph.ofJson document with
  | error error => rfl
  | ok graph => exact (Graph.ofJson_toJson_eq_ok_iff graph).mpr (Graph.keepsOwnFields_of_ofJson hgraph)

end WorkflowVersion

end TelemetryAutomation
