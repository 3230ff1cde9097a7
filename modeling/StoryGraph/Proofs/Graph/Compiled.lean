import StoryGraph.Play.Visit
import StoryGraph.Proofs.Graph.Accepted
import StoryGraph.Proofs.Node.Properties
import StoryGraph.Proofs.Sorted

/-!
# What a compiled graph knows

For each node a compiled graph holds the properties that the node has in the
authoring graph, and from each output port it leads to where the earliest
connection of that port leads, although compilation has put nodes and
connections in another order.
-/

namespace StoryGraph

namespace Graph

/-- The output port that a connection leaves. -/
def leftPort (connection : Connection) : String × Int :=
  (connection.source.nodeId, connection.source.port)

/-- Whether a connection leaves an output port of a node. -/
def leaves (nodeId : String) (port : Int) (connection : Connection) : Bool :=
  connection.source.nodeId == nodeId && connection.source.port == port

/-- The node to which the earliest connection of an output port leads. -/
def firstTarget? (graph : Graph) (nodeId : String)
    (port : Nat) : Option String :=
  (graph.connections.find? (leaves nodeId port)).map (·.target.nodeId)

/-! ## Canonical order -/

theorem portOrder_trans (first second third : Connection)
    (hfirst : portOrder first second = true)
    (hsecond : portOrder second third = true) :
    portOrder first third = true := by
  unfold portOrder at *
  grind

theorem portOrder_total (first second : Connection) :
    (portOrder first second || portOrder second first) = true := by
  unfold portOrder
  grind

/-- Connections of the same output port keep their order. -/
theorem filter_canonicalConnections (graph : Graph) (nodeId : String)
    (port : Int) :
    graph.canonicalConnections.filter (leaves nodeId port) =
      graph.connections.filter (leaves nodeId port) := by
  apply filter_mergeSort portOrder_trans portOrder_total
  intro first second hfirst hsecond
  simp only [leaves, Bool.and_eq_true, beq_iff_eq] at hfirst hsecond
  simp [portOrder, hfirst, hsecond]

/-- The same nodes are found under their ids. -/
theorem getNode?_canonicalForm (graph : Graph) (nodeId : String) :
    graph.canonicalForm.getNode? nodeId = graph.getNode? nodeId := by
  cases hnode : graph.getNode? nodeId with
  | none =>
    apply List.find?_eq_none.mpr
    intro node hmem
    exact List.find?_eq_none.mp hnode node
      (graph.canonicalNodes_perm.mem_iff.mp hmem)
  | some node =>
    have hmem : node ∈ graph.canonicalForm.nodes :=
      graph.canonicalNodes_perm.mem_iff.mpr (mem_of_getNode? hnode)
    have hfound := getNode?_of_mem hmem
    rwa [id_of_getNode? hnode] at hfound

/-! ## Compiled nodes -/

theorem find?_flatten (graph : Graph) (singleEntry : Bool) (metadata : Metadata)
    (nodeId : String) :
    (graph.canonicalForm.flatten singleEntry metadata).nodes.find? nodeId =
      (graph.getNode? nodeId).map graph.canonicalForm.compileNode := by
  rw [← getNode?_canonicalForm]
  exact Table.find?_ofList_map graph.canonicalForm.distinct nodeId

theorem entries_flatten (graph : Graph) (singleEntry : Bool)
    (metadata : Metadata) :
    (graph.canonicalForm.flatten singleEntry metadata).nodes.entries =
      graph.canonicalNodes.map fun node =>
        (node.id, graph.canonicalForm.compileNode node) := by
  apply Table.entries_ofList
  simpa [names, List.map_map, Function.comp_def]
    using graph.canonicalForm.distinct

/-- The data of a compiled node are its properties as documents hold them. -/
theorem properties_compileNode_eq_recorded (graph : Graph) (node : Node) :
    (graph.compileNode node).properties =
      .accepted node.properties.recorded := by
  rw [CompiledNode.properties, compileNode,
    Table.entries_ofList node.properties.names_dump_nodup]
  exact Properties.check_dump_eq_recorded node.properties

/-- The data of a compiled node are its properties in the authoring graph. -/
theorem properties_compileNode (graph : Graph) {node : Node}
    (hplain : ∀ value ∈ node.properties.freeValues, value.isPlainData = true) :
    (graph.compileNode node).properties =
      .accepted node.properties.settled := by
  rw [properties_compileNode_eq_recorded,
    Properties.recorded_of_isPlainData hplain]

/-- What an output slot holds. -/
theorem filter_outgoing (graph : Graph) (nodeId : String) (port : Int) :
    (graph.outgoing nodeId).filter (·.source.port == port) =
      graph.connections.filter (leaves nodeId port) := by
  rw [outgoing, List.filter_filter]
  congr 1
  funext connection
  exact Bool.and_comm _ _

/-- A compiled node lists the targets of each of its output ports, in the order
of their connections. -/
theorem outputs_compileNode (graph : Graph) (node : Node) :
    (graph.canonicalForm.compileNode node).outputs =
      (List.range (graph.registry.outputs node.kind)).map fun (port : Nat) =>
        (graph.connections.filter (leaves node.id port)).map
        (·.target.nodeId) := by
  simp only [compileNode, outputSlots, List.map_map]
  apply List.map_congr_left
  intro port _
  have hslot : graph.canonicalForm.connections.filter (leaves node.id port) =
      graph.connections.filter (leaves node.id port) :=
    graph.filter_canonicalConnections _ _
  rw [Function.comp_apply, filter_outgoing, hslot]

theorem targets_compileNode (graph : Graph) (node : Node) (port : Nat) :
    (graph.canonicalForm.compileNode node).targets port =
      if port < graph.registry.outputs node.kind then
        (graph.connections.filter (leaves node.id port)).map (·.target.nodeId)
      else [] := by
  have hport : ¬ (port : Int) < 0 := by omega
  rw [CompiledNode.targets, if_neg hport, Int.toNat_natCast,
    outputs_compileNode, List.getElem?_map]
  split
  · next hrange =>
    rw [List.getElem?_range hrange]
    rfl
  · next hrange =>
    rw [List.getElem?_eq_none (by simpa using hrange)]
    rfl

/-- A compiled node leads to where the earliest connection of the port leads. -/
theorem next?_compileNode {graph : Graph} {node : Node}
    (hmem : node ∈ graph.nodes)
    (hports : ∀ connection ∈ graph.connections,
      graph.HasPort .output connection.source) (port : Nat) :
    (graph.canonicalForm.compileNode node).next? port =
      graph.firstTarget? node.id port := by
  rw [CompiledNode.next?, targets_compileNode, firstTarget?]
  split
  · rw [List.head?_map, List.head?_filter]
  · next hrange =>
    have hnone : graph.connections.find? (leaves node.id port) = none := by
      rw [List.find?_eq_none]
      intro connection hconnection hleaves
      simp only [leaves, Bool.and_eq_true, beq_iff_eq] at hleaves
      obtain ⟨owner, howner, -, hcount⟩ := hports connection hconnection
      rw [hleaves.1, getNode?_of_mem hmem] at howner
      cases howner
      rw [hleaves.2] at hcount
      exact hrange (Int.ofNat_lt.mp hcount)
    rw [hnone]
    rfl

theorem entrypointOf?_eq_some_iff {node : Node} {entry : Entrypoint} :
    entrypointOf? node = some entry ↔
      ∃ properties, node.properties = .trigger properties ∧
      entry = ⟨node.id, properties.triggerType.val, properties.condition⟩ := by
  rw [entrypointOf?]
  split
  · next properties hproperties =>
    rw [hproperties]
    constructor
    · exact fun hentry => ⟨properties, rfl, (Option.some.inj hentry).symm⟩
    · rintro ⟨_, hsame, rfl⟩
      cases hsame
      rfl
  · next hother =>
    constructor
    · exact fun hentry => by cases hentry
    · rintro ⟨properties, hproperties, -⟩
      exact absurd hproperties (hother properties)

theorem entrypointOf?_eq_some {node : Node} {entry : Entrypoint}
    (hentry : entrypointOf? node = some entry) :
    node.id = entry.nodeId ∧ node.kind = .trigger := by
  obtain ⟨properties, hproperties, rfl⟩ := entrypointOf?_eq_some_iff.mp hentry
  exact ⟨rfl, by rw [Node.kind, hproperties]; rfl⟩

theorem exists_entrypointOf? {node : Node} (hkind : node.kind = .trigger) :
    ∃ entry, entrypointOf? node = some entry := by
  rw [Node.kind] at hkind
  cases hproperties : node.properties with
  | trigger properties => exact ⟨_, by rw [entrypointOf?, hproperties]⟩
  | _ =>
    rw [hproperties] at hkind
    cases hkind

/-- Entrypoints are triggers of the authoring graph. -/
theorem mem_entrypointsOf {singleEntry : Bool} {nodes : List Node}
    {entry : Entrypoint} (hentry : entry ∈ entrypointsOf singleEntry nodes) :
    ∃ node ∈ nodes, node.id = entry.nodeId ∧ node.kind = .trigger := by
  have hmem : entry ∈ nodes.filterMap entrypointOf? := by
    simp only [entrypointsOf] at hentry
    split at hentry
    · exact List.mem_of_mem_take hentry
    · exact hentry
  obtain ⟨node, hnode, hentry⟩ := List.mem_filterMap.mp hmem
  exact ⟨node, hnode, entrypointOf?_eq_some hentry⟩

/-- Every trigger is an entrypoint, unless only one of them may be. -/
theorem mem_entrypoints_of_mem {graph : Graph} {node : Node}
    (hmem : node ∈ graph.nodes) {entry : Entrypoint}
    (hentry : entrypointOf? node = some entry) (metadata : Metadata) :
    entry ∈ (graph.canonicalForm.flatten false metadata).entrypoints :=
  List.mem_filterMap.mpr ⟨node, graph.canonicalNodes_perm.mem_iff.mpr hmem,
    hentry⟩

theorem nodeId_ne_empty_of_compile {graph : Graph} {version : String}
    {singleEntry : Bool} {time : Timestamp} {compiled : CompiledGraph}
    (hcompile : graph.compile version singleEntry time = .ok compiled)
    {entry : Entrypoint}
    (hentry : entry ∈ compiled.entrypoints) : entry.nodeId ≠ "" := by
  obtain ⟨findings, -, rfl⟩ := compile_eq_ok hcompile
  obtain ⟨node, -, hid, -⟩ := mem_entrypointsOf hentry
  rw [← hid]
  exact node.named

/-- What the runtime finds in a compiled graph is what the authoring graph
says. -/
structure Agrees (graph : Graph) (compiled : CompiledGraph) : Prop where
  nodes : ∀ nodeId,
    compiled.nodes.find? nodeId =
      (graph.getNode? nodeId).map graph.canonicalForm.compileNode
  properties : ∀ node ∈ graph.nodes,
    (graph.canonicalForm.compileNode node).properties =
      .accepted node.properties.settled
  next : ∀ node ∈ graph.nodes, ∀ port : Nat,
    (graph.canonicalForm.compileNode node).next? port =
      graph.firstTarget? node.id port

theorem agrees_of_compile {graph : Graph} {version : String}
    {singleEntry : Bool} {time : Timestamp} {compiled : CompiledGraph}
    (hcompile : graph.compile version singleEntry time = .ok compiled)
    (hplain : ∀ node ∈ graph.nodes, ∀ value ∈ node.properties.freeValues,
      value.isPlainData = true) : graph.Agrees compiled := by
  obtain ⟨findings, hvalid, rfl⟩ := compile_eq_ok hcompile
  refine ⟨graph.find?_flatten singleEntry _, ?_, ?_⟩
  · intro node hmem
    exact graph.canonicalForm.properties_compileNode (hplain node hmem)
  · intro node hmem port
    apply next?_compileNode hmem
    intro connection hconnection
    exact hasPort_of_ensureValid hvalid hconnection .output

/-- When a graph was compiled. -/
def noon : Timestamp := ⟨⟨2024, 1, 1, 12, 0, 0, 0, none⟩, by decide⟩

end Graph

end StoryGraph
