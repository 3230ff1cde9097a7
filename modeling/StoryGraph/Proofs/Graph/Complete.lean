import Mathlib.Data.List.Nodup
import StoryGraph.Proofs.Graph.Compiled

/-!
# Compilation is complete

Compilation puts nodes and connections in order, builds the graph anew and lists
the targets of each output port.  Nothing is lost or added on the way: the nodes
are those of the graph, the connections of each port are listed in the order in
which they were made, and since every connection leaves one of the ports, they
are all listed once.  Over the standard registry a node is the target of one
connection at most and a trigger of none.
-/

namespace StoryGraph

/-- All targets that a compiled graph lists, node by node and port by port. -/
def CompiledGraph.listed (graph : CompiledGraph) : List String :=
  graph.nodes.entries.flatMap fun entry => entry.2.outputs.flatten

namespace Graph

/-! ## Ports of the usual kinds -/

theorem inputs_standard_le_one (kind : Kind) :
    Registry.standard.inputs kind ≤ 1 := by
  cases kind <;> decide

section Standard

variable {graph : Graph} {ref : PortRef}

/-- The input ports of the usual kinds have number zero. -/
theorem HasPort.port_eq_zero (hregistry : graph.registry = .standard)
    (hport : graph.HasPort .input ref) : ref.port = 0 := by
  obtain ⟨node, -, hfirst, hlast⟩ := hport
  have hone := inputs_standard_le_one node.kind
  rw [hregistry] at hlast
  simp only [Direction.count] at hlast
  omega

/-- Triggers have no input ports. -/
theorem HasPort.kind_ne_trigger (hregistry : graph.registry = .standard)
    (hport : graph.HasPort .input ref) {node : Node}
    (hnode : graph.getNode? ref.nodeId = some node) : node.kind ≠ .trigger := by
  intro hkind
  obtain ⟨owner, howner, hfirst, hlast⟩ := hport
  rw [hnode] at howner
  cases howner
  have hnone : Registry.standard.inputs .trigger = 0 := by decide
  rw [hregistry, hkind, Direction.count, hnone] at hlast
  omega

end Standard

/-! ## Every connection once -/

/-- The ports of the nodes on a side. -/
def ports (graph : Graph) (direction : Direction) : List (String × Int) :=
  graph.nodes.flatMap fun node =>
    (List.range (direction.count graph.registry node.kind)).map
      fun (port : Nat) => (node.id, (port : Int))

theorem nodup_ports (graph : Graph) (direction : Direction) :
    (graph.ports direction).Nodup := by
  rw [ports, List.nodup_flatMap]
  constructor
  · intro node _
    refine List.Nodup.map ?_ List.nodup_range
    intro first second heq
    exact Int.ofNat_inj.mp (congrArg Prod.snd heq)
  · refine (List.pairwise_map.mp graph.distinct).imp ?_
    intro first second hne port hfirst hsecond
    obtain ⟨_, -, rfl⟩ := List.mem_map.mp hfirst
    obtain ⟨_, -, heq⟩ := List.mem_map.mp hsecond
    exact hne (congrArg Prod.fst heq).symm

theorem mem_ports_iff {graph : Graph} {direction : Direction} {ref : PortRef} :
    (ref.nodeId, ref.port) ∈ graph.ports direction ↔
      graph.HasPort direction ref := by
  simp only [ports, List.mem_flatMap, List.mem_map, List.mem_range,
    Prod.mk.injEq]
  constructor
  · rintro ⟨node, hmem, number, hnumber, hid, hport⟩
    exact ⟨node, hid ▸ getNode?_of_mem hmem, by omega, by omega⟩
  · rintro ⟨node, hnode, hfirst, hlast⟩
    exact ⟨node, mem_of_getNode? hnode, ref.port.toNat, by omega,
      id_of_getNode? hnode, by omega⟩

/-- The output ports of the nodes, in canonical order. -/
def outputPorts (graph : Graph) : List (String × Int) :=
  graph.canonicalNodes.flatMap fun node =>
    (List.range (graph.registry.outputs node.kind)).map fun (port : Nat) =>
      (node.id, (port : Int))

variable {graph : Graph}

theorem nodup_outputPorts (graph : Graph) : graph.outputPorts.Nodup :=
  graph.canonicalForm.nodup_ports .output

theorem mem_outputPorts {ref : PortRef} (hport : graph.HasPort .output ref) :
    (ref.nodeId, ref.port) ∈ graph.outputPorts := by
  have hperm : (graph.ports .output).Perm graph.outputPorts :=
    graph.canonicalNodes_perm.symm.flatMap_right _
  exact hperm.subset (mem_ports_iff.mpr hport)

theorem listed_flatten (graph : Graph) (singleEntry : Bool)
    (metadata : Metadata) :
    (graph.canonicalForm.flatten singleEntry metadata).listed =
      (graph.outputPorts.flatMap fun port =>
        graph.connections.filter (leftPort · == port)).map
          (·.target.nodeId) := by
  have hnode (node : Node) :
    (graph.canonicalForm.compileNode node).outputs.flatten =
      ((List.range (graph.registry.outputs node.kind)).map fun (port : Nat) =>
        (node.id, (port : Int))).flatMap fun port =>
          (graph.connections.filter (leftPort · == port)).map
            (·.target.nodeId) := by
    rw [outputs_compileNode, List.flatMap_map, List.flatMap_def]
    rfl
  rw [CompiledGraph.listed, entries_flatten, outputPorts, List.flatMap_map,
    List.map_flatMap, List.flatMap_assoc]
  simp only [hnode]

/-- The listed targets are those of the connections, each connection once. -/
theorem listed_perm (hsound : graph.Sound) (singleEntry : Bool)
    (metadata : Metadata) :
    (graph.canonicalForm.flatten singleEntry metadata).listed.Perm
      (graph.connections.map (·.target.nodeId)) := by
  rw [listed_flatten]
  refine (perm_flatMap_filter graph.nodup_outputPorts ?_).map _
  intro connection hmem
  exact mem_outputPorts (hsound.ends connection hmem .output)

/-- Over the standard registry no two connections lead to the same node. -/
theorem Sound.nodup_targets (hsound : graph.Sound)
    (hregistry : graph.registry = .standard) :
    (graph.connections.map (·.target.nodeId)).Nodup := by
  apply List.Nodup.of_map fun nodeId => (nodeId, (0 : Int))
  have hbound :
      (graph.connections.map (·.target.nodeId)).map (fun nodeId =>
        (nodeId, (0 : Int))) = graph.connections.map boundPort := by
    rw [List.map_map]
    apply List.map_congr_left
    intro connection hmem
    have hport := (hsound.ends connection hmem .input).port_eq_zero hregistry
    exact Prod.ext rfl hport.symm
  rw [hbound]
  exact hsound.single

/-! ## Entrypoints -/

/-- Triggers as entrypoints are in the order of their ids. -/
theorem entrypoints_increasing (graph : Graph) :
    ((graph.canonicalNodes.filterMap entrypointOf?).map
      Entrypoint.nodeId).Pairwise (· < ·) := by
  have hids := graph.sortedIds_increasing
  rw [← map_id_canonicalNodes, List.pairwise_map] at hids
  rw [List.pairwise_map, List.pairwise_filterMap]
  refine hids.imp ?_
  intro first second hlt entry hentry other hother
  rw [← (entrypointOf?_eq_some hentry).1, ← (entrypointOf?_eq_some hother).1]
  exact hlt

theorem mem_entrypoints_iff {entry : Entrypoint} :
    entry ∈ graph.canonicalNodes.filterMap entrypointOf? ↔
      ∃ node ∈ graph.nodes, ∃ properties,
        node.properties = .trigger properties ∧
        entry = ⟨node.id, properties.triggerType.val,
          properties.condition⟩ := by
  simp only [List.mem_filterMap, entrypointOf?_eq_some_iff,
    graph.canonicalNodes_perm.mem_iff]

/-- The first trigger is where activations start, if no other one is named. -/
theorem startNode_flatten (htrigger : graph.HasTrigger) (singleEntry : Bool)
    (metadata : Metadata) :
    ∃ first,
      (graph.canonicalForm.flatten singleEntry metadata).entrypoints.head? =
        some first ∧
      (graph.canonicalForm.flatten singleEntry metadata).startNode =
        some first.nodeId := by
  have hsome :
      (entrypointsOf singleEntry graph.canonicalNodes).head? ≠ none := by
    obtain ⟨node, hnode, hkind⟩ := htrigger
    obtain ⟨entry, hentry⟩ := exists_entrypointOf? hkind
    have hmem : entry ∈ graph.canonicalNodes.filterMap entrypointOf? :=
      List.mem_filterMap.mpr ⟨node, graph.canonicalNodes_perm.mem_iff.mpr hnode,
        hentry⟩
    rw [Ne, List.head?_eq_none_iff, entrypointsOf]
    split
    · simpa using List.ne_nil_of_mem hmem
    · exact List.ne_nil_of_mem hmem
  obtain ⟨first, hfirst⟩ := Option.ne_none_iff_exists'.mp hsome
  exact ⟨first, hfirst, congrArg (Option.map Entrypoint.nodeId) hfirst⟩

/-! ## What is compiled -/

theorem keys_flatten (graph : Graph) (singleEntry : Bool)
    (metadata : Metadata) :
    (graph.canonicalForm.flatten singleEntry metadata).nodes.keys =
      graph.sortedIds := by
  rw [Table.keys, names, entries_flatten, List.map_map]
  exact graph.map_id_canonicalNodes

/-- Compilation keeps every node, every connection and every trigger, and adds
none. -/
theorem compile_complete {graph : Graph} {version : String} {singleEntry : Bool}
    {time : Timestamp} {compiled : CompiledGraph}
    (hcompile : graph.compile version singleEntry time = .ok compiled) :
    compiled.nodes.keys.Perm (graph.nodes.map Node.id) ∧
      compiled.nodes.keys.Pairwise (· < ·) ∧
      (∀ node ∈ graph.nodes, ∃ compiledNode,
        compiled.nodes.find? node.id = some compiledNode ∧
        compiledNode.kind = node.kind ∧
        compiledNode.outputs =
          (List.range (graph.registry.outputs node.kind)).map
            fun (port : Nat) =>
            (graph.connections.filter (leaves node.id port)).map
            (·.target.nodeId)) ∧
      (∀ target ∈ compiled.listed, target ∈ compiled.nodes.keys) ∧
      compiled.listed.length = graph.connections.length ∧
      (graph.registry = .standard → compiled.listed.Nodup ∧
        ∀ node ∈ graph.nodes, node.kind = .trigger →
          node.id ∉ compiled.listed) ∧
      ∃ entries : List Entrypoint,
        (entries.map Entrypoint.nodeId).Pairwise (· < ·) ∧
        (∀ entry, entry ∈ entries ↔ ∃ node ∈ graph.nodes, ∃ properties,
          node.properties = .trigger properties ∧
          entry = ⟨node.id, properties.triggerType.val, properties.condition⟩) ∧
        compiled.entrypoints =
          (if singleEntry then entries.take 1 else entries) ∧
        ∃ first, compiled.entrypoints.head? = some first ∧
          compiled.startNode = some first.nodeId := by
  obtain ⟨hsound, htrigger, -, rfl⟩ := compile_eq_ok_iff.mp hcompile
  have hlisted := listed_perm hsound singleEntry
    ⟨time, version, warningTexts (graph.validate singleEntry)⟩
  rw [keys_flatten]
  refine ⟨graph.sortedIds_perm, graph.sortedIds_increasing, ?nodes, ?known,
    ?all, ?standard,
    graph.canonicalNodes.filterMap entrypointOf?, graph.entrypoints_increasing,
    fun entry => mem_entrypoints_iff, rfl, startNode_flatten htrigger _ _⟩
  case nodes =>
    intro node hnode
    refine ⟨graph.canonicalForm.compileNode node, ?_, rfl,
      graph.outputs_compileNode node⟩
    rw [find?_flatten, getNode?_of_mem hnode]
    rfl
  case known =>
    intro target htarget
    obtain ⟨connection, hmem, rfl⟩ :=
      List.mem_map.mp (hlisted.mem_iff.mp htarget)
    obtain ⟨node, hnode, -⟩ := hsound.ends connection hmem .input
    exact graph.sortedIds_perm.mem_iff.mpr
      (List.mem_map.mpr ⟨node, mem_of_getNode? hnode, id_of_getNode? hnode⟩)
  case all => rw [hlisted.length_eq, List.length_map]
  case standard =>
    intro hregistry
    refine ⟨hlisted.nodup_iff.mpr (hsound.nodup_targets hregistry), ?_⟩
    intro node hnode hkind htarget
    obtain ⟨connection, hmem, heq⟩ :=
      List.mem_map.mp (hlisted.mem_iff.mp htarget)
    have hfound : graph.getNode? connection.target.nodeId = some node := by
      rw [heq]
      exact getNode?_of_mem hnode
    exact (hsound.ends connection hmem .input).kind_ne_trigger hregistry
      hfound hkind

/-- A trigger whose output port leads to two nodes, which have been connected in
the opposite order of their ids. -/
def fork : Graph :=
  ⟨"fork", "", .standard,
    [⟨"right", .origin, .action .initial, by decide⟩,
      ⟨"left", .origin, .action .initial, by decide⟩,
      ⟨"begin", .origin, .trigger .initial, by decide⟩],
    [⟨"turnRight", ⟨"begin", 0, by decide⟩, ⟨"right", 0, by decide⟩, by decide⟩,
      ⟨"turnLeft", ⟨"begin", 0, by decide⟩, ⟨"left", 0, by decide⟩, by decide⟩],
    by decide, by decide⟩

theorem fork_complete :
    ∃ compiled, fork.compile "1.0" true noon = .ok compiled ∧
      compiled.nodes.keys.Perm ["right", "left", "begin"] ∧
        compiled.nodes.keys.Pairwise (· < ·) ∧
      (compiled.nodes.find? "begin").map CompiledNode.outputs =
        some [["right", "left"]] ∧
      compiled.listed.Nodup ∧ compiled.listed.length = 2 := by
  obtain ⟨compiled, hcompile⟩ :
      ∃ compiled, fork.compile "1.0" true noon = .ok compiled :=
    ⟨_, compile_eq_ok_iff.mpr
      ⟨by decide +kernel, by decide +kernel, by decide +kernel, rfl⟩⟩
  obtain ⟨hkeys, hsorted, hnodes, -, hlength, hstandard, -⟩ :=
    compile_complete hcompile
  obtain ⟨compiledNode, hfound, -, houtputs⟩ :=
    hnodes ⟨"begin", .origin, .trigger .initial, by decide⟩ (by simp [fork])
  refine ⟨compiled, hcompile, hkeys, hsorted, ?_, (hstandard rfl).1, hlength⟩
  rw [hfound, Option.map_some, houtputs]
  decide +kernel

end Graph

end StoryGraph
