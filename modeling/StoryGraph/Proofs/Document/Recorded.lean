import StoryGraph.Document
import StoryGraph.Proofs.Graph.Compiled
import StoryGraph.Proofs.Graph.Registered
import StoryGraph.Proofs.Node.Recorded
import StoryGraph.Proofs.Shape

/-!
# What a graph document holds

The document of a graph and a context is read as the same graph with its nodes
in canonical order and as documents hold them, and as the same context with its
variables and flags in the order of their names.
-/

namespace StoryGraph

/-! ## The graph and the context of a document -/

namespace Graph

theorem ids_recorded (nodes : List Node) :
    (nodes.map Node.recorded).map Node.id = nodes.map Node.id := by
  rw [List.map_map]
  rfl

/-- The graph as it is read from its document. -/
def recorded (graph : Graph) : Graph :=
  { graph with
    nodes := graph.canonicalNodes.map Node.recorded
    distinct := by
      rw [ids_recorded]
      exact graph.canonicalForm.distinct }

theorem getNode?_recorded (graph : Graph) (nodeId : String) :
    graph.recorded.getNode? nodeId =
      (graph.getNode? nodeId).map Node.recorded := by
  have hmap : graph.recorded.getNode? nodeId =
      (graph.canonicalForm.getNode? nodeId).map Node.recorded := List.find?_map
  rw [hmap, getNode?_canonicalForm]

theorem canonicalNodes_recorded (graph : Graph) :
    graph.recorded.canonicalNodes = graph.canonicalNodes.map Node.recorded := by
  apply List.mergeSort_of_pairwise
  rw [recorded, List.pairwise_map]
  exact List.pairwise_mergeSort nodeOrder_trans nodeOrder_total graph.nodes

end Graph

/-- The context as it is read from a document. -/
def Context.recorded (context : Context) : Context :=
  ⟨context.values.sorted, context.flags.sorted, .empty⟩

/-! ## Reading the parts of a document -/

/-- A table as pairs in the order of its entries. -/
def Table.pairs (table : Table Value) : Value :=
  .list (table.entries.map fun entry => .list [.str entry.1, entry.2])

theorem sortedPairs_entries (table : Table Value) :
    sortedPairs table.entries = table.sorted.pairs := rfl

namespace GraphDocument

/-- The fields of a node's object in a document. -/
def nodeTable (graph : Graph) (node : Node) : Table Value :=
  match nodeObject graph node with
  | .dict fields => .ofList fields
  | _ => .empty

theorem table_nodeObject (graph : Graph) (node : Node) :
    Check.table .any (nodeObject graph node) =
      .accepted (nodeTable graph node) :=
  Check.table_any _

/-- What the document of a graph and a context says. -/
def ofGraph (version : String) (graph : Graph)
    (context : Context) : GraphDocument :=
  ⟨version, ⟨graph.id, graph.named⟩, graph.name,
    graph.canonicalNodes.map fun node => (node.id, nodeTable graph node),
    graph.connections, context.values.sorted.entries,
    context.flags.sorted.entries⟩

theorem list_values (values : Table Value) :
    Check.list (.pair .text .any) (sortedPairs values.entries) =
      .accepted values.sorted.entries :=
  Check.list_pairs (fun _ => rfl) values.sorted.entries

theorem list_flags (flags : Table Bool) :
    Check.list (.pair .text .boolean)
      (sortedPairs (flags.map Value.bool).entries) =
      .accepted flags.sorted.entries := by
  rw [sortedPairs_entries, Table.sorted_map, Table.pairs, Table.entries_map,
    List.map_map]
  exact @Check.list_pairs _ .boolean Value.bool (fun _ => rfl)
    flags.sorted.entries

theorem check_graphDocument (version : String) (graph : Graph)
    (context : Context) :
    check (graphDocument version graph context) =
      .accepted (ofGraph version graph context) := by
  have hfilled := Check.filled_val ⟨graph.id, graph.named⟩
  have hnodes :
      Check.list (.pair .text (.table .any))
        (.list (graph.canonicalNodes.map fun node =>
          .list [.str node.id, nodeObject graph node])) =
            .accepted (graph.canonicalNodes.map fun node =>
              (node.id, nodeTable graph node)) :=
    Check.list_map fun node _ =>
      Check.pair_accepted rfl (table_nodeObject graph node)
  have hconnections : Check.list Connection.check
      (.list (graph.connections.map fun connection => .dict connection.dump)) =
        .accepted graph.connections := by
    rw [Check.list_map fun connection _ => connection.check_dump, List.map_id']
  -- No key of the document is unknown, and each is checked as the field of its
  -- name.
  have hread : check (graphDocument version graph context) =
      (mk <$> .accepted version
        <*> (Check.filled (.str graph.id)).under (.key "id")
        <*> .accepted graph.name
        <*> (Check.list (.pair .text (.table .any))
          (.list (graph.canonicalNodes.map fun node =>
            .list [.str node.id, nodeObject graph node]))).under (.key "nodes")
        <*> (Check.list Connection.check
          (.list (graph.connections.map fun connection =>
            .dict connection.dump))).under (.key "connections")
        <*> (Check.list (.pair .text .any)
          (sortedPairs context.values.entries)).under (.key "variables")
        <*> (Check.list (.pair .text .boolean)
          (sortedPairs (context.flags.map Value.bool).entries)).under
            (.key "flags"))
        <* Checked.accepted () := rfl
  rw [hread, hfilled, hnodes, hconnections, list_values, list_flags]
  rfl

/-! ## Rebuilding the graph -/

/-- Only the derived keys are left out of a node's object. -/
theorem nodeFields_nodeTable (graph : Graph) (node : Node) :
    nodeFields node.id (nodeTable graph node).entries = node.dump := by
  have hentries : (nodeTable graph node).entries = node.dump ++ _ :=
    Table.entries_ofList (by
      have hkeys :
          (["id", "position", "type", "properties", "inputs",
            "outputs"]).Nodup := by
        decide
      exact hkeys)
  rw [hentries]
  rfl

theorem readNode_nodeTable (graph : Graph) (node : Node) :
    readNode node.id (nodeTable graph node).entries = .ok node.recorded := by
  have hid : node.recorded.id = node.id := rfl
  rw [readNode, nodeFields_nodeTable, Node.check_dump]
  simp only [hid, if_true]

theorem readNodes_map (graph : Graph) (nodes : List Node) :
    readNodes (nodes.map fun node => (node.id, nodeTable graph node)) =
      .ok (nodes.map Node.recorded) := by
  induction nodes with
  | nil => rfl
  | cons node rest ih =>
    rw [List.map_cons, readNodes, readNode_nodeTable]
    simp only [ih]
    rfl

/-- Nodes of registered kinds and with ids of their own are all added. -/
theorem addNodes_eq_ok {nodes : List Node} {graph : Graph}
    (hregistered : ∀ node ∈ nodes,
      (graph.registry.find? node.kind).isSome = true)
    (hdistinct : ((graph.nodes ++ nodes).map Node.id).Nodup) :
    addNodes graph nodes =
      .ok { graph with
        nodes := graph.nodes ++ nodes, distinct := hdistinct } := by
  induction nodes generalizing graph with
  | nil => simp only [addNodes, List.append_nil]
  | cons node rest ih =>
    have hnew : node.id ∉ graph.nodes.map Node.id := by
      rw [List.map_append, List.nodup_append] at hdistinct
      intro hmem
      exact hdistinct.2.2 node.id hmem node.id (by simp) rfl
    have hadd : graph.addNode node = .ok (graph.append node hnew) := by
      obtain ⟨spec, hspec⟩ :=
        Option.isSome_iff_exists.mp (hregistered node List.mem_cons_self)
      rw [Graph.addNode, hspec]
      simp only [hnew, dite_false]
    rw [addNodes, hadd]
    simp only
    rw [@ih (graph.append node hnew)
      (fun other hother => hregistered other (List.mem_cons_of_mem _ hother))
      (by simpa [Graph.append] using hdistinct)]
    simp only [Graph.append, List.append_assoc, List.singleton_append]

theorem toGraph_eq_ok {document : GraphDocument} {registry : Registry}
    {nodes : List Node} {start later : Graph}
    (hread : readNodes document.nodes = .ok nodes)
    (hadd : addNodes (Graph.empty document.id.val document.name registry
      document.id.property) nodes = .ok start)
    (hconnect : start.addConnections document.connections = .ok later) :
    document.toGraph registry = .ok later := by
  rw [toGraph, hread]
  simp only [hadd, hconnect]
  rfl

/-- The graph that is rebuilt from the document of a graph. -/
theorem toGraph_ofGraph {graph : Graph} (hregistered : graph.Registered)
    (hdistinct : (graph.connections.map Connection.id).Nodup) (version : String)
    (context : Context) :
    (ofGraph version graph context).toGraph graph.registry =
      .ok graph.recorded := by
  have hkinds : ∀ node ∈ graph.recorded.nodes,
      (graph.registry.find? node.kind).isSome = true := by
    intro node hmem
    obtain ⟨original, horiginal, rfl⟩ := List.mem_map.mp hmem
    rw [Node.kind_recorded]
    exact hregistered original (graph.canonicalNodes_perm.mem_iff.mp horiginal)
  have hadd :
      addNodes (Graph.empty graph.id graph.name graph.registry graph.named)
        graph.recorded.nodes = .ok { graph.recorded with connections := [] } :=
    @addNodes_eq_ok _ (Graph.empty graph.id graph.name graph.registry
      graph.named) hkinds
      graph.recorded.distinct
  obtain ⟨later, hlater⟩ := @Graph.addConnections_eq_ok graph.connections
    { graph.recorded with connections := [] } hdistinct
  rw [Graph.eq_of_addConnections hlater] at hlater
  exact toGraph_eq_ok (readNodes_map graph graph.canonicalNodes) hadd hlater

theorem toContext_ofGraph (version : String) (graph : Graph)
    (context : Context) :
    (ofGraph version graph context).toContext = context.recorded := by
  rw [toContext, ofGraph, Context.recorded, Table.ofList_entries,
    Table.ofList_entries]

end GraphDocument

/-! ## Writing what has been read -/

namespace Graph

/-- Whether the free-form values, as documents hold them, are plain data. -/
def HasPlainData (graph : Graph) : Prop :=
  ∀ node ∈ graph.nodes, ∀ value ∈ node.properties.freeValues,
    value.toData.isPlainData = true

instance (graph : Graph) : Decidable graph.HasPlainData :=
  inferInstanceAs
    (Decidable (∀ node ∈ graph.nodes, ∀ value ∈ node.properties.freeValues, _))

variable {graph : Graph}

theorem HasPlainData.dump_recorded (hplain : graph.HasPlainData) {node : Node}
    (hmem : node ∈ graph.canonicalNodes) : node.recorded.dump = node.dump :=
  Node.dump_recorded (hplain node (graph.canonicalNodes_perm.mem_iff.mp hmem))

/-- What is read of the document of a graph has the signature of the graph. -/
theorem signature_recorded (hplain : graph.HasPlainData) :
    graph.recorded.signature = graph.signature := by
  have hnodes : graph.recorded.canonicalNodes.map nodeSignature =
      graph.canonicalNodes.map nodeSignature := by
    rw [canonicalNodes_recorded, List.map_map]
    apply List.map_congr_left
    intro node hmem
    have hdump : node.recorded.properties.dump = node.properties.dump :=
      Properties.dump_recorded
        (hplain node (graph.canonicalNodes_perm.mem_iff.mp hmem))
    rw [Function.comp_apply, nodeSignature, nodeSignature, hdump,
      Node.kind_recorded]
    rfl
  rw [signature, signature, hnodes]
  rfl

/-- What is read of a document has the same document. -/
theorem graphDocument_recorded (hplain : graph.HasPlainData) (version : String)
    (context : Context) :
    graphDocument version graph.recorded context.recorded =
      graphDocument version graph context := by
  have hnodes :
      (graph.recorded.canonicalNodes.map fun node =>
        Value.list [.str node.id, nodeObject graph.recorded node]) =
          graph.canonicalNodes.map fun node =>
            .list [.str node.id, nodeObject graph node] := by
    rw [canonicalNodes_recorded, List.map_map]
    apply List.map_congr_left
    intro node hmem
    have hinputs : graph.recorded.inputSlots node.recorded =
        graph.inputSlots node := by
      rw [inputSlots, inputSlots, Node.kind_recorded]
      rfl
    have houtputs : graph.recorded.outputSlots node.recorded =
        graph.outputSlots node := by
      rw [outputSlots, outputSlots, Node.kind_recorded]
      rfl
    rw [Function.comp_apply, nodeObject, nodeObject, hinputs, houtputs,
      hplain.dump_recorded hmem]
    rfl
  have hvalues : sortedPairs context.recorded.values.entries =
      sortedPairs context.values.entries := by
    rw [Context.recorded, sortedPairs_entries, sortedPairs_entries,
      Table.sorted_sorted]
  have hflags : sortedPairs (context.recorded.flags.map Value.bool).entries =
      sortedPairs (context.flags.map Value.bool).entries := by
    rw [Context.recorded, sortedPairs_entries, sortedPairs_entries,
      Table.sorted_map, Table.sorted_sorted, Table.sorted_map]
  rw [graphDocument, graphDocument, hnodes, hvalues, hflags]
  rfl

end Graph

end StoryGraph
