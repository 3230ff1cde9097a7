import StoryGraph.Graph.Compile

/-!
# What compilation answers

The canonical form of a graph is either refused, because two connections share
an id, or it holds the same nodes and the same connections in another order.
Compilation flattens that form unless the graph has blocking findings or holds
something that cannot be written.
-/

namespace StoryGraph

namespace Graph

/-! ## The canonical form -/

/-- The canonical form, if it is not refused. -/
def canonicalForm (graph : Graph) : Graph :=
  { graph.canonicalShell with connections := graph.canonicalConnections }

/-- A connection is appended under an id that no other has. -/
theorem of_addConnection {graph later : Graph} {connection : Connection}
    (hadd : graph.addConnection connection = .ok later) :
    connection.id ∉ graph.connections.map Connection.id ∧
      later = { graph with
        connections := graph.connections ++ [connection] } := by
  unfold addConnection at hadd
  split at hadd
  · cases hadd
  · next hnew =>
    cases hadd
    refine ⟨fun hused => ?_, rfl⟩
    obtain ⟨old, hold, heq⟩ := List.mem_map.mp hused
    exact hnew (List.any_eq_true.mpr ⟨old, hold, beq_iff_eq.mpr heq⟩)

/-- Appending connections one by one appends them all, if it is not refused. -/
theorem eq_of_addConnections {connections : List Connection}
    {graph later : Graph}
    (hadd : graph.addConnections connections = .ok later) :
    later = { graph with connections := graph.connections ++ connections } := by
  induction connections generalizing graph with
  | nil =>
    cases hadd
    rw [List.append_nil]
  | cons connection rest ih =>
    rw [addConnections] at hadd
    split at hadd
    · next next hnext =>
      obtain ⟨-, rfl⟩ := of_addConnection hnext
      rw [ih hadd, List.append_assoc, List.singleton_append]
    · cases hadd

/-- Connections with ids of their own are not refused. -/
theorem addConnections_eq_ok {connections : List Connection} {graph : Graph}
    (hdistinct : ((graph.connections ++ connections).map Connection.id).Nodup) :
    ∃ later, graph.addConnections connections = .ok later := by
  induction connections generalizing graph with
  | nil => exact ⟨graph, rfl⟩
  | cons connection rest ih =>
    have hnew : graph.connections.any (·.id == connection.id) = false := by
      rw [List.map_append, List.nodup_append] at hdistinct
      rw [List.any_eq_false]
      intro old hold heq
      exact hdistinct.2.2 old.id (List.mem_map_of_mem hold)
        connection.id (by simp) (eq_of_beq heq)
    obtain ⟨later, hlater⟩ :=
      @ih { graph with connections := graph.connections ++ [connection] }
        (by simpa using hdistinct)
    refine ⟨later, ?_⟩
    rw [addConnections, addConnection, hnew]
    exact hlater

theorem eq_of_canonicalize {graph canonical : Graph}
    (hcanonical : graph.canonicalize = .ok canonical) :
    canonical = graph.canonicalForm :=
  eq_of_addConnections hcanonical

theorem canonicalConnections_perm (graph : Graph) :
    graph.canonicalConnections.Perm graph.connections :=
  List.mergeSort_perm graph.connections portOrder

theorem canonicalNodes_perm (graph : Graph) :
    graph.canonicalNodes.Perm graph.nodes :=
  List.mergeSort_perm graph.nodes nodeOrder

theorem map_id_canonicalNodes (graph : Graph) :
    graph.canonicalNodes.map Node.id = graph.sortedIds :=
  List.map_mergeSort fun _ _ _ _ => rfl

theorem nodeOrder_trans (first second third : Node)
    (hfirst : nodeOrder first second = true)
    (hsecond : nodeOrder second third = true) :
    nodeOrder first third = true := by
  simp only [nodeOrder, decide_eq_true_eq] at *
  exact String.le_trans hfirst hsecond

theorem nodeOrder_total (first second : Node) :
    (nodeOrder first second || nodeOrder second first) = true := by
  simp only [nodeOrder, Bool.or_eq_true, decide_eq_true_eq]
  exact String.le_total first.id second.id

theorem canonicalize_eq_ok {graph : Graph}
    (hdistinct : (graph.connections.map Connection.id).Nodup) :
    graph.canonicalize = .ok graph.canonicalForm := by
  have hsorted :
      ((graph.canonicalShell.connections ++ graph.canonicalConnections).map
        Connection.id).Nodup :=
    ((graph.canonicalConnections_perm.map _).nodup_iff).mpr hdistinct
  obtain ⟨canonical, hcanonical⟩ := addConnections_eq_ok hsorted
  rw [canonicalize, hcanonical, eq_of_canonicalize hcanonical]

/-- Nodes and connections that are in order stay as they are. -/
theorem canonicalForm_eq_self {graph : Graph}
    (hnodes : graph.nodes.Pairwise fun first second =>
      nodeOrder first second = true)
    (hconnections : graph.connections.Pairwise fun first second =>
      portOrder first second = true) : graph.canonicalForm = graph := by
  have hsorted : graph.canonicalNodes = graph.nodes :=
    List.mergeSort_of_pairwise hnodes
  have hgrouped : graph.canonicalConnections = graph.connections :=
    List.mergeSort_of_pairwise hconnections
  cases graph
  simp only [canonicalForm, canonicalShell, hsorted, hgrouped]

theorem canonicalForm_isWritable (graph : Graph) :
    graph.canonicalForm.isWritable = graph.isWritable :=
  graph.canonicalNodes_perm.all_eq

/-! ## Compilation -/

/-- A compiled graph is the flattened canonical form. -/
theorem compile_eq_ok {graph : Graph} {version : String} {singleEntry : Bool}
    {time : Timestamp} {compiled : CompiledGraph}
    (hcompile : graph.compile version singleEntry time = .ok compiled) :
    ∃ findings, graph.ensureValid singleEntry = .ok findings ∧
      compiled =
        graph.canonicalForm.flatten singleEntry
          ⟨time, version, warningTexts findings⟩ := by
  rw [compile] at hcompile
  split at hcompile
  · cases hcompile
  · next findings hvalid =>
    refine ⟨findings, hvalid, ?_⟩
    split at hcompile
    · cases hcompile
    · next canonical hcanonical =>
      rw [eq_of_canonicalize hcanonical, written] at hcompile
      split at hcompile
      · exact (Except.ok.inj hcompile).symm
      · cases hcompile

end Graph

end StoryGraph
