import StoryGraph.Proofs.Document.Recorded
import StoryGraph.Proofs.Graph.Signature

/-!
# Normal forms

Graphs that differ in the order of their nodes and of connections from different
output ports are reorderings of each other.  Among the reorderings of a graph
there is just one with its nodes in the order of their ids and its connections
in the order of their output ports.  Canonicalization finds it, so that it
changes nothing a second time and answers the same for all reorderings.
-/

namespace StoryGraph

namespace Graph

/-! ## Reorderings -/

/-- The same nodes in any order, and the same connections in an order that is
the same for each output port. -/
structure Reorders (other graph : Graph) : Prop where
  id : other.id = graph.id
  name : other.name = graph.name
  registry : other.registry = graph.registry
  nodes : other.nodes.Perm graph.nodes
  connections : other.connections.Perm graph.connections
  order : ∀ nodeId port, other.connections.filter (leaves nodeId port) =
    graph.connections.filter (leaves nodeId port)

namespace Reorders

variable {first second third : Graph}

theorem trans (hfirst : first.Reorders second)
    (hsecond : second.Reorders third) : first.Reorders third where
  id := hfirst.id.trans hsecond.id
  name := hfirst.name.trans hsecond.name
  registry := hfirst.registry.trans hsecond.registry
  nodes := hfirst.nodes.trans hsecond.nodes
  connections := hfirst.connections.trans hsecond.connections
  order nodeId port :=
    (hfirst.order nodeId port).trans (hsecond.order nodeId port)

theorem rearranges
    (hreorders : first.Reorders second) : first.Rearranges second where
  id := hreorders.id
  name := hreorders.name
  registry := hreorders.registry
  nodes := hreorders.nodes.map entryOfNode
  connections := hreorders.connections
  order := hreorders.order

theorem distinct (hreorders : first.Reorders second)
    (hdistinct : (second.connections.map Connection.id).Nodup) :
    (first.connections.map Connection.id).Nodup :=
  (hreorders.connections.map Connection.id).nodup_iff.mpr hdistinct

/-- Reordering does not show in the signature. -/
theorem writtenSignature (hreorders : first.Reorders second) :
    first.writtenSignature = second.writtenSignature := by
  rw [Graph.writtenSignature, Graph.writtenSignature, written, written,
    hreorders.rearranges.isWritable,
    signature_eq_of_alike hreorders.rearranges.alike]

/-- Reordering does not show at the output ports of a node. -/
theorem outputSlots (hreorders : first.Reorders second) (node : Node) :
    first.outputSlots node = second.outputSlots node := by
  rw [Graph.outputSlots, Graph.outputSlots, hreorders.registry]
  apply List.map_congr_left
  intro port _
  calc (first.outgoing node.id).filter (·.source.port == (port : Int))
      = first.connections.filter (leaves node.id port) :=
        first.filter_outgoing node.id port
    _ = second.connections.filter (leaves node.id port) :=
      hreorders.order node.id port
    _ = (second.outgoing node.id).filter (·.source.port == (port : Int)) :=
        (second.filter_outgoing node.id port).symm

end Reorders

/-! ## Normal forms -/

/-- A reordering with its nodes in the order of their ids and its connections in
the order of the ports that they leave. -/
structure IsNormalFormOf (normal graph : Graph) :
    Prop extends normal.Reorders graph where
  increasing : (normal.nodes.map Node.id).Pairwise (· < ·)
  ordered : normal.connections.Pairwise fun first second =>
    first.source.nodeId < second.source.nodeId ∨
      first.source.nodeId = second.source.nodeId ∧
        first.source.port ≤ second.source.port

theorem portOrder_iff {first second : Connection} :
    portOrder first second = true ↔
    first.source.nodeId < second.source.nodeId ∨
      first.source.nodeId = second.source.nodeId ∧
        first.source.port ≤ second.source.port := by
  unfold portOrder
  grind

theorem canonicalForm_isNormalFormOf (graph : Graph) :
    graph.canonicalForm.IsNormalFormOf graph where
  id := rfl
  name := rfl
  registry := rfl
  nodes := graph.canonicalNodes_perm
  connections := graph.canonicalConnections_perm
  order nodeId port := graph.filter_canonicalConnections nodeId port
  increasing := graph.map_id_canonicalNodes ▸ graph.sortedIds_increasing
  ordered :=
    (List.pairwise_mergeSort portOrder_trans portOrder_total
      graph.connections).imp
      portOrder_iff.mp

namespace IsNormalFormOf

variable {first second normal graph other : Graph}

theorem nodes_eq (hfirst : first.IsNormalFormOf graph)
    (hsecond : second.IsNormalFormOf graph) : first.nodes = second.nodes := by
  apply List.Perm.eq_of_pairwise _ (List.pairwise_map.mp hfirst.increasing)
    (List.pairwise_map.mp hsecond.increasing)
    (hfirst.nodes.trans hsecond.nodes.symm)
  intro node later _ _ hlt hgt
  exact absurd (String.lt_trans hlt hgt) (String.lt_irrefl node.id)

theorem connections_eq (hfirst : first.IsNormalFormOf graph)
    (hsecond : second.IsNormalFormOf graph) :
    first.connections = second.connections := by
  apply eq_of_filter_eq leftPort_eq_of_portOrder
    (hfirst.ordered.imp portOrder_iff.mpr)
    (hsecond.ordered.imp portOrder_iff.mpr)
  rintro ⟨nodeId, port⟩
  exact (hfirst.order nodeId port).trans (hsecond.order nodeId port).symm

/-- A graph has one normal form. -/
theorem unique (hfirst : first.IsNormalFormOf graph)
    (hsecond : second.IsNormalFormOf graph) : first = second := by
  have hid := hfirst.id.trans hsecond.id.symm
  have hname := hfirst.name.trans hsecond.name.symm
  have hregistry := hfirst.registry.trans hsecond.registry.symm
  have hnodes := hfirst.nodes_eq hsecond
  have hconnections := hfirst.connections_eq hsecond
  cases first
  cases second
  cases hid
  cases hname
  cases hregistry
  cases hnodes
  cases hconnections
  rfl

/-- Reorderings have the same normal form. -/
theorem of_reorders (hnormal : normal.IsNormalFormOf other)
    (hreorders : other.Reorders graph) : normal.IsNormalFormOf graph :=
  ⟨hnormal.toReorders.trans hreorders, hnormal.increasing, hnormal.ordered⟩

end IsNormalFormOf

theorem Reorders.canonicalForm {other graph : Graph}
    (hreorders : other.Reorders graph) :
    other.canonicalForm = graph.canonicalForm :=
  (other.canonicalForm_isNormalFormOf.of_reorders hreorders).unique
    graph.canonicalForm_isNormalFormOf

/-! ## Sorting by position -/

/-- Order by source node, by source port and by position. -/
def placedOrder (first second : Connection × Nat) : Bool :=
  if first.1.source.nodeId = second.1.source.nodeId then
    if first.1.source.port = second.1.source.port then first.2 ≤ second.2
    else first.1.source.port ≤ second.1.source.port
  else first.1.source.nodeId ≤ second.1.source.nodeId

theorem placedOrder_trans (first second third : Connection × Nat)
    (hfirst : placedOrder first second = true)
    (hsecond : placedOrder second third = true) :
    placedOrder first third = true := by
  unfold placedOrder at *
  grind

theorem placedOrder_total (first second : Connection × Nat) :
    (placedOrder first second || placedOrder second first) = true := by
  unfold placedOrder
  grind

theorem portOrder_of_placedOrder {first second : Connection × Nat}
    (horder : placedOrder first second = true) :
    portOrder first.1 second.1 = true := by
  unfold placedOrder at horder
  unfold portOrder
  grind

theorem le_of_placedOrder {first second : Connection × Nat} {nodeId : String}
    {port : Int} (horder : placedOrder first second = true)
    (hfirst : leaves nodeId port first.1 = true)
    (hsecond : leaves nodeId port second.1 = true) : first.2 ≤ second.2 := by
  simp only [leaves, Bool.and_eq_true, beq_iff_eq] at hfirst hsecond
  simpa [placedOrder, hfirst, hsecond] using horder

/-- Connections that leave one port come in the order of their positions. -/
theorem filter_placedOrder (connections : List Connection) (nodeId : String)
    (port : Int) :
    (connections.zipIdx.mergeSort placedOrder).filter (leaves nodeId port ·.1) =
      connections.zipIdx.filter (leaves nodeId port ·.1) := by
  have hpositions := positions_increasing connections
  have hsorted :
      ((connections.zipIdx.mergeSort placedOrder).filter
        (leaves nodeId port ·.1)).Pairwise fun first second =>
          first.2 ≤ second.2 := by
    rw [List.pairwise_filter]
    exact (List.pairwise_mergeSort placedOrder_trans placedOrder_total _).imp
      fun horder hfirst hsecond => le_of_placedOrder horder hfirst hsecond
  have hplaced : (connections.zipIdx.filter (leaves nodeId port ·.1)).Pairwise
      fun first second => first.2 ≤ second.2 :=
    ((List.pairwise_map.mp hpositions).filter _).imp Nat.le_of_lt
  apply List.Perm.eq_of_pairwise _ hsorted hplaced
    ((List.mergeSort_perm _ _).filter _)
  intro first second hfirst hsecond hle hge
  have hfirst :=
    (List.mergeSort_perm _ _).mem_iff.mp (List.mem_filter.mp hfirst).1
  exact eq_of_distinct (hpositions.imp Nat.ne_of_lt) hfirst
    (List.mem_filter.mp hsecond).1 (Nat.le_antisymm hle hge)

/-- A stable sort by ports is a sort by ports and positions. -/
theorem canonicalConnections_eq_placed (graph : Graph) :
    graph.canonicalConnections =
      (graph.connections.zipIdx.mergeSort placedOrder).map Prod.fst := by
  have hsorted :
      ((graph.connections.zipIdx.mergeSort placedOrder).map Prod.fst).Pairwise
        fun first second => portOrder first second = true :=
    List.pairwise_map.mpr
      ((List.pairwise_mergeSort placedOrder_trans placedOrder_total _).imp
        portOrder_of_placedOrder)
  apply eq_of_filter_eq leftPort_eq_of_portOrder
    (List.pairwise_mergeSort portOrder_trans portOrder_total graph.connections)
    hsorted
  rintro ⟨nodeId, port⟩
  calc graph.canonicalConnections.filter (leaves nodeId port)
      = graph.connections.filter (leaves nodeId port) :=
        graph.filter_canonicalConnections nodeId port
    _ = (graph.connections.zipIdx.map Prod.fst).filter
        (leaves nodeId port) := by
          rw [List.zipIdx_map_fst]
    _ = (graph.connections.zipIdx.filter (leaves nodeId port ·.1)).map
        Prod.fst :=
          List.filter_map
    _ = ((graph.connections.zipIdx.mergeSort placedOrder).filter
          (leaves nodeId port ·.1)).map Prod.fst := by
        rw [filter_placedOrder]
    _ = ((graph.connections.zipIdx.mergeSort placedOrder).map Prod.fst).filter
          (leaves nodeId port) := by
        rw [List.filter_map]
        rfl

/-! ## Canonicalization -/

/-- The canonical form, put together from an empty graph: the nodes are added in
the order of their ids, then the connections in the order of their ports and
positions. -/
def rebuild (graph : Graph) : Except AuthoringError Graph :=
  match GraphDocument.addNodes
    (empty graph.id graph.name graph.registry graph.named)
      graph.canonicalNodes with
  | .error error => .error error
  | .ok shell =>
    shell.addConnections
      ((graph.connections.zipIdx.mergeSort placedOrder).map Prod.fst)

/-- The nodes of a graph can be added to another of the same registry. -/
theorem rebuild_eq_canonicalize {graph : Graph}
    (hregistered : graph.Registered) : graph.rebuild = graph.canonicalize := by
  have hkinds : ∀ node ∈ graph.canonicalNodes,
      (graph.registry.find? node.kind).isSome = true := fun node hmem =>
    hregistered node (graph.canonicalNodes_perm.mem_iff.mp hmem)
  have hshell :
      GraphDocument.addNodes (empty graph.id graph.name graph.registry
        graph.named) graph.canonicalNodes = .ok graph.canonicalShell :=
    @GraphDocument.addNodes_eq_ok
      _ (empty graph.id graph.name graph.registry graph.named) hkinds
      graph.canonicalShell.distinct
  rw [rebuild, hshell, canonicalize, canonicalConnections_eq_placed]

/-- A graph whose connections have ids of their own has one canonical form.  It
is a normal form of the graph, which canonicalization does not change, in which
neither the signature nor the output slots of a node differ, and which the
reorderings of the graph share. -/
theorem canonicalize_normal {graph : Graph}
    (hdistinct : (graph.connections.map Connection.id).Nodup) :
    ∃ canonical, graph.canonicalize = .ok canonical ∧
      (graph.Registered → graph.rebuild = .ok canonical) ∧
      canonical.IsNormalFormOf graph ∧
      canonical.canonicalize = .ok canonical ∧
      canonical.writtenSignature = graph.writtenSignature ∧
      (∀ nodeId, (canonical.getNode? nodeId).map canonical.outputSlots =
        (graph.getNode? nodeId).map graph.outputSlots) ∧
      ∀ other : Graph, other.Reorders graph →
        other.canonicalize = .ok canonical := by
  have hnormal := graph.canonicalForm_isNormalFormOf
  have hcanonical := canonicalize_eq_ok hdistinct
  have hshared : ∀ other : Graph, other.Reorders graph →
      other.canonicalize = .ok graph.canonicalForm := by
    intro other hreorders
    rw [canonicalize_eq_ok (hreorders.distinct hdistinct),
      hreorders.canonicalForm]
  refine ⟨graph.canonicalForm, hcanonical, fun hregistered => ?_, hnormal,
    hshared _ hnormal.toReorders, hnormal.writtenSignature, fun nodeId => ?_,
    hshared⟩
  · rw [rebuild_eq_canonicalize hregistered, hcanonical]
  · have hslots : graph.canonicalForm.outputSlots = graph.outputSlots :=
      funext hnormal.outputSlots
    rw [getNode?_canonicalForm, hslots]

/-- A trigger and two actions that are not in order.  Two connections leave the
same port, one a port that its node does not have, and one a node that does not
exist. -/
def canal : Graph :=
  ⟨"canal", "", .standard,
    [⟨"weir", .origin, .action .initial, by decide⟩,
      ⟨"quay", .origin, .trigger .initial, by decide⟩,
      ⟨"jetty", .origin, .action .initial, by decide⟩],
    [⟨"homeward", ⟨"weir", 0, by decide⟩, ⟨"jetty", 0, by decide⟩, by decide⟩,
      ⟨"beyond", ⟨"quay", 9, by decide⟩, ⟨"weir", 0, by decide⟩, by decide⟩,
      ⟨"swift", ⟨"quay", 0, by decide⟩, ⟨"weir", 0, by decide⟩, by decide⟩,
      ⟨"astray", ⟨"lagoon", 0, by decide⟩, ⟨"quay", 7, by decide⟩, by decide⟩,
      ⟨"slow", ⟨"quay", 0, by decide⟩, ⟨"jetty", 0, by decide⟩, by decide⟩],
    by decide, by decide⟩

/-- The normal form of `canal`. -/
def canalInOrder : Graph :=
  ⟨"canal", "", .standard, canal.nodes.reverse,
    [⟨"astray", ⟨"lagoon", 0, by decide⟩, ⟨"quay", 7, by decide⟩, by decide⟩,
      ⟨"swift", ⟨"quay", 0, by decide⟩, ⟨"weir", 0, by decide⟩, by decide⟩,
      ⟨"slow", ⟨"quay", 0, by decide⟩, ⟨"jetty", 0, by decide⟩, by decide⟩,
      ⟨"beyond", ⟨"quay", 9, by decide⟩, ⟨"weir", 0, by decide⟩, by decide⟩,
      ⟨"homeward", ⟨"weir", 0, by decide⟩, ⟨"jetty", 0, by decide⟩, by decide⟩],
    by decide, by decide⟩

theorem canalInOrder_isNormalFormOf : canalInOrder.IsNormalFormOf canal where
  id := rfl
  name := rfl
  registry := rfl
  nodes := List.reverse_perm _
  connections := by decide +kernel
  order nodeId port := by
    simp only [canalInOrder, canal, leaves, List.filter_cons, List.filter_nil]
    grind
  increasing := by decide +kernel
  ordered := by decide +kernel

theorem canal_canonical :
    canal.canonicalize = .ok canalInOrder ∧ canal.rebuild = .ok canalInOrder ∧
      canalInOrder.canonicalize = .ok canalInOrder := by
  obtain ⟨canonical, hcanonical, hrebuild, hnormal, -, -, -, hshared⟩ :=
    @canonicalize_normal canal (by decide)
  cases hnormal.unique canalInOrder_isNormalFormOf
  exact ⟨hcanonical, hrebuild (by decide +kernel),
    hshared canalInOrder canalInOrder_isNormalFormOf.toReorders⟩

end Graph

end StoryGraph
