import StoryGraph.Proofs.Distinct
import StoryGraph.Proofs.Graph.Canonical
import StoryGraph.Proofs.Sorted

/-!
# Sound graphs

In a sound graph every connection joins ports that exist, no input port is
bound twice, and connections have ids of their own.  Validation then finds
nothing that blocks compilation except that the graph may lack a trigger, so
that compilation is decided by the triggers and by what can be written.
-/

namespace StoryGraph

namespace Graph

/-- The graph has a node with the port that is named. -/
def HasPort (graph : Graph) (direction : Direction) (ref : PortRef) : Prop :=
  ∃ node, graph.getNode? ref.nodeId = some node ∧ 0 ≤ ref.port ∧
    ref.port < direction.count graph.registry node.kind

/-- Both ends of a connection are ports that exist. -/
def Fits (graph : Graph) (connection : Connection) : Prop :=
  ∀ direction : Direction, graph.HasPort direction (direction.endOf connection)

structure Sound (graph : Graph) : Prop where
  ends : ∀ connection ∈ graph.connections, ∀ direction : Direction,
    graph.HasPort direction (direction.endOf connection)
  single : (graph.connections.map boundPort).Nodup
  distinctIds : (graph.connections.map Connection.id).Nodup

/-- The graph has a node where activations can start. -/
def HasTrigger (graph : Graph) : Prop :=
  ∃ node ∈ graph.nodes, node.kind = .trigger

section Ends

variable {graph : Graph} {direction : Direction} {ref : PortRef}
  {connection : Connection}

theorem portInRange_iff {port : Int} {count : Nat} :
    portInRange port count = true ↔ 0 ≤ port ∧ port < count := by
  simp [portInRange]

theorem endIsValid_iff : graph.endIsValid direction connection = true ↔
    graph.HasPort direction (direction.endOf connection) := by
  simp only [endIsValid, HasPort]
  cases graph.getNode? (direction.endOf connection).nodeId with
  | none => simp
  | some node => simp [portInRange_iff]

theorem isValidConnection_iff :
    graph.isValidConnection connection = true ↔ graph.Fits connection := by
  rw [isValidConnection, Bool.and_eq_true, endIsValid_iff, endIsValid_iff]
  constructor
  · rintro ⟨hsource, htarget⟩ direction
    cases direction with
    | output => exact hsource
    | input => exact htarget
  · exact fun hfits => ⟨hfits .output, hfits .input⟩

theorem mem_validConnections_iff : connection ∈ graph.validConnections ↔
    connection ∈ graph.connections ∧ graph.Fits connection := by
  rw [validConnections, List.mem_filter, isValidConnection_iff]

theorem endFindings_eq_nil (position : Nat)
    (hport : graph.HasPort direction (direction.endOf connection)) :
    graph.endFindings position connection direction = [] := by
  obtain ⟨node, hnode, hrange⟩ := hport
  simp only [endFindings, hnode]
  rw [if_pos (portInRange_iff.mpr hrange)]

/-- Nodes are found under their ids. -/
theorem getNode?_of_mem {node : Node} (hmem : node ∈ graph.nodes) :
    graph.getNode? node.id = some node :=
  find?_of_distinct graph.distinct hmem

theorem mem_of_getNode? {nodeId : String} {node : Node}
    (hnode : graph.getNode? nodeId = some node) : node ∈ graph.nodes :=
  List.mem_of_find?_eq_some hnode

theorem id_of_getNode? {nodeId : String} {node : Node}
    (hnode : graph.getNode? nodeId = some node) : node.id = nodeId := by
  simpa using List.find?_some hnode

theorem getNode?_eq_none_iff {nodeId : String} :
    graph.getNode? nodeId = none ↔ ∀ node ∈ graph.nodes, node.id ≠ nodeId := by
  simp [getNode?]

end Ends

/-! ## Triggers -/

theorem sortedIds_perm (graph : Graph) :
    graph.sortedIds.Perm (graph.nodes.map Node.id) :=
  List.mergeSort_perm _ _

theorem sortedIds_increasing (graph : Graph) :
    graph.sortedIds.Pairwise (· < ·) :=
  mergeSort_strictly_increasing graph.distinct

theorem mem_triggers_iff {graph : Graph} {nodeId : String} :
    nodeId ∈ graph.triggers ↔ ∃ node ∈ graph.nodes, node.id = nodeId ∧
      node.kind = .trigger := by
  rw [triggers, List.mem_filter, sortedIds, List.mem_mergeSort, isTrigger]
  constructor
  · rintro ⟨_, htrigger⟩
    split at htrigger
    · next node hnode =>
      exact ⟨node, mem_of_getNode? hnode, id_of_getNode? hnode,
        eq_of_beq htrigger⟩
    · cases htrigger
  · rintro ⟨node, hmem, rfl, hkind⟩
    refine ⟨List.mem_map_of_mem hmem, ?_⟩
    rw [getNode?_of_mem hmem]
    exact beq_iff_eq.mpr hkind

theorem triggers_eq_nil_iff {graph : Graph} :
    graph.triggers = [] ↔ ¬ graph.HasTrigger := by
  rw [List.eq_nil_iff_forall_not_mem]
  constructor
  · rintro hnone ⟨node, hmem, hkind⟩
    exact hnone node.id (mem_triggers_iff.mpr ⟨node, hmem, rfl, hkind⟩)
  · rintro hnone nodeId hmem
    obtain ⟨node, hnode, -, hkind⟩ := mem_triggers_iff.mp hmem
    exact hnone ⟨node, hnode, hkind⟩

/-- Only a graph without triggers has a blocking finding about its start. -/
theorem blocking_startFindings (graph : Graph) (singleEntry : Bool) :
    (graph.startFindings singleEntry).filter Finding.isBlocking =
      if graph.triggers = [] then [.noStartNode] else [] := by
  unfold startFindings
  split
  · next hnone =>
    rw [if_pos hnone]
    rfl
  · next hone => simp [hone]
  · next hmany =>
    have hsome : graph.triggers ≠ [] := by simp [hmany]
    rw [if_neg hsome]
    split <;> rfl

theorem blocking_reachFindings (graph : Graph) :
    graph.reachFindings.filter Finding.isBlocking = [] := by
  rw [List.filter_eq_nil_iff, reachFindings]
  intro finding hfinding
  obtain ⟨nodeId, -, rfl⟩ := List.mem_map.mp hfinding
  simp [Finding.isBlocking, Finding.severity]

theorem blocking_actionFindings (graph : Graph) :
    graph.actionFindings.filter Finding.isBlocking = [] := by
  rw [List.filter_eq_nil_iff, actionFindings]
  intro finding hfinding
  obtain ⟨nodeId, -, hunknown⟩ := List.mem_filterMap.mp hfinding
  obtain ⟨actionType, -, rfl⟩ := Option.map_eq_some_iff.mp hunknown
  simp [Finding.isBlocking, Finding.severity]

theorem eq_of_mem_startFindings {graph : Graph} {singleEntry : Bool}
    {finding : Finding} (hfinding : finding ∈ graph.startFindings singleEntry) :
    finding = .noStartNode ∨ ∃ used ignored,
      finding = .ambiguousStart used ignored := by
  unfold startFindings at hfinding
  split at hfinding
  · exact .inl (List.mem_singleton.mp hfinding)
  · cases hfinding
  · split at hfinding
    · exact .inr ⟨_, _, List.mem_singleton.mp hfinding⟩
    · cases hfinding

/-- All connections are valid when their ends are ports that exist. -/
theorem validConnections_eq_self {graph : Graph}
    (hends : ∀ connection ∈ graph.connections, ∀ direction : Direction,
      graph.HasPort direction (direction.endOf connection)) :
    graph.validConnections = graph.connections := by
  rw [validConnections, List.filter_eq_self]
  exact fun connection hmem => isValidConnection_iff.mpr (hends connection hmem)

theorem sound_iff {graph : Graph} : graph.Sound ↔
    (∀ connection ∈ graph.connections,
      graph.isValidConnection connection = true) ∧
      (graph.connections.map boundPort).Nodup ∧
        (graph.connections.map Connection.id).Nodup := by
  simp only [isValidConnection_iff]
  constructor
  · rintro ⟨hends, hsingle, hdistinct⟩
    exact ⟨hends, hsingle, hdistinct⟩
  · rintro ⟨hvalid, hsingle, hdistinct⟩
    exact ⟨hvalid, hsingle, hdistinct⟩

instance (graph : Graph) : Decidable graph.Sound :=
  decidable_of_iff' _ sound_iff

instance (graph : Graph) : Decidable graph.HasTrigger :=
  inferInstanceAs (Decidable (∃ node ∈ graph.nodes, node.kind = .trigger))

/-! ## Validation of a sound graph -/

namespace Sound

variable {graph : Graph}

theorem validConnections_eq (hsound : graph.Sound) :
    graph.validConnections = graph.connections :=
  validConnections_eq_self hsound.ends

theorem bindingFindings_eq_nil (hsound : graph.Sound) :
    graph.bindingFindings = [] := by
  rw [bindingFindings, hsound.validConnections_eq, List.flatMap_eq_nil_iff]
  intro port _
  have hone := distinct_iff_length_filter_le_one.mp hsound.single port
  match hgroup : graph.connections.filter (boundPort · == port) with
  | [] => rfl
  | [_] => rfl
  | _ :: _ :: _ => simp [hgroup] at hone

/-- The connections of a sound graph have no finding except that they may lead
back to their own node. -/
theorem eq_selfLoop_of_mem (hsound : graph.Sound) {finding : Finding}
    (hfinding : finding ∈ graph.connectionFindings) :
    ∃ position connectionId nodeId,
      finding = .selfLoop position connectionId nodeId := by
  simp only [connectionFindings, List.mem_flatten, List.mem_mapIdx] at hfinding
  obtain ⟨findings, ⟨position, hposition, rfl⟩, hmem⟩ := hfinding
  have hconnection := List.getElem_mem hposition
  rw [endFindings_eq_nil position (hsound.ends _ hconnection .output),
    endFindings_eq_nil position (hsound.ends _ hconnection .input),
    selfLoopFindings] at hmem
  split at hmem
  · exact ⟨_, _, _, List.mem_singleton.mp hmem⟩
  · cases hmem

/-- All that is found about the nodes of a sound graph is that they are not
reached or that their action is unknown. -/
theorem mem_validate_iff_of_node (hsound : graph.Sound) {singleEntry : Bool}
    {finding : Finding}
    (hloop : ∀ position connectionId nodeId,
      finding ≠ .selfLoop position connectionId nodeId)
    (hnone : finding ≠ .noStartNode)
    (hmany : ∀ used ignored, finding ≠ .ambiguousStart used ignored) :
    finding ∈ graph.validate singleEntry ↔
      finding ∈ graph.reachFindings ∨ finding ∈ graph.actionFindings := by
  have hconnections : finding ∉ graph.connectionFindings := by
    intro hmem
    obtain ⟨position, connectionId, nodeId, heq⟩ :=
      hsound.eq_selfLoop_of_mem hmem
    exact hloop position connectionId nodeId heq
  have hstart : finding ∉ graph.startFindings singleEntry := by
    intro hmem
    rcases eq_of_mem_startFindings hmem with heq | ⟨used, ignored, heq⟩
    · exact hnone heq
    · exact hmany used ignored heq
  simp [validate, hconnections, hsound.bindingFindings_eq_nil, hstart]

/-- The only finding that can block a sound graph is that it has no trigger. -/
theorem blocking_validate (hsound : graph.Sound) (singleEntry : Bool) :
    (graph.validate singleEntry).filter Finding.isBlocking =
      if graph.triggers = [] then [.noStartNode] else [] := by
  have hconnections :
      graph.connectionFindings.filter Finding.isBlocking = [] := by
    rw [List.filter_eq_nil_iff]
    intro finding hfinding
    obtain ⟨_, _, _, rfl⟩ := hsound.eq_selfLoop_of_mem hfinding
    simp [Finding.isBlocking, Finding.severity]
  rw [validate, List.filter_append, List.filter_append, List.filter_append,
    List.filter_append, hconnections, hsound.bindingFindings_eq_nil,
    blocking_startFindings, blocking_reachFindings, blocking_actionFindings]
  simp

theorem eq_noStartNode_of_mem (hsound : graph.Sound) {singleEntry : Bool}
    {finding : Finding} (hfinding : finding ∈ graph.validate singleEntry)
    (hblocking : finding.isBlocking = true) : finding = .noStartNode := by
  have hmem := List.mem_filter.mpr ⟨hfinding, hblocking⟩
  rw [hsound.blocking_validate] at hmem
  split at hmem
  · exact List.mem_singleton.mp hmem
  · cases hmem

/-! ## Compilation of a sound graph -/

theorem ensureValid_ok (hsound : graph.Sound) (htrigger : graph.HasTrigger)
    (singleEntry : Bool) :
    graph.ensureValid singleEntry = .ok (graph.validate singleEntry) := by
  have hnone : (graph.validate singleEntry).any Finding.isBlocking = false := by
    rw [List.any_eq_false]
    intro finding hfinding hblocking
    have hmem := List.mem_filter.mpr ⟨hfinding, hblocking⟩
    rw [hsound.blocking_validate,
      if_neg (fun hnone => triggers_eq_nil_iff.mp hnone htrigger)]
      at hmem
    cases hmem
  simp [ensureValid, hnone]

/-- A sound graph with a trigger compiles if it can be written. -/
theorem compile_of_trigger (hsound : graph.Sound) (htrigger : graph.HasTrigger)
    (version : String) (singleEntry : Bool) (time : Timestamp) :
    graph.compile version singleEntry time =
      if graph.isWritable then
        .ok (graph.canonicalForm.flatten singleEntry
          ⟨time, version, warningTexts (graph.validate singleEntry)⟩)
      else .error (.unwritable .tooDeep) := by
  simp only [compile, hsound.ensureValid_ok htrigger,
    canonicalize_eq_ok hsound.distinctIds, written, canonicalForm_isWritable]
  split <;> rfl

/-- A graph without a trigger is refused for this reason only. -/
theorem compile_of_no_trigger (hsound : graph.Sound)
    (htrigger : ¬ graph.HasTrigger) (version : String) (singleEntry : Bool)
    (time : Timestamp) :
    ∃ findings, graph.compile version singleEntry time =
      .error (.invalid findings) ∧
      findings.filter Finding.isBlocking = [.noStartNode] := by
  have hblocking := hsound.blocking_validate singleEntry
  rw [if_pos (triggers_eq_nil_iff.mpr htrigger)] at hblocking
  have hany : (graph.validate singleEntry).any Finding.isBlocking = true := by
    have hmem : Finding.noStartNode ∈
        (graph.validate singleEntry).filter Finding.isBlocking := by
      simp [hblocking]
    exact List.any_eq_true.mpr ⟨_, List.mem_filter.mp hmem⟩
  refine ⟨graph.validate singleEntry, ?_, hblocking⟩
  simp [compile, ensureValid, hany]

end Sound

end Graph

end StoryGraph
