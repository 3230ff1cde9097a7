import StoryGraph.Proofs.Graph.Editing
import StoryGraph.Proofs.Graph.Faults

/-!
# Deleting nodes

A deletion takes a node and the connections that touch it out of a graph and
leaves everything else as it was.  What validation finds wrong with a connection
that is left it has found before, though perhaps at a later position and beside
another earlier binding of the port.
-/

namespace StoryGraph

namespace Graph

/-! ## Fewer connections on nodes that stay -/

theorem mem_validate_iff_of_isBlocking {graph : Graph} {singleEntry : Bool}
    {finding : Finding} (hblocking : finding.isBlocking = true)
    (hstart : finding ≠ .noStartNode) :
    finding ∈ graph.validate singleEntry ↔
      finding ∈ graph.connectionFindings ∨ finding ∈ graph.bindingFindings := by
  have hfilter : finding ∈ graph.validate singleEntry ↔
      finding ∈ (graph.validate singleEntry).filter Finding.isBlocking := by
    rw [List.mem_filter, hblocking, and_iff_left rfl]
  simp only [hfilter, filter_isBlocking_validate, List.mem_append,
    List.mem_filter, hblocking, List.mem_ite_nil_right, List.mem_singleton,
    hstart, and_true, and_false, or_false]

/-- A finding about the ends of connections is found at one of them. -/
theorem mem_validate_iff_mem_endFindings {graph : Graph} {singleEntry : Bool}
    {finding : Finding}
    (hcode : finding.code = "DANGLING_EDGE" ∨
      finding.code = "PORT_ARITY_VIOLATION") :
    finding ∈ graph.validate singleEntry ↔
      ∃ position connection direction,
        graph.connections[position]? = some connection ∧
        finding ∈ graph.endFindings position connection direction := by
  have hbinding : finding ∉ graph.bindingFindings := by
    intro hmem
    simp [code_of_mem_bindingFindings hmem] at hcode
  have hblocking : finding.isBlocking = true := by
    cases finding <;> simp [Finding.code] at hcode <;> rfl
  have hstart : finding ≠ .noStartNode := by
    rintro rfl
    simp [Finding.code] at hcode
  rw [mem_validate_iff_of_isBlocking hblocking hstart, or_iff_left hbinding,
    mem_connectionFindings_iff]
  constructor
  · rintro ⟨position, connection, hconnection, ⟨direction, hend⟩ | hloop⟩
    · exact ⟨position, connection, direction, hconnection, hend⟩
    · obtain ⟨_, _, rfl⟩ := eq_selfLoop_of_mem_selfLoopFindings hloop
      simp [Finding.code] at hcode
  · rintro ⟨position, connection, direction, hconnection, hend⟩
    exact ⟨position, connection, hconnection, .inl ⟨direction, hend⟩⟩

/-- An item comes after the first one exactly when some other item comes before
it. -/
theorem exists_tail_iff_exists_sublist {α : Type} {items : List α} {extra : α} :
    (∃ first extras, items = first :: extras ∧ extra ∈ extras) ↔
      ∃ before, [before, extra].Sublist items := by
  constructor
  · rintro ⟨first, extras, rfl, hextra⟩
    exact ⟨first, (List.singleton_sublist.mpr hextra).cons_cons first⟩
  · rintro ⟨before, hpair⟩
    cases hpair with
    | cons first hrest => exact ⟨first, _, rfl, hrest.subset (by simp)⟩
    | cons_cons _ hrest =>
      exact ⟨before, _, rfl, List.singleton_sublist.mp hrest⟩

/-- A connection is reported for binding a port again when a fitting connection
before it binds that port. -/
theorem exists_duplicateBinding_mem_validate_iff {graph : Graph}
    {singleEntry : Bool} {extraId nodeId : String} {port : Int} :
    (∃ position firstId,
      .duplicateBinding position firstId extraId nodeId port ∈
        graph.validate singleEntry) ↔
      ∃ before extra, [before, extra].Sublist
        (graph.validConnections.filter (boundPort · == (nodeId, port))) ∧
        extra.id = extraId := by
  have hfindings (position : Nat) (firstId : String) :
      .duplicateBinding position firstId extraId nodeId port ∈
        graph.validate singleEntry ↔
        .duplicateBinding position firstId extraId nodeId port ∈
          graph.bindingFindings := by
    rw [mem_validate_iff_of_isBlocking rfl (by simp), or_iff_right]
    intro hmem
    simpa [Finding.code] using code_of_mem_connectionFindings hmem
  simp only [hfindings, bindingFindings, List.mem_flatMap,
    mem_groupFindings_iff]
  constructor
  · rintro ⟨_, _, bound, -, first, extra, ⟨extras, hgroup, hextra⟩, heq⟩
    obtain ⟨-, -, rfl, rfl, rfl⟩ := Finding.duplicateBinding.inj heq
    have hmem : extra ∈
        graph.validConnections.filter (boundPort · == bound) := by
      rw [hgroup]
      exact List.mem_cons_of_mem first hextra
    obtain rfl : boundPort extra = bound :=
      eq_of_beq (List.mem_filter.mp hmem).2
    obtain ⟨before, hpair⟩ :=
      exists_tail_iff_exists_sublist.mp ⟨first, extras, hgroup, hextra⟩
    exact ⟨before, extra, hpair, rfl⟩
  · rintro ⟨before, extra, hpair, rfl⟩
    obtain ⟨first, extras, hgroup, hextra⟩ :=
      exists_tail_iff_exists_sublist.mpr ⟨before, hpair⟩
    have hmem : extra ∈
        graph.validConnections.filter (boundPort · == (nodeId, port)) :=
      hpair.subset (by simp)
    obtain ⟨hvalid, hbound⟩ := List.mem_filter.mp hmem
    obtain ⟨rfl, rfl⟩ :
        extra.target.nodeId = nodeId ∧ extra.target.port = port := by
      simpa [boundPort] using hbound
    exact ⟨_, _, boundPort extra,
      List.mem_eraseDups.mpr (List.mem_map_of_mem hvalid), first, extra,
      ⟨extras, hgroup, hextra⟩, rfl⟩

/-- The faults that validation finds in the connections of one graph it finds in
those of another, at positions and beside first bindings of their own. -/
structure FaultsWithin (later graph : Graph) (singleEntry : Bool) : Prop where
  danglingEdge : ∀ {position direction connectionId nodeId},
    .danglingEdge position direction connectionId nodeId ∈
      later.validate singleEntry →
      ∃ earlier, .danglingEdge earlier direction connectionId nodeId ∈
        graph.validate singleEntry
  portArity : ∀ {position direction connectionId nodeId port kind declared},
    .portArity position direction connectionId nodeId port kind declared ∈
        later.validate singleEntry →
      ∃ earlier,
        .portArity earlier direction connectionId nodeId port kind declared ∈
        graph.validate singleEntry
  duplicateBinding : ∀ {position firstId extraId nodeId port},
    .duplicateBinding position firstId extraId nodeId port ∈
      later.validate singleEntry →
      ∃ earlier former, .duplicateBinding earlier former extraId nodeId port ∈
        graph.validate singleEntry

section Fewer

variable {later graph : Graph}

/-- What is found at an end of a connection depends on its node and on the
registry. -/
theorem endFindings_congr {position : Nat} {connection : Connection}
    {direction : Direction} (hregistry : later.registry = graph.registry)
    (hnode : later.getNode? (direction.endOf connection).nodeId =
      graph.getNode? (direction.endOf connection).nodeId) :
    later.endFindings position connection direction =
      graph.endFindings position connection direction := by
  simp only [endFindings, hnode, hregistry]

variable (hsublist : later.connections.Sublist graph.connections)
  (hregistry : later.registry = graph.registry)
  (hnodes : ∀ connection ∈ later.connections, ∀ direction : Direction,
    later.getNode? (direction.endOf connection).nodeId =
      graph.getNode? (direction.endOf connection).nodeId)

include hsublist hregistry hnodes

/-- The connections that fit are among those that did before. -/
theorem validConnections_sublist :
    later.validConnections.Sublist graph.validConnections := by
  have hvalid : later.validConnections =
      later.connections.filter graph.isValidConnection := by
    apply List.filter_congr
    intro connection hmem
    simp only [isValidConnection, endIsValid, hnodes connection hmem, hregistry]
  rw [hvalid]
  exact hsublist.filter _

/-- What is found at an end of a connection has been found there before. -/
theorem exists_mem_endFindings {position : Nat} {connection : Connection}
    {direction : Direction} {finding : Finding}
    (hconnection : later.connections[position]? = some connection)
    (hfinding : finding ∈ later.endFindings position connection direction) :
    ∃ earlier : Nat, graph.connections[earlier]? = some connection ∧
      finding ∈ graph.endFindings position connection direction := by
  have hmem := List.mem_of_getElem? hconnection
  obtain ⟨earlier, hearlier⟩ := List.getElem?_of_mem (hsublist.subset hmem)
  rw [endFindings_congr hregistry (hnodes connection hmem direction)]
    at hfinding
  exact ⟨earlier, hearlier, hfinding⟩

/-- Without some connections, no more faults are found in the others, as long as
the nodes that those name stay. -/
theorem faultsWithin_of_sublist (singleEntry : Bool) :
    later.FaultsWithin graph singleEntry where
  danglingEdge := by
    intro position direction connectionId nodeId hfinding
    obtain ⟨_, connection, side, hconnection, hend⟩ :=
      (mem_validate_iff_mem_endFindings (.inl rfl)).mp hfinding
    obtain ⟨earlier, hearlier, hend⟩ :=
      exists_mem_endFindings hsublist hregistry hnodes hconnection hend
    refine ⟨earlier, (mem_validate_iff_mem_endFindings (.inl rfl)).mpr
      ⟨earlier, connection, side, hearlier, ?_⟩⟩
    rcases mem_endFindings_iff.mp hend with ⟨hmissing, heq⟩ | ⟨_, -, -, -, heq⟩
    · obtain ⟨-, rfl, rfl, rfl⟩ := Finding.danglingEdge.inj heq
      exact mem_endFindings_iff.mpr (.inl ⟨hmissing, rfl⟩)
    · cases heq
  portArity := by
    intro position direction connectionId nodeId port kind declared hfinding
    obtain ⟨_, connection, side, hconnection, hend⟩ :=
      (mem_validate_iff_mem_endFindings (.inr rfl)).mp hfinding
    obtain ⟨earlier, hearlier, hend⟩ :=
      exists_mem_endFindings hsublist hregistry hnodes hconnection hend
    refine ⟨earlier, (mem_validate_iff_mem_endFindings (.inr rfl)).mpr
      ⟨earlier, connection, side, hearlier, ?_⟩⟩
    rcases mem_endFindings_iff.mp hend with
      ⟨-, heq⟩ | ⟨node, hnode, hid, hport, heq⟩
    · cases heq
    · obtain ⟨-, rfl, rfl, rfl, rfl, rfl, rfl⟩ := Finding.portArity.inj heq
      exact mem_endFindings_iff.mpr (.inr ⟨node, hnode, hid, hport, rfl⟩)
  duplicateBinding := by
    intro position firstId extraId nodeId port hfinding
    obtain ⟨before, extra, hpair, hid⟩ :=
      exists_duplicateBinding_mem_validate_iff.mp ⟨position, firstId, hfinding⟩
    have hvalid := validConnections_sublist hsublist hregistry hnodes
    exact exists_duplicateBinding_mem_validate_iff.mpr
      ⟨before, extra, hpair.trans (hvalid.filter _), hid⟩

end Fewer

/-! ## Deletion -/

section Deletion

variable {graph : Graph} {nodeId : String}

/-- The connections that are removed are those that touch the node, as long as
no other connection has the id of one of them. -/
theorem filter_removed
    (hdistinct : (graph.connections.map Connection.id).Nodup) :
    (graph.connections.filter fun connection =>
        !((graph.connections.filter (·.touches nodeId)).map
          Connection.id).contains
          connection.id) =
      graph.connections.filter fun connection =>
        !connection.touches nodeId := by
  apply List.filter_congr
  intro connection hmem
  rw [Bool.not_inj_iff, Bool.eq_iff_iff, List.contains_iff_mem, List.mem_map]
  constructor
  · rintro ⟨removed, hremoved, hid⟩
    obtain ⟨hold, htouches⟩ := List.mem_filter.mp hremoved
    rwa [← eq_of_distinct hdistinct hold hmem hid]
  · exact fun htouches =>
      ⟨connection, List.mem_filter.mpr ⟨hmem, htouches⟩, rfl⟩

theorem faultsWithin_deleteNode (graph : Graph) (nodeId : String)
    (singleEntry : Bool) :
    (graph.deleteNode nodeId).1.FaultsWithin graph singleEntry := by
  refine faultsWithin_of_sublist (deleteNode_sublist graph nodeId)
    (registry_deleteNode graph nodeId) ?_ singleEntry
  intro connection hmem direction
  by_cases hknown : nodeId ∈ graph.nodes.map Node.id
  · exact getNode?_deleteNode (endOf_ne_of_mem_deleteNode hknown hmem direction)
  · rw [deleteNode_of_unknown hknown]

end Deletion

/-- Three ways into a yard, the first of them from a parlour, which a missing
node leads to. -/
def estate : Graph :=
  ⟨"estate", "", .standard,
    [⟨"lodge", .origin, .trigger .initial, by decide⟩,
      ⟨"parlour", .origin, .action .initial, by decide⟩,
      ⟨"yard", .origin, .action .initial, by decide⟩],
    [⟨"loft", ⟨"wraith", 0, by decide⟩, ⟨"parlour", 0, by decide⟩, by decide⟩,
      ⟨"arch", ⟨"parlour", 0, by decide⟩, ⟨"yard", 0, by decide⟩, by decide⟩,
      ⟨"drive", ⟨"lodge", 0, by decide⟩, ⟨"yard", 0, by decide⟩, by decide⟩,
      ⟨"ditch", ⟨"lodge", 0, by decide⟩, ⟨"yard", 0, by decide⟩, by decide⟩],
    by decide, by decide⟩

end Graph

end StoryGraph
