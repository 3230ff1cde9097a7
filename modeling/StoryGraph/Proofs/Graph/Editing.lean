import StoryGraph.Proofs.Graph.Soundness
import StoryGraph.Proofs.IdSupply
import StoryGraph.Proofs.Node.Properties

/-!
# Editing sessions

An editor changes a graph by creating, adding, deleting, moving and updating
nodes and by making and removing connections.  Whatever the arguments are and
whether an edit is accepted or refused, a sound graph stays sound, so that a
graph which was built by an editor compiles as soon as it has a trigger and
can be written.

A `Desk` is an `EventGraph` in the hands of an editor: the graph, and the supply
from which new ids are taken.
-/

namespace StoryGraph

/-- What an editor does. -/
inductive Edit where
  | createNode (word position overrides : Value) (nodeId : Option String)
  | addNode (node : Node)
  | deleteNode (nodeId : String)
  | moveNode (nodeId : String) (position : Value)
  | updateProperties (nodeId : String) (changes : List (String × Value))
  | connect (source target : Value)
  | disconnect (connectionId : String)

/-- A graph that is being edited, and the supply of its ids. -/
structure Desk where
  graph : Graph
  supply : IdSupply

namespace Desk

/-- The desk after an operation that has been accepted or refused. -/
def settle {ε α : Type} (desk : Desk)
    (supply : IdSupply) : Except ε (Graph × α) → Desk
  | .ok (graph, _) => ⟨graph, supply⟩
  | .error _ => ⟨desk.graph, supply⟩

/-- The desk after an edit; a refused edit leaves the graph as it was. -/
def edit (desk : Desk) : Edit → Desk
  | .createNode word position overrides nodeId =>
    let (result, supply) :=
      desk.graph.createNode desk.supply word position overrides nodeId
    desk.settle supply result
  | .addNode node =>
    desk.settle desk.supply ((desk.graph.addNode node).map (·, node))
  | .deleteNode nodeId => ⟨(desk.graph.deleteNode nodeId).1, desk.supply⟩
  | .moveNode nodeId position =>
    desk.settle desk.supply (desk.graph.moveNode nodeId position)
  | .updateProperties nodeId changes =>
    desk.settle desk.supply (desk.graph.updateProperties nodeId changes)
  | .connect source target =>
    let (result, supply) := desk.graph.connect desk.supply source target
    desk.settle supply result
  | .disconnect connectionId =>
    ⟨(desk.graph.disconnect connectionId).1, desk.supply⟩

/-- The desk after some edits. -/
def editAll (desk : Desk) (edits : List Edit) : Desk := edits.foldl edit desk

end Desk

theorem accepted_map_iff {ε α β : Type} {outcome : Except ε α}
    {transform : α → β} {answer : β} :
    outcome.map transform = .ok answer ↔ ∃ found, outcome = .ok found ∧
      transform found = answer := by
  cases outcome <;> simp [Except.map]

theorem accepted_mapError_iff {ε η α : Type} {outcome : Except ε α}
    {transform : ε → η} {answer : α} :
    outcome.mapError transform = .ok answer ↔ outcome = .ok answer := by
  cases outcome <;> simp [Except.mapError]

namespace Graph

/-! ## Ports that stay -/

section HasPort

variable {graph : Graph} {direction : Direction} {ref : PortRef}

theorem HasPort.append {node : Node} (hnew : node.id ∉ graph.nodes.map Node.id)
    (hport : graph.HasPort direction ref) :
    (graph.append node hnew).HasPort direction ref := by
  obtain ⟨owner, howner, hrange⟩ := hport
  refine ⟨owner, ?_, hrange⟩
  have hfound : graph.nodes.find? (·.id == ref.nodeId) = some owner := howner
  rw [getNode?, Graph.append, List.find?_append, hfound, Option.some_or]

theorem getNode?_mapNodes {change : Node → Node}
    (hid : ∀ node, (change node).id = node.id) (nodeId : String) :
    (graph.mapNodes change hid).getNode? nodeId =
      (graph.getNode? nodeId).map change := by
  simp only [getNode?, mapNodes, List.find?_map, Function.comp_def, hid]

/-- Changes that keep the kinds of the nodes keep their ports. -/
theorem HasPort.mapNodes {change : Node → Node}
    (hid : ∀ node, (change node).id = node.id)
    (hkind : ∀ node ∈ graph.nodes, (change node).kind = node.kind)
    (hport : graph.HasPort direction ref) :
    (graph.mapNodes change hid).HasPort direction ref := by
  obtain ⟨owner, howner, hrange⟩ := hport
  refine ⟨change owner, ?_, ?_⟩
  · rw [getNode?_mapNodes, howner, Option.map_some]
  · rw [hkind owner (mem_of_getNode? howner)]
    exact hrange

theorem hasPort_of_checkPort (hcheck : graph.checkPort ref direction = .ok ()) :
    graph.HasPort direction ref := by
  unfold checkPort at hcheck
  split at hcheck
  · cases hcheck
  · next node hnode =>
    split at hcheck
    · next hrange => exact ⟨node, hnode, portInRange_iff.mp hrange⟩
    · cases hcheck

end HasPort

/-! ## What accepted edits of nodes do -/

section Accepted

variable {graph later : Graph} {node : Node} {nodeId : String}

theorem kind_of_newProperties {kind : Kind} {overrides : Value}
    {properties : Properties}
    (hnew : newProperties kind nodeId overrides = .ok properties) :
    properties.kind = kind := by
  unfold newProperties at hnew
  split at hnew
  · split at hnew
    · cases hnew
    · split at hnew
      · next hcheck =>
        cases hnew
        exact Properties.kind_of_read
          (Checked.seqLeft_eq_accepted_iff.mp hcheck).1
      · cases hnew
  · cases hnew
    cases kind <;> rfl

theorem kind_of_resolve {registry : Registry} {word : Value} {spec : NodeSpec}
    (hresolve : registry.resolve word = .ok spec) :
    (registry.find? spec.kind).isSome = true := by
  unfold Registry.resolve at hresolve
  split at hresolve
  · next found hget =>
    cases hresolve
    unfold Registry.get? at hget
    split at hget
    · obtain ⟨kind, -, hfind⟩ := Option.bind_eq_some_iff.mp hget
      have hfound : registry.specs.find? (·.kind == kind) = some spec := hfind
      have hkind := List.find?_some hfound
      rw [eq_of_beq hkind, hfind]
      rfl
    · cases hget
  · cases hresolve

theorem of_newPosition {position : Value} {place : Position}
    (hnew : newPosition position = .ok place) :
    Position.ofValue position = .ok place := by
  unfold newPosition at hnew
  split at hnew
  · next hplace =>
    cases hnew
    exact hplace
  · cases hnew

/-- A node that is created has an id of its own, and is made of what was asked
for. -/
theorem of_createNode {supply : IdSupply} {word position overrides : Value}
    {chosenId : Option String}
    (hcreate : (graph.createNode supply word position overrides chosenId).1 =
      .ok (later, node)) :
    ∃ spec, graph.registry.resolve word = .ok spec ∧
      node.id = (supply.orTake "node" chosenId).1.val ∧
      newProperties spec.kind node.id overrides = .ok node.properties ∧
      Position.ofValue position = .ok node.position ∧
      ∃ hnew, later = graph.append node hnew := by
  unfold Graph.createNode at hcreate
  split at hcreate
  · cases hcreate
  · next spec hspec =>
    simp only [createNamed] at hcreate
    split at hcreate
    · cases hcreate
    · next hnew =>
      split at hcreate
      · cases hcreate
      · next properties hproperties =>
        split at hcreate
        · cases hcreate
        · next place hplace =>
          cases hcreate
          exact ⟨spec, hspec, rfl, hproperties, of_newPosition hplace, hnew,
            rfl⟩

theorem registered_of_createNode {supply : IdSupply}
    {word position overrides : Value} {chosenId : Option String}
    (hcreate : (graph.createNode supply word position overrides chosenId).1 =
      .ok (later, node)) : (graph.registry.find? node.kind).isSome = true := by
  obtain ⟨spec, hspec, -, hproperties, -⟩ := of_createNode hcreate
  rw [Node.kind, kind_of_newProperties hproperties]
  exact kind_of_resolve hspec

theorem of_addNode (hadd : graph.addNode node = .ok later) :
    (graph.registry.find? node.kind).isSome = true ∧ ∃ hnew,
      later = graph.append node hnew := by
  unfold Graph.addNode at hadd
  split at hadd
  · cases hadd
  · next hspec =>
    split at hadd
    · cases hadd
    · next hnew =>
      cases hadd
      exact ⟨by rw [hspec]; rfl, hnew, rfl⟩

theorem of_moveNode {position : Value}
    (hmove : graph.moveNode nodeId position = .ok (later, node)) :
    ∃ found place, graph.getNode? nodeId = some found ∧
      Position.ofValue position = .ok place ∧
      later = graph.setPosition nodeId place ∧
        node = { found with position := place } := by
  unfold Graph.moveNode at hmove
  split at hmove
  · cases hmove
  · next found hfound =>
    split at hmove
    · cases hmove
    · next place hplace =>
      cases hmove
      exact ⟨found, place, hfound, hplace, rfl, rfl⟩

/-- Changed properties are of the same kind. -/
theorem of_changeProperties {changes : List (String × Value)}
    (hchange : graph.changeProperties nodeId changes = .ok (later, node)) :
    ∃ found properties, graph.getNode? nodeId = some found ∧
      found.properties.update changes = .ok properties ∧
      later = graph.setProperties nodeId properties ∧
      node = { found with properties := properties } := by
  unfold Graph.changeProperties at hchange
  split at hchange
  · cases hchange
  · next found hfound =>
    split at hchange
    · next properties hupdate =>
      cases hchange
      exact ⟨found, properties, hfound, hupdate, rfl, rfl⟩
    · cases hchange

theorem of_updateProperties {changes : List (String × Value)}
    (hupdate : graph.updateProperties nodeId changes = .ok (later, node)) :
    ∃ found properties, graph.getNode? nodeId = some found ∧
      found.properties.update changes = .ok properties ∧
      later = graph.setProperties nodeId properties ∧
      node = { found with properties := properties } := by
  unfold Graph.updateProperties at hupdate
  split at hupdate
  · cases hupdate
  · cases hchange : graph.changeProperties nodeId changes with
    | error error =>
      rw [hchange] at hupdate
      cases hupdate
    | ok changed =>
      rw [hchange] at hupdate
      cases hupdate
      exact of_changeProperties hchange

theorem kind_setPosition (place : Position) (other : Node) :
    (if other.id = nodeId then { other with position := place }
      else other).kind = other.kind := by
  split <;> rfl

theorem kind_setProperties {found : Node} {properties : Properties}
    (hfound : graph.getNode? nodeId = some found)
    (hkind : properties.kind = found.kind) {other : Node}
    (hother : other ∈ graph.nodes) :
    (if other.id = nodeId then { other with properties := properties }
      else other).kind =
      other.kind := by
  split
  · next hid =>
    -- The changed node is the one that was found, since ids are distinct.
    have hsame := getNode?_of_mem hother
    rw [hid, hfound] at hsame
    cases hsame
    exact hkind
  · rfl

end Accepted

/-! ## What accepted connections are -/

section Connected

variable {graph later : Graph} {supply : IdSupply} {source target : PortRef}
  {connection : Connection}

/-- A connection is only made between ports that exist and to a free one. -/
theorem of_connectPorts
    (hconnect : (graph.connectPorts supply source target).1 =
      .ok (later, connection)) :
    graph.HasPort .output source ∧ graph.HasPort .input target ∧
      graph.inputBinding? target.nodeId target.port = none ∧
      connection = Connection.ofId (supply.take "conn").1 source target ∧
      later = { graph with connections := graph.connections ++ [connection] } ∧
      (graph.connectPorts supply source target).2 = (supply.take "conn").2 := by
  unfold Graph.connectPorts at hconnect ⊢
  split at hconnect
  · cases hconnect
  · cases hconnect
  · next hsource htarget =>
    split at hconnect
    · cases hconnect
    · next hfree =>
      cases hconnect
      exact ⟨hasPort_of_checkPort hsource, hasPort_of_checkPort htarget, hfree,
        rfl, rfl, rfl⟩

/-- The ends of a connection that is made have been read. -/
theorem of_connect {left right : Value}
    (hconnect : (graph.connect supply left right).1 = .ok (later, connection)) :
    ∃ source target, PortRef.ofValue left = .ok source ∧
      PortRef.ofValue right = .ok target ∧
      (graph.connectPorts supply source target).1 =
        .ok (later, connection) := by
  unfold Graph.connect at hconnect
  split at hconnect
  · cases hconnect
  · cases hconnect
  · next source target hsource htarget =>
    exact ⟨source, target, hsource, htarget, accepted_mapError_iff.mp hconnect⟩

theorem boundPort_not_mem_of_inputBinding?
    (hfree : graph.inputBinding? target.nodeId target.port = none) :
    (target.nodeId, target.port) ∉ graph.connections.map boundPort := by
  intro hbound
  obtain ⟨old, hold, heq⟩ := List.mem_map.mp hbound
  rw [boundPort, Prod.mk.injEq] at heq
  have hunbound := List.find?_eq_none.mp hfree old hold
  simp [heq.1, heq.2] at hunbound

end Connected

/-! ## What deletions leave -/

section Deletion

variable {graph : Graph} {nodeId : String}

theorem deleteNode_of_unknown (hunknown : nodeId ∉ graph.nodes.map Node.id) :
    graph.deleteNode nodeId = (graph, []) := by
  have hnone : graph.getNode? nodeId = none := by
    rw [getNode?_eq_none_iff]
    exact fun node hmem hid => hunknown (hid ▸ List.mem_map_of_mem hmem)
  rw [deleteNode, hnone]

theorem getNode?_deleteNode {other : String} (hother : other ≠ nodeId) :
    (graph.deleteNode nodeId).1.getNode? other = graph.getNode? other := by
  unfold deleteNode
  split
  · rfl
  · rw [getNode?, getNode?, List.find?_filter]
    congr 1
    funext node
    rw [Bool.eq_iff_iff, decide_eq_true_eq, and_iff_right_of_imp]
    intro hid
    rw [bne_iff_ne, eq_of_beq hid]
    exact hother

theorem registry_deleteNode (graph : Graph) (nodeId : String) :
    (graph.deleteNode nodeId).1.registry = graph.registry := by
  unfold deleteNode
  split <;> rfl

theorem deleteNode_sublist (graph : Graph) (nodeId : String) :
    (graph.deleteNode nodeId).1.connections.Sublist graph.connections := by
  unfold deleteNode
  split
  · exact .refl _
  · exact List.filter_sublist

/-- No connection that is left touches the deleted node. -/
theorem endOf_ne_of_mem_deleteNode (hknown : nodeId ∈ graph.nodes.map Node.id)
    {connection : Connection}
    (hmem : connection ∈ (graph.deleteNode nodeId).1.connections)
    (direction : Direction) : (direction.endOf connection).nodeId ≠ nodeId := by
  intro hend
  have htouches : connection.touches nodeId = true := by
    cases direction <;> simp_all [Connection.touches, Direction.endOf]
  unfold deleteNode at hmem
  split at hmem
  · next hnone =>
    obtain ⟨node, hnode, hid⟩ := List.mem_map.mp hknown
    exact getNode?_eq_none_iff.mp hnone node hnode hid
  · obtain ⟨hold, hkept⟩ := List.mem_filter.mp hmem
    have hremoved : connection.id ∈
        (graph.connections.filter (·.touches nodeId)).map Connection.id :=
      List.mem_map_of_mem (List.mem_filter.mpr ⟨hold, htouches⟩)
    simp [hremoved] at hkept

end Deletion

namespace Sound

variable {graph : Graph}

theorem empty (id name : String) (registry : Registry) (named : id ≠ "") :
    (Graph.empty id name registry named).Sound where
  ends := by simp [Graph.empty]
  single := by simp [Graph.empty]
  distinctIds := by simp [Graph.empty]

/-- Fewer connections on nodes that keep the ports which are still in use. -/
theorem restrict (hsound : graph.Sound) {later : Graph}
    (hsublist : later.connections.Sublist graph.connections)
    (hports : ∀ connection ∈ later.connections, ∀ direction : Direction,
      graph.HasPort direction (direction.endOf connection) →
        later.HasPort direction (direction.endOf connection)) :
    later.Sound where
  ends := fun connection hmem direction =>
    hports connection hmem direction
      (hsound.ends connection (hsublist.subset hmem) direction)
  single := (hsublist.map boundPort).nodup hsound.single
  distinctIds := (hsublist.map Connection.id).nodup hsound.distinctIds

/-! ## Edits of nodes -/

theorem append (hsound : graph.Sound) {node : Node}
    (hnew : node.id ∉ graph.nodes.map Node.id) :
    (graph.append node hnew).Sound :=
  hsound.restrict (.refl _) fun _ _ _ hport => hport.append hnew

theorem mapNodes (hsound : graph.Sound) {change : Node → Node}
    (hid : ∀ node, (change node).id = node.id)
    (hkind : ∀ node ∈ graph.nodes, (change node).kind = node.kind) :
    (graph.mapNodes change hid).Sound :=
  hsound.restrict (.refl _) fun _ _ _ hport => hport.mapNodes hid hkind

theorem createNode (hsound : graph.Sound) {supply : IdSupply}
    {word position overrides : Value} {nodeId : Option String} {later : Graph}
    {node : Node}
    (hcreate : (graph.createNode supply word position overrides nodeId).1 =
      .ok (later, node)) :
    later.Sound ∧ later.registry = graph.registry ∧
      later.connections = graph.connections := by
  obtain ⟨-, -, -, -, -, hnew, rfl⟩ := of_createNode hcreate
  exact ⟨hsound.append hnew, rfl, rfl⟩

theorem addNode (hsound : graph.Sound) {node : Node} {later : Graph}
    (hadd : graph.addNode node = .ok later) :
    later.Sound ∧ later.registry = graph.registry ∧
      later.connections = graph.connections := by
  obtain ⟨-, hnew, rfl⟩ := of_addNode hadd
  exact ⟨hsound.append hnew, rfl, rfl⟩

/-- The connections that are left name nodes that are left. -/
theorem deleteNode (hsound : graph.Sound) (nodeId : String) :
    (graph.deleteNode nodeId).1.Sound ∧
      (graph.deleteNode nodeId).1.registry = graph.registry ∧
      (graph.deleteNode nodeId).1.connections.Sublist graph.connections := by
  have hsublist := deleteNode_sublist graph nodeId
  have hregistry := registry_deleteNode graph nodeId
  refine ⟨?_, hregistry, hsublist⟩
  by_cases hknown : nodeId ∈ graph.nodes.map Node.id
  · refine hsound.restrict hsublist ?_
    rintro connection hmem direction ⟨owner, howner, hrange⟩
    have hother := endOf_ne_of_mem_deleteNode hknown hmem direction
    exact ⟨owner, (getNode?_deleteNode hother).trans howner, hregistry ▸ hrange⟩
  · rw [deleteNode_of_unknown hknown]
    exact hsound

theorem moveNode (hsound : graph.Sound) {nodeId : String} {position : Value}
    {later : Graph} {node : Node}
    (hmove : graph.moveNode nodeId position = .ok (later, node)) :
    later.Sound ∧ later.registry = graph.registry ∧
      later.connections = graph.connections := by
  obtain ⟨-, place, -, -, rfl, -⟩ := of_moveNode hmove
  exact ⟨hsound.mapNodes _ fun other _ => kind_setPosition place other, rfl,
    rfl⟩

theorem updateProperties (hsound : graph.Sound) {nodeId : String}
    {changes : List (String × Value)} {later : Graph} {node : Node}
    (hupdate : graph.updateProperties nodeId changes = .ok (later, node)) :
    later.Sound ∧ later.registry = graph.registry ∧
      later.connections = graph.connections := by
  obtain ⟨found, properties, hfound, hchanged, rfl, -⟩ :=
    of_updateProperties hupdate
  have hkind : properties.kind = found.kind :=
    Properties.kind_of_update hchanged
  exact ⟨hsound.mapNodes _ fun _ hother =>
    kind_setProperties hfound hkind hother, rfl, rfl⟩

/-! ## Edits of connections -/

/-- One more connection, between ports that exist, to a free input port and
under an id of its own. -/
theorem join (hsound : graph.Sound) {connection : Connection}
    (hports : ∀ direction : Direction,
      graph.HasPort direction (direction.endOf connection))
    (hfree : boundPort connection ∉ graph.connections.map boundPort)
    (hid : connection.id ∉ graph.connections.map Connection.id) :
    Sound { graph with connections := graph.connections ++ [connection] } where
  ends := by
    intro other hmem direction
    rcases List.mem_append.mp hmem with hold | hnew
    · exact hsound.ends other hold direction
    · rw [List.mem_singleton.mp hnew]
      exact hports direction
  single := nodup_append_singleton hsound.single hfree
  distinctIds := nodup_append_singleton hsound.distinctIds hid

/-- A connection is only made between ports that exist and to a free one, and
under an id that no connection has. -/
theorem connectPorts (hsound : graph.Sound) {supply : IdSupply}
    {source target : PortRef} {later : Graph} {connection : Connection}
    (hissued : ∀ old ∈ graph.connections, supply.Issued "conn" old.id)
    (hconnect : (graph.connectPorts supply source target).1 =
      .ok (later, connection)) :
    later.Sound ∧ later.registry = graph.registry ∧
      later.connections = graph.connections ++ [connection] ∧
      connection.id = (supply.take "conn").1.val ∧
      (graph.connectPorts supply source target).2 = (supply.take "conn").2 := by
  obtain ⟨hsource, htarget, hfree, rfl, rfl, hsupply⟩ :=
    of_connectPorts hconnect
  refine ⟨hsound.join ?_ (boundPort_not_mem_of_inputBinding? hfree) ?_, rfl,
    rfl, rfl, hsupply⟩
  · intro direction
    cases direction with
    | output => exact hsource
    | input => exact htarget
  · intro hused
    obtain ⟨old, hold, heq⟩ := List.mem_map.mp hused
    have hold := hissued old hold
    rw [heq] at hold
    exact supply.take_not_issued "conn" hold

theorem disconnect (hsound : graph.Sound) (connectionId : String) :
    (graph.disconnect connectionId).1.Sound :=
  hsound.restrict List.filter_sublist fun _ _ _ hport => hport

end Sound

/-! ## Sessions of an editor -/

theorem next_le_createNode (graph : Graph) (supply : IdSupply)
    (word position overrides : Value) (nodeId : Option String) :
    supply.next ≤
      (graph.createNode supply word position overrides nodeId).2.next := by
  rw [Graph.createNode]
  split
  · exact Nat.le_refl _
  · exact supply.next_le_orTake _ _

end Graph

namespace Desk

/-- The graph is sound, and the ids of its connections have been handed out. -/
structure Orderly (registry : Registry) (desk : Desk) : Prop where
  sound : desk.graph.Sound
  registry : desk.graph.registry = registry
  issued : ∀ connection ∈ desk.graph.connections,
    desk.supply.Issued "conn" connection.id

namespace Orderly

variable {registry : Registry} {desk : Desk}

theorem later (horderly : desk.Orderly registry) {supply : IdSupply}
    (hle : desk.supply.next ≤ supply.next) :
    (Desk.mk desk.graph supply).Orderly registry :=
  ⟨horderly.sound, horderly.registry,
    fun connection hmem => (horderly.issued connection hmem).mono hle⟩

/-- An operation on nodes, as far as connections are concerned. -/
theorem settle (horderly : desk.Orderly registry) {ε : Type} {supply : IdSupply}
    {result : Except ε (Graph × Node)} (hle : desk.supply.next ≤ supply.next)
    (haccepted : ∀ later node, result = .ok (later, node) →
      later.Sound ∧ later.registry = desk.graph.registry ∧
        later.connections = desk.graph.connections) :
    (desk.settle supply result).Orderly registry := by
  match result with
  | .error error => exact horderly.later hle
  | .ok (later, node) =>
    obtain ⟨hsound, hregistry, hconnections⟩ := haccepted later node rfl
    refine ⟨hsound, hregistry.trans horderly.registry, ?_⟩
    intro connection hmem
    exact (horderly.issued connection (hconnections ▸ hmem)).mono hle

theorem connect (horderly : desk.Orderly registry) (source target : Value) :
    (desk.edit (.connect source target)).Orderly registry := by
  simp only [Desk.edit, Graph.connect]
  split
  · exact horderly
  · exact horderly
  · next source target _ _ =>
    cases hconnect : (desk.graph.connectPorts desk.supply source target).1 with
    | error error =>
      apply horderly.later
      rw [Graph.connectPorts]
      split
      · exact Nat.le_refl _
      · exact Nat.le_refl _
      · split
        · exact Nat.le_refl _
        · exact Nat.le_succ _
    | ok accepted =>
      obtain ⟨later, connection⟩ := accepted
      obtain ⟨hsound, hregistry, hconnections, hid, hsupply⟩ :=
        horderly.sound.connectPorts horderly.issued hconnect
      rw [hsupply]
      refine ⟨hsound, hregistry.trans horderly.registry, ?_⟩
      intro old hmem
      have hmem : old ∈ desk.graph.connections ++ [connection] :=
        hconnections ▸ hmem
      rcases List.mem_append.mp hmem with hold | hnew
      · exact (horderly.issued old hold).mono (Nat.le_succ _)
      · rw [List.mem_singleton.mp hnew, hid]
        exact desk.supply.take_issued "conn"

/-- Every edit keeps the graph sound. -/
theorem edit (horderly : desk.Orderly registry) (edit : Edit) :
    (desk.edit edit).Orderly registry := by
  cases edit with
  | createNode word position overrides nodeId =>
    exact horderly.settle (desk.graph.next_le_createNode _ _ _ _ _)
      fun later node hcreate => horderly.sound.createNode hcreate
  | addNode node =>
    apply horderly.settle (Nat.le_refl _)
    intro later added hadd
    obtain ⟨graph, hnode, heq⟩ := accepted_map_iff.mp hadd
    cases heq
    exact horderly.sound.addNode hnode
  | deleteNode nodeId =>
    obtain ⟨hsound, hregistry, hsublist⟩ := horderly.sound.deleteNode nodeId
    exact ⟨hsound, hregistry.trans horderly.registry,
      fun connection hmem => horderly.issued connection (hsublist.subset hmem)⟩
  | moveNode nodeId position =>
    exact horderly.settle (Nat.le_refl _) fun later node hmove =>
      horderly.sound.moveNode hmove
  | updateProperties nodeId changes =>
    exact horderly.settle (Nat.le_refl _)
      fun later node hupdate => horderly.sound.updateProperties hupdate
  | connect source target => exact horderly.connect source target
  | disconnect connectionId =>
    exact ⟨horderly.sound.disconnect connectionId, horderly.registry,
      fun connection hmem =>
        horderly.issued connection (List.mem_filter.mp hmem).1⟩

theorem editAll (horderly : desk.Orderly registry) (edits : List Edit) :
    (desk.editAll edits).Orderly registry := by
  induction edits generalizing desk with
  | nil => exact horderly
  | cons first rest ih => exact ih (horderly.edit first)

end Orderly

/-- An empty graph and a supply of ids. -/
def fresh : FilledText → String → Registry → IdSupply → Desk
  | ⟨id, named⟩, name, registry, supply =>
    ⟨Graph.empty id name registry named, supply⟩

theorem fresh_orderly (id : FilledText) (name : String) (registry : Registry)
    (supply : IdSupply) : (fresh id name registry supply).Orderly registry := by
  obtain ⟨id, named⟩ := id
  exact ⟨.empty id name registry named, rfl, by simp [fresh, Graph.empty]⟩

/-- Codes of the findings that editors rule out. -/
def excludedCodes : List String :=
  ["DANGLING_EDGE", "PORT_ARITY_VIOLATION", "DUPLICATE_INPUT_BINDING"]

theorem code_not_excluded {graph : Graph} (hsound : graph.Sound)
    {singleEntry : Bool} {finding : Finding}
    (hfinding : finding ∈ graph.validate singleEntry) :
    finding.code ∉ excludedCodes := by
  by_cases hblocking : finding.isBlocking = true
  · rw [hsound.eq_noStartNode_of_mem hfinding hblocking]
    decide
  · intro hcode
    apply hblocking
    cases finding with
    | danglingEdge => rfl
    | portArity => rfl
    | duplicateBinding => rfl
    | noStartNode => rfl
    | selfLoop => simp [excludedCodes, Finding.code] at hcode
    | ambiguousStart => simp [excludedCodes, Finding.code] at hcode
    | unreachable => simp [excludedCodes, Finding.code] at hcode
    | unknownActionType => simp [excludedCodes, Finding.code] at hcode

/-- Whatever an editor does to an empty graph, the graph stays sound: its
connections join ports that exist, bind no input port twice and have ids of
their own.  It compiles exactly when it has a trigger and its free-form values
are not nested too deeply to be written; without a trigger this is the only
thing that blocks it. -/
theorem editAll_compiles_iff (id : FilledText) (name : String)
    (registry : Registry) (supply : IdSupply) (edits : List Edit) :
    let graph := ((fresh id name registry supply).editAll edits).graph
    graph.registry = registry ∧ graph.Sound ∧
      (∀ singleEntry, ∀ finding ∈ graph.validate singleEntry,
        finding.code ∉ excludedCodes) ∧
      ∀ version singleEntry time,
        ((∃ compiled, graph.compile version singleEntry time = .ok compiled) ↔
          graph.HasTrigger ∧ graph.isWritable = true) ∧
        (¬ graph.HasTrigger → ∃ findings,
          graph.compile version singleEntry time = .error (.invalid findings) ∧
            findings.filter Finding.isBlocking = [.noStartNode]) ∧
        (graph.HasTrigger → graph.isWritable = false →
          graph.compile version singleEntry time =
            .error (.unwritable .tooDeep)) := by
  intro graph
  have horderly :
      ((fresh id name registry supply).editAll edits).Orderly registry :=
    (fresh_orderly id name registry supply).editAll edits
  have hsound : graph.Sound := horderly.sound
  refine ⟨horderly.registry, hsound,
    fun _ _ hfinding => code_not_excluded hsound hfinding, ?_⟩
  intro version singleEntry time
  refine ⟨?_, fun htrigger =>
    hsound.compile_of_no_trigger htrigger version singleEntry time, ?_⟩
  · by_cases htrigger : graph.HasTrigger
    · rw [hsound.compile_of_trigger htrigger]
      cases graph.isWritable with
      | true => simp [htrigger]
      | false => simp
    · obtain ⟨findings, hcompile, -⟩ :=
        hsound.compile_of_no_trigger htrigger version singleEntry time
      simp [hcompile, htrigger]
  · intro htrigger hdeep
    rw [hsound.compile_of_trigger htrigger, hdeep]
    rfl

/-- A list in a list in a list, and so on. -/
def nested : Nat → Value
  | 0 => .list []
  | levels + 1 => .list [nested levels]

/-- Adds a trigger, and an action with a value of 256 levels. -/
def deepEdits : List Edit :=
  [.createNode (.str "trigger") .null .null (some "start"),
    .createNode (.str "action") .null (.dict [("value", nested 255)])
      (some "deep")]

/-- A trigger alone does not make a graph compile. -/
theorem deep_value_not_compiled :
    ¬ ∀ (id : FilledText) (name : String) (registry : Registry)
      (supply : IdSupply) (edits : List Edit) (version : String)
      (singleEntry : Bool) (time : Timestamp),
      let graph := ((fresh id name registry supply).editAll edits).graph
      (∃ compiled, graph.compile version singleEntry time = .ok compiled) ↔
        graph.HasTrigger := by
  intro hcompiles
  have hstandard :=
    hcompiles ⟨"g", by decide⟩ "" .standard ⟨1⟩ deepEdits "1.0" false
      ⟨⟨2024, 1, 1, 0, 0, 0, 0, some 0⟩, by decide⟩
  have horderly :=
    (fresh_orderly ⟨"g", by decide⟩ "" .standard ⟨1⟩).editAll deepEdits
  have htrigger : ∃ node ∈ ((fresh ⟨"g", by decide⟩ "" .standard ⟨1⟩).editAll
      deepEdits).graph.nodes, node.kind = .trigger := by decide +kernel
  have hdeep : ((fresh ⟨"g", by decide⟩ "" .standard ⟨1⟩).editAll
      deepEdits).graph.isWritable = false := by decide +kernel
  obtain ⟨compiled, hcompiled⟩ := hstandard.mpr htrigger
  rw [horderly.sound.compile_of_trigger htrigger, hdeep] at hcompiled
  cases hcompiled

end Desk

end StoryGraph
