import StoryGraph.Proofs.Graph.Editing

/-!
# Kinds of nodes

A graph only ever holds nodes of kinds that its registry has: a node of another
kind is refused, changes keep the kinds of nodes, and registration does not take
kinds away.
-/

namespace StoryGraph

namespace Registry

variable {registry later : Registry}

theorem isSome_find?_put {spec : NodeSpec} {kind : Kind} {specs : List NodeSpec}
    (hfound : (specs.find? (·.kind == kind)).isSome = true) :
    ((put spec specs).find? (·.kind == kind)).isSome = true := by
  induction specs with
  | nil => cases hfound
  | cons first rest ih =>
    rw [put]
    split
    · next hsame =>
      rw [List.find?_cons] at hfound ⊢
      rw [← hsame]
      cases hfirst : first.kind == kind with
      | true => rfl
      | false =>
        rw [hfirst] at hfound
        exact hfound
    · rw [List.find?_cons] at hfound ⊢
      cases hfirst : first.kind == kind with
      | true => rfl
      | false =>
        rw [hfirst] at hfound
        exact ih hfound

/-- Registration keeps the kinds that are registered. -/
theorem isSome_find?_register {added : Kind} {inputs outputs : Int}
    {labels : List String} {replace : Bool} {spec : NodeSpec}
    (hregister : registry.register added inputs outputs labels replace =
      .ok (later, spec)) {kind : Kind}
    (hfound : (registry.find? kind).isSome = true) :
    (later.find? kind).isSome = true := by
  unfold register at hregister
  split at hregister
  · cases hregister
  · split at hregister
    · cases hregister
    · cases hregister
      exact isSome_find?_put hfound

end Registry

namespace Graph

/-- A graph of which every node is of a registered kind. -/
def Registered (graph : Graph) : Prop :=
  ∀ node ∈ graph.nodes, (graph.registry.find? node.kind).isSome = true

instance (graph : Graph) : Decidable graph.Registered :=
  inferInstanceAs (Decidable (∀ node ∈ graph.nodes, _))

namespace Registered

variable {graph later : Graph}

theorem empty (id name : String) (registry : Registry) (named : id ≠ "") :
    (Graph.empty id name registry named).Registered := by
  intro node hmem
  cases hmem

theorem register (hregistered : graph.Registered) {registry : Registry}
    {kind : Kind} {inputs outputs : Int} {labels : List String} {replace : Bool}
    {spec : NodeSpec}
    (hregister : graph.registry.register kind inputs outputs labels replace =
      .ok (registry, spec)) : Registered { graph with registry := registry } :=
  fun node hmem =>
    Registry.isSome_find?_register hregister (hregistered node hmem)

theorem append (hregistered : graph.Registered) {node : Node}
    (hkind : (graph.registry.find? node.kind).isSome = true)
    (hnew : node.id ∉ graph.nodes.map Node.id) :
    (graph.append node hnew).Registered := by
  intro other hmem
  rcases List.mem_append.mp hmem with hold | hadded
  · exact hregistered other hold
  · rw [List.mem_singleton.mp hadded]
    exact hkind

theorem mapNodes (hregistered : graph.Registered) {change : Node → Node}
    (hid : ∀ node, (change node).id = node.id)
    (hkind : ∀ node ∈ graph.nodes, (change node).kind = node.kind) :
    (graph.mapNodes change hid).Registered := by
  intro node hmem
  obtain ⟨original, horiginal, rfl⟩ := List.mem_map.mp hmem
  rw [hkind original horiginal]
  exact hregistered original horiginal

theorem deleteNode (hregistered : graph.Registered) (nodeId : String) :
    (graph.deleteNode nodeId).1.Registered := by
  unfold Graph.deleteNode
  split
  · exact hregistered
  · exact fun node hmem => hregistered node (List.mem_filter.mp hmem).1

theorem connectPorts (hregistered : graph.Registered) {supply : IdSupply}
    {source target : PortRef} {connection : Connection}
    (hconnect : (graph.connectPorts supply source target).1 =
      .ok (later, connection)) : later.Registered := by
  obtain ⟨-, -, -, -, rfl, -⟩ := of_connectPorts hconnect
  exact hregistered

theorem addConnection (hregistered : graph.Registered) {connection : Connection}
    (hadd : graph.addConnection connection = .ok later) : later.Registered := by
  obtain ⟨-, rfl⟩ := of_addConnection hadd
  exact hregistered

end Registered

end Graph

namespace Desk

variable {desk : Desk}

theorem settle_registered (hregistered : desk.graph.Registered) {ε α : Type}
    {supply : IdSupply} {result : Except ε (Graph × α)}
    (haccepted : ∀ later answer, result = .ok (later, answer) →
      later.Registered) : (desk.settle supply result).graph.Registered := by
  match result with
  | .error error => exact hregistered
  | .ok (later, answer) => exact haccepted later answer rfl

theorem edit_registered (hregistered : desk.graph.Registered) (edit : Edit) :
    (desk.edit edit).graph.Registered := by
  cases edit with
  | createNode word position overrides nodeId =>
    apply settle_registered hregistered
    intro later node hcreate
    have hkind := Graph.registered_of_createNode hcreate
    obtain ⟨-, -, -, -, -, hnew, rfl⟩ := Graph.of_createNode hcreate
    exact hregistered.append hkind hnew
  | addNode node =>
    apply settle_registered hregistered
    intro later added hadd
    obtain ⟨graph, hnode, heq⟩ := accepted_map_iff.mp hadd
    cases heq
    obtain ⟨hkind, hnew, rfl⟩ := Graph.of_addNode hnode
    exact hregistered.append hkind hnew
  | deleteNode nodeId => exact hregistered.deleteNode nodeId
  | moveNode nodeId position =>
    apply settle_registered hregistered
    intro later node hmove
    obtain ⟨-, place, -, -, rfl, -⟩ := Graph.of_moveNode hmove
    exact hregistered.mapNodes _ fun other _ =>
      Graph.kind_setPosition place other
  | updateProperties nodeId changes =>
    apply settle_registered hregistered
    intro later node hupdate
    obtain ⟨found, properties, hfound, hchanged, rfl, -⟩ :=
      Graph.of_updateProperties hupdate
    have hkind : properties.kind = found.kind :=
      Properties.kind_of_update hchanged
    exact hregistered.mapNodes _ fun _ hother =>
      Graph.kind_setProperties hfound hkind hother
  | connect source target =>
    apply settle_registered hregistered
    intro later connection hconnect
    obtain ⟨_, _, -, -, hports⟩ := Graph.of_connect hconnect
    exact hregistered.connectPorts hports
  | disconnect connectionId => exact hregistered

/-- Whatever an editor does, the nodes are of registered kinds. -/
theorem editAll_registered (hregistered : desk.graph.Registered)
    (edits : List Edit) : (desk.editAll edits).graph.Registered := by
  induction edits generalizing desk with
  | nil => exact hregistered
  | cons first rest ih => exact ih (edit_registered hregistered first)

end Desk

end StoryGraph
