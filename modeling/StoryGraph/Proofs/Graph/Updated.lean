import StoryGraph.Proofs.Graph.Editing
import StoryGraph.Proofs.Node.Updated

/-!
# Partial updates of nodes

An editor changes some properties of one node at a time.  An accepted update
changes the fields that it names, and nothing else in the graph; a refused one
changes nothing.  It makes no difference which of its two names a field is
called by.
-/

namespace StoryGraph

namespace Graph

variable {graph : Graph} {node : Node} {nodeId : String}
  {changes others : List (String × Value)}

/-! ## Taken names -/

theorem not_taken_of_slot {kind : Kind} {slot : Properties.Slot}
    (hslot : slot ∈ Properties.slots kind) {spelling : String}
    (hspelling : spelling ∈ slot.name.spellings) : spelling ∉ takenNames := by
  have hfree (kind : Kind) : ∀ name ∈ Properties.known kind,
    ∀ spelling ∈ name.spellings, spelling ∉ takenNames := by
      cases kind <;> decide
  exact hfree kind _ (Properties.Slot.name_mem hslot) _ hspelling

theorem find?_taken_of_acceptable {kind : Kind}
    (hacceptable : Properties.Acceptable kind changes) :
    (changes.find? fun change => takenNames.contains change.1) = none := by
  rw [List.find?_eq_none]
  intro change hchange
  obtain ⟨slot, hslot, hspelling⟩ := hacceptable.1 change hchange
  simpa using not_taken_of_slot hslot hspelling

/-- A taken name is no name of a field and has no other spelling. -/
theorem find?_taken_respelled {kind : Kind}
    (hrespelled : List.Forall₂ (Properties.Respells kind) changes others) :
    (changes.find? fun change => takenNames.contains change.1) =
      others.find? fun change => takenNames.contains change.1 := by
  induction hrespelled with
  | nil => rfl
  | @cons change other changes others hrespells _ ih =>
    rw [List.find?_cons, List.find?_cons, ih]
    obtain ⟨hvalue, hname | ⟨slot, hslot, hchange, hother⟩⟩ := hrespells
    · rw [Prod.ext hname hvalue]
    · have hfree := not_taken_of_slot hslot hchange
      have hotherfree := not_taken_of_slot hslot hother
      simp [hfree, hotherfree]

/-! ## Updates -/

theorem updateProperties_of_update {properties : Properties}
    (hnode : graph.getNode? nodeId = some node)
    (hfree : (changes.find? fun change => takenNames.contains change.1) = none)
    (hupdate : node.properties.update changes = .ok properties) :
    graph.updateProperties nodeId changes =
      .ok (graph.setProperties nodeId properties,
        { node with properties := properties }) := by
  rw [updateProperties, hfree]
  simp only [changeProperties, hnode, hupdate]
  rfl

/-- The graph differs in one node, which has followed some changes of its
properties and has its id, its kind and its place. -/
structure Updates (graph : Graph) (node : Node)
    (changes : List (String × Value)) (later : Graph)
    (updated : Node) : Prop where
  id : later.id = graph.id
  name : later.name = graph.name
  registry : later.registry = graph.registry
  connections : later.connections = graph.connections
  nodes : later.nodes = graph.nodes.map fun other => if other.id = node.id then
    updated else other
  nodeId : updated.id = node.id
  kind : updated.kind = node.kind
  position : updated.position = node.position
  follows : ∀ slot ∈ Properties.slots node.kind,
    slot.Follows changes node.properties updated.properties

/-- A node is the only one with its id. -/
theorem nodes_setProperties (hnode : graph.getNode? nodeId = some node)
    (properties : Properties) :
    (graph.setProperties nodeId properties).nodes = graph.nodes.map fun other =>
      if other.id = node.id then { node with properties := properties }
      else other := by
  have hid := id_of_getNode? hnode
  refine List.map_congr_left fun other hother => ?_
  by_cases hnamed : other.id = nodeId
  · have hsame := getNode?_of_mem hother
    rw [hnamed, hnode] at hsame
    cases hsame
    rw [if_pos hid, if_pos rfl]
  · rw [if_neg hnamed, if_neg (hid ▸ hnamed)]

/-- An update is accepted if every change names a field of the node's record and
the last value given to a field passes its check.  Then the named fields hold
what the checks answer, and nothing else has changed.  After a refusal the graph
is as it was, and the two names of a field stand for each other. -/
theorem updateProperties_exact (hnode : graph.getNode? nodeId = some node)
    (hdata : ∀ value ∈ node.properties.freeValues, value.locationKind? = none)
    (changes : List (String × Value)) :
    ((∃ answer, graph.updateProperties nodeId changes = .ok answer) ↔
      Properties.Acceptable node.kind changes) ∧
    (∀ later updated, graph.updateProperties nodeId changes =
      .ok (later, updated) →
      graph.Updates node changes later updated) ∧
    (∀ refusal supply, graph.updateProperties nodeId changes = .error refusal →
      (Desk.mk graph supply).edit (.updateProperties nodeId changes) =
        ⟨graph, supply⟩) ∧
    ∀ respelled,
      List.Forall₂ (Properties.Respells node.kind) changes respelled →
      graph.updateProperties nodeId respelled =
        graph.updateProperties nodeId changes := by
  have haccepted := Properties.update_accepted_iff changes hdata
  refine ⟨⟨?_, fun hacceptable => ?_⟩, fun later updated hupdate => ?_,
    fun refusal supply hrefused => ?_, fun respelled hrespelled => ?_⟩
  · rintro ⟨⟨later, updated⟩, hupdate⟩
    obtain ⟨found, properties, hfound, hchanged, -⟩ :=
      of_updateProperties hupdate
    rw [hnode] at hfound
    cases hfound
    exact haccepted.mp ⟨properties, hchanged⟩
  · obtain ⟨properties, hchanged⟩ := haccepted.mpr hacceptable
    have hfree := find?_taken_of_acceptable hacceptable
    exact ⟨_, updateProperties_of_update hnode hfree hchanged⟩
  · obtain ⟨found, properties, hfound, hchanged, rfl, rfl⟩ :=
      of_updateProperties hupdate
    rw [hnode] at hfound
    cases hfound
    exact {
      id := rfl
      name := rfl
      registry := rfl
      connections := rfl
      nodes := nodes_setProperties hnode properties
      nodeId := rfl
      kind := Properties.kind_of_update hchanged
      position := rfl
      follows := fun slot hslot =>
        Properties.follows_of_update changes hdata hchanged hslot }
  · simp only [Desk.edit, hrefused, Desk.settle]
  · have hsame : node.properties.update changes =
        node.properties.update respelled :=
      Properties.update_respelled hrespelled
    simp only [updateProperties, find?_taken_respelled hrespelled,
      changeProperties, hnode, hsame]

/-- A stone that is compared with a value which is not a number. -/
def stone : Node :=
  ⟨"stone", .origin, .condition { ConditionProperties.initial with
    value := .list [.float .nan] },
    by decide⟩

/-- A frog by a stone. -/
def pond : Graph :=
  ⟨"pond", "", .standard,
    [stone, ⟨"frog", .origin, .encounter .initial, by decide⟩], [],
    by decide, by decide⟩

/-- The last value given to the kind of condition counts, and the stone keeps
its value. -/
theorem pond_updated :
    pond.getNode? "stone" = some stone ∧
      (∀ value ∈ stone.properties.freeValues, value.locationKind? = none) ∧
      ∃ later updated,
        pond.updateProperties "stone"
          [("condition_type", .str "flag"), ("key", .str "wet"),
            ("conditionType", .str "always")] =
            .ok (later, updated) ∧
        updated.properties.fields.lookup "conditionType" =
          some (.str "always") ∧
        updated.properties.fields.lookup "value" =
          some (.list [.float .nan]) := by
  have hnode : pond.getNode? "stone" = some stone := by decide +kernel
  have hdata :
      ∀ value ∈ stone.properties.freeValues, value.locationKind? = none := by
    decide +kernel
  obtain ⟨-, hupdates, -⟩ := updateProperties_exact hnode hdata
    [("condition_type", .str "flag"), ("key", .str "wet"),
      ("conditionType", .str "always")]
  obtain ⟨⟨later, updated⟩, hupdate⟩ : ∃ answer, pond.updateProperties "stone"
      [("condition_type", .str "flag"), ("key", .str "wet"),
        ("conditionType", .str "always")] =
        .ok answer := ⟨_, rfl⟩
  have hfollows := (hupdates later updated hupdate).follows
  refine ⟨hnode, hdata, later, updated, hupdate, ?_, ?_⟩
  · obtain ⟨result, hresult, hholds⟩ : ∃ result, _ ∧ _ := hfollows _ (.head _)
    cases hresult
    exact hholds
  · exact hfollows _ (.tail _ (.tail _ (.head _)))

end Graph

end StoryGraph
