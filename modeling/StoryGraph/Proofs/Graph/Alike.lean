import StoryGraph.Proofs.Graph.Compiled

/-!
# Graphs with the same content

Two graphs are alike when they list the same nodes and join the same ports, once
both have been put in order.  Where the nodes are, what the connections are
called and how the graphs came about does not matter: both compile or neither
does, and what the runtime executes is the same.  The data of nodes are compared
in a view, such as the one that disregards the order of keys.
-/

namespace StoryGraph

/-- Items that agree in one respect agree in what it determines. -/
theorem map_eq_of_determined {α β γ : Type} {key : α → β} {image other : α → γ}
    (hdetermined : ∀ first second, key first = key second →
      image first = other second) {firsts seconds : List α}
    (hkeys : firsts.map key = seconds.map key) :
    firsts.map image = seconds.map other := by
  induction firsts generalizing seconds with
  | nil =>
    rw [List.map_eq_nil_iff.mp hkeys.symm]
    rfl
  | cons first firsts ih =>
    obtain ⟨second, rest, rfl, hkey, hrest⟩ :=
      List.map_eq_cons_iff.mp hkeys.symm
    rw [List.map_cons, List.map_cons, hdetermined first second hkey.symm,
      ih hrest.symm]

/-- A way to look at documents that shows plain values as they are, lists item
by item, and of objects with the same keys at least the value of each key. -/
structure Value.IsView (view : Value → Value) : Prop where
  bool : ∀ truth, view (.bool truth) = .bool truth
  int : ∀ number, view (.int number) = .int number
  float : ∀ number, view (.float number) = .float number
  str : ∀ text, view (.str text) = .str text
  list : ∀ items, view (.list items) = .list (items.map view)
  fields : ∀ {firsts seconds : List (String × Value)},
    view (.dict firsts) = view (.dict seconds) → names firsts = names seconds →
      (names firsts).Nodup → (firsts.map fun field => (field.1, view field.2)) =
        seconds.map fun field => (field.1, view field.2)

theorem Value.isView_self : IsView fun value => value where
  bool _ := rfl
  int _ := rfl
  float _ := rfl
  str _ := rfl
  list items := congrArg Value.list (List.map_id' items).symm
  fields heq _ _ := by
    rw [Value.dict.inj heq]

/-- The fields as documents hold them, with free-form values in a view. -/
def Properties.dumpIn (view : Value → Value) (properties : Properties) :
    List (String × Value) :=
  properties.fieldsWith fun value => view value.toData

/-- A view changes the free-form values of a record only. -/
theorem Value.IsView.map_dump {view : Value → Value} (hview : Value.IsView view)
    (properties : Properties) :
    (properties.dump.map fun field => (field.1, view field.2)) =
      properties.dumpIn view := by
  have hcoordinate (coordinate : Coordinate) : view coordinate.dump =
      coordinate.dump := by
        cases coordinate with
        | none => exact hview.float _
        | some number => exact hview.float _
  cases properties <;>
    simp [Properties.dump, Properties.dumpIn, Properties.fieldsWith,
      TriggerProperties.fields, ConditionProperties.fields,
      ActionProperties.fields, DialogueProperties.fields,
      EncounterProperties.fields, TeleportProperties.fields, hview.bool,
      hview.int, hview.str, hcoordinate]

namespace Node

/-- What compilation takes from a node. -/
def content (view : Value → Value) (node : Node) :
    String × Kind × List (String × Value) :=
  (node.id, node.kind, node.properties.dumpIn view)

end Node

/-- The ports that a connection joins. -/
def Connection.ends (connection : Connection) : PortRef × PortRef :=
  (connection.source, connection.target)

/-- A compiled node with its data in a view. -/
def CompiledNode.dataIn (view : Value → Value)
    (node : CompiledNode) : CompiledNode :=
  { node with data := node.data.map view }

/-- Compiled graphs that differ in their metadata at most, with the data of
their nodes in a view. -/
structure CompiledGraph.SameProgram (view : Value → Value)
    (first second : CompiledGraph) : Prop where
  id : first.id = second.id
  name : first.name = second.name
  startNode : first.startNode = second.startNode
  entrypoints : first.entrypoints = second.entrypoints
  nodes : first.nodes.map (CompiledNode.dataIn view) =
    second.nodes.map (CompiledNode.dataIn view)

namespace CompiledGraph.SameProgram

variable {first second : CompiledGraph}

theorem nodes_eq (hsame : first.SameProgram (fun value => value) second) :
    first.nodes = second.nodes := by
  have hself : (CompiledNode.dataIn fun value => value) = fun node => node := by
    funext node
    rw [CompiledNode.dataIn, Table.map_self]
  have hnodes := hsame.nodes
  rwa [hself, Table.map_self, Table.map_self] at hnodes

theorem eq_of_metadata (hsame : first.SameProgram (fun value => value) second)
    (hmetadata : first.metadata = second.metadata) : first = second := by
  have hnodes := hsame.nodes_eq
  obtain ⟨hid, hname, hstart, hentrypoints, -⟩ := hsame
  cases first
  cases second
  simp only at hid hname hstart hentrypoints hnodes hmetadata
  subst hid hname hstart hentrypoints hnodes hmetadata
  rfl

end CompiledGraph.SameProgram

namespace Graph

structure Alike (view : Value → Value) (first second : Graph) : Prop where
  id : first.id = second.id
  name : first.name = second.name
  registry : first.registry = second.registry
  nodes : first.canonicalNodes.map (Node.content view) =
    second.canonicalNodes.map (Node.content view)
  ends : first.canonicalConnections.map Connection.ends =
    second.canonicalConnections.map Connection.ends

namespace Alike

variable {view : Value → Value} {first second : Graph}

theorem symm (halike : first.Alike view second) : second.Alike view first :=
  ⟨halike.id.symm, halike.name.symm, halike.registry.symm, halike.nodes.symm,
    halike.ends.symm⟩

/-! ## Soundness -/

theorem exists_connection (halike : first.Alike view second)
    {connection : Connection} (hmem : connection ∈ second.connections) :
    ∃ other ∈ first.connections, other.ends = connection.ends := by
  have hends : connection.ends ∈
      second.canonicalConnections.map Connection.ends :=
    List.mem_map_of_mem (second.canonicalConnections_perm.mem_iff.mpr hmem)
  rw [← halike.ends] at hends
  obtain ⟨other, hother, heq⟩ := List.mem_map.mp hends
  exact ⟨other, first.canonicalConnections_perm.mem_iff.mp hother, heq⟩

theorem content_getNode? (halike : first.Alike view second) (nodeId : String) :
    (first.getNode? nodeId).map (Node.content view) =
      (second.getNode? nodeId).map (Node.content view) := by
  have hfind (graph : Graph) : (graph.getNode? nodeId).map (Node.content view) =
      (graph.canonicalNodes.map (Node.content view)).find? (·.1 == nodeId) := by
    rw [← getNode?_canonicalForm, List.find?_map]
    rfl
  rw [hfind, hfind, halike.nodes]

theorem hasPort (halike : first.Alike view second) {direction : Direction}
    {ref : PortRef} (hport : first.HasPort direction ref) :
    second.HasPort direction ref := by
  obtain ⟨node, hnode, hrange⟩ := hport
  have hcontent := halike.content_getNode? ref.nodeId
  rw [hnode, Option.map_some] at hcontent
  obtain ⟨other, hother, heq⟩ := Option.map_eq_some_iff.mp hcontent.symm
  have hkind : other.kind = node.kind := congrArg (·.2.1) heq
  refine ⟨other, hother, ?_⟩
  rw [hkind, ← halike.registry]
  exact hrange

theorem bound (halike : first.Alike view second) :
    (first.connections.map boundPort).Perm
      (second.connections.map boundPort) := by
  have hbound : first.canonicalConnections.map boundPort =
      second.canonicalConnections.map boundPort := by
    refine map_eq_of_determined (fun connection other heq => ?_) halike.ends
    have htarget : connection.target = other.target := congrArg Prod.snd heq
    rw [boundPort, boundPort, htarget]
  calc
    (first.connections.map boundPort).Perm
        (first.canonicalConnections.map boundPort) :=
      (first.canonicalConnections_perm.map boundPort).symm
    _ = second.canonicalConnections.map boundPort := hbound
    _ |>.Perm (second.connections.map boundPort) :=
      second.canonicalConnections_perm.map boundPort

theorem sound (halike : first.Alike view second) (hsound : first.Sound)
    (hdistinct : (second.connections.map Connection.id).Nodup) :
    second.Sound := by
  refine ⟨?_, halike.bound.nodup_iff.mp hsound.single, hdistinct⟩
  intro connection hmem direction
  obtain ⟨other, hother, hends⟩ := halike.exists_connection hmem
  have hend : direction.endOf other = direction.endOf connection := by
    cases direction with
    | output => exact congrArg Prod.fst hends
    | input => exact congrArg Prod.snd hends
  rw [← hend]
  exact halike.hasPort (hsound.ends other hother direction)

theorem hasTrigger (halike : first.Alike view second)
    (htrigger : first.HasTrigger) : second.HasTrigger := by
  obtain ⟨node, hmem, hkind⟩ := htrigger
  have hcontent := halike.content_getNode? node.id
  rw [getNode?_of_mem hmem, Option.map_some] at hcontent
  obtain ⟨other, hother, heq⟩ := Option.map_eq_some_iff.mp hcontent.symm
  refine ⟨other, mem_of_getNode? hother, ?_⟩
  rw [← hkind]
  exact congrArg (·.2.1) heq

/-! ## What the runtime executes -/

/-- A trigger's dump determines its entrypoint. -/
theorem entrypointOf?_eq {node other : Node}
    (heq : node.content view = other.content view) :
    entrypointOf? node = entrypointOf? other := by
  obtain ⟨nodeId, position, properties, named⟩ := node
  obtain ⟨otherId, otherPosition, otherProperties, otherNamed⟩ := other
  simp only [Node.content, Prod.mk.injEq, Node.kind] at heq
  obtain ⟨rfl, hkind, hdump⟩ := heq
  cases properties with
  | trigger properties =>
    cases otherProperties with
    | trigger others =>
      simp only [Properties.dumpIn, Properties.fieldsWith,
        TriggerProperties.fields, List.cons.injEq, Prod.mk.injEq,
        Value.str.injEq, true_and, and_true] at hdump
      simp only [entrypointOf?, hdump]
    | _ => cases hkind
  | _ =>
    cases otherProperties with
    | trigger => cases hkind
    | _ => rfl

theorem entrypoints (halike : first.Alike view second) (singleEntry : Bool) :
    entrypointsOf singleEntry first.canonicalNodes =
      entrypointsOf singleEntry second.canonicalNodes := by
  have hentries : first.canonicalNodes.filterMap entrypointOf? =
      second.canonicalNodes.filterMap entrypointOf? := by
    have hmap :=
      map_eq_of_determined (fun _ _ heq => entrypointOf?_eq heq) halike.nodes
    have hfilter (nodes : List Node) :
        nodes.filterMap entrypointOf? =
          (nodes.map entrypointOf?).filterMap fun entry => entry := by
      rw [List.filterMap_map]
      rfl
    rw [hfilter, hfilter, hmap]
  simp only [entrypointsOf, hentries]

/-- The targets of an output port, in order. -/
theorem targets_outgoing (halike : first.Alike view second) (nodeId : String)
    (port : Int) :
    ((first.canonicalForm.outgoing nodeId).filter (·.source.port == port)).map
        (·.target.nodeId) =
      ((second.canonicalForm.outgoing nodeId).filter
        (·.source.port == port)).map
        (·.target.nodeId) := by
  have hends (graph : Graph) :
      ((graph.canonicalForm.outgoing nodeId).filter (·.source.port == port)).map
          (·.target.nodeId) =
        (((graph.canonicalConnections.map Connection.ends).filter
          (·.1.nodeId == nodeId)).filter (·.1.port == port)).map
            (·.2.nodeId) := by
    rw [List.filter_map, List.filter_map, List.map_map]
    rfl
  rw [hends, hends, halike.ends]

theorem dataIn_compileNode (halike : first.Alike view second)
    (hview : Value.IsView view) {node other : Node}
    (heq : node.content view = other.content view) :
    (first.canonicalForm.compileNode node).dataIn view =
      (second.canonicalForm.compileNode other).dataIn view := by
  simp only [Node.content, Prod.mk.injEq] at heq
  obtain ⟨hid, hkind, hdump⟩ := heq
  have hdata (node : Node) :
    ((Table.ofList node.properties.dump).map view).entries =
      node.properties.dumpIn view := by
    rw [← hview.map_dump, Table.entries_map,
      Table.entries_ofList node.properties.names_dump_nodup]
  have htable : (Table.ofList node.properties.dump).map view =
      (Table.ofList other.properties.dump).map view := by
    apply Table.eq_of_entries
    rw [hdata, hdata, hdump]
  have hregistry : first.canonicalForm.registry =
      second.canonicalForm.registry :=
    halike.registry
  have hslots :
      (first.canonicalForm.outputSlots node).map
        (fun slot => slot.map (·.target.nodeId)) =
          (second.canonicalForm.outputSlots other).map
            (fun slot => slot.map (·.target.nodeId)) := by
    simp only [outputSlots, List.map_map, hregistry, hkind, hid]
    apply List.map_congr_left
    intro port _
    exact halike.targets_outgoing other.id port
  simp only [compileNode, CompiledNode.dataIn, hkind, htable, hslots]

theorem flatten (halike : first.Alike view second) (hview : Value.IsView view)
    (singleEntry : Bool) (metadata other : Metadata) :
    (first.canonicalForm.flatten singleEntry metadata).SameProgram view
      (second.canonicalForm.flatten singleEntry other) where
  id := halike.id
  name := halike.name
  startNode :=
    congrArg (·.head?.map Entrypoint.nodeId) (halike.entrypoints singleEntry)
  entrypoints := halike.entrypoints singleEntry
  nodes := by
    apply Table.eq_of_entries
    rw [Table.entries_map, Table.entries_map, entries_flatten, entries_flatten,
      List.map_map, List.map_map]
    refine map_eq_of_determined (fun node other heq => ?_) halike.nodes
    have hid : node.id = other.id := congrArg Prod.fst heq
    have hnode := halike.dataIn_compileNode hview heq
    exact Prod.ext hid hnode

/-! ## Compilation -/

/-- Either both graphs are refused for what validation finds, or both compile to
the same program. -/
theorem compile (halike : first.Alike view second) (hview : Value.IsView view)
    (hfirst : (first.connections.map Connection.id).Nodup)
    (hsecond : (second.connections.map Connection.id).Nodup)
    (hwritable : first.isWritable = true) (hother : second.isWritable = true)
    (version : String) (singleEntry : Bool) (time later : Timestamp) :
    (∃ findings others,
      first.compile version singleEntry time = .error (.invalid findings) ∧
        second.compile version singleEntry later = .error (.invalid others)) ∨
      ∃ compiled again, first.compile version singleEntry time = .ok compiled ∧
        second.compile version singleEntry later = .ok again ∧
        compiled.SameProgram view again := by
  by_cases hcompiles : first.Sound ∧ first.HasTrigger
  · have hsound := halike.sound hcompiles.1 hsecond
    have htrigger := halike.hasTrigger hcompiles.2
    exact .inr ⟨_, _,
      compile_eq_ok_iff.mpr ⟨hcompiles.1, hcompiles.2, hwritable, rfl⟩,
      compile_eq_ok_iff.mpr ⟨hsound, htrigger, hother, rfl⟩,
      halike.flatten hview _ _ _⟩
  · have hrefused : ¬ (second.Sound ∧ second.HasTrigger) := fun hboth =>
      hcompiles ⟨halike.symm.sound hboth.1 hfirst,
        halike.symm.hasTrigger hboth.2⟩
    obtain ⟨findings, hfindings⟩ :=
      compile_eq_invalid hfirst hcompiles version singleEntry time
    obtain ⟨others, hothers⟩ :=
      compile_eq_invalid hsecond hrefused version singleEntry later
    exact .inl ⟨findings, others, hfindings, hothers⟩

end Alike

end Graph

end StoryGraph
