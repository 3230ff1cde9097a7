import StoryGraph.Proofs.Graph.Reach
import StoryGraph.Proofs.Play.Loopless

/-!
# Nodes that are never visited

Compilation warns of the nodes that validation does not reach from a trigger.
The output ports of a compiled graph lead exactly along the valid connections
over which validation spreads, and an activation only goes where output ports
lead.  So the nodes of these warnings are never visited, and as long as every
trigger is an entrypoint, all others can be reached.
-/

namespace StoryGraph

/-! ## Paths through compiled graphs -/

/-- There are no ports before the first one. -/
theorem CompiledNode.port_nonneg_of_mem {node : CompiledNode} {port : Int}
    {next : String} (htarget : next ∈ node.targets port) : 0 ≤ port := by
  unfold targets at htarget
  split at htarget
  · cases htarget
  · omega

namespace CompiledGraph

/-- A node is one of the targets of another one, at any output port. -/
def Follows (graph : CompiledGraph) (nodeId next : String) : Prop :=
  ∃ node port, graph.nodes.find? nodeId = some node ∧ next ∈ node.targets port

/-- A node lies on a path from an entrypoint. -/
def CanReach (graph : CompiledGraph) (nodeId : String) : Prop :=
  ∃ entry ∈ graph.entrypoints,
    Relation.ReflTransGen graph.Follows entry.nodeId nodeId

variable {graph : CompiledGraph}

/-- The node that is followed is the first of the targets. -/
theorem Leads.follows {nodeId next : String}
    (hleads : graph.Leads nodeId next) : graph.Follows nodeId next := by
  obtain ⟨node, port, hnode, hnext⟩ := hleads
  exact ⟨node, port, hnode, List.mem_of_head? hnext⟩

theorem Route.path {entry nodeId : String} {passed : List String}
    (hroute : graph.Route entry passed nodeId) :
    Relation.ReflTransGen graph.Follows entry nodeId := by
  induction hroute with
  | start => exact .refl
  | step _ hleads ih => exact ih.tail hleads.follows

end CompiledGraph

/-- An activation visits nodes on paths from its entrypoint only. -/
theorem Activation.OnRoute.path {activation : Activation}
    (hroute : activation.OnRoute) {nodeId : String}
    (hvisited : nodeId ∈ activation.visited.toList) :
    Relation.ReflTransGen activation.graph.Follows activation.entry nodeId := by
  rcases List.eq_nil_or_concat' activation.visited.toList with
    hnone | ⟨passed, last, hlast⟩
  · rw [hnone] at hvisited
    cases hvisited
  · have hway := hroute.route passed last hlast
    rw [hlast] at hvisited
    rcases List.mem_append.mp hvisited with hpassed | hnew
    · obtain ⟨before, hearlier, -⟩ := hway.exists_shorter hpassed
      exact hearlier.path
    · rw [List.mem_singleton.mp hnew]
      exact hway.path

theorem Stage.Reachable.canReach {stage : Stage} (hreachable : stage.Reachable)
    {activation : Activation} (hmem : activation ∈ stage.activations)
    {nodeId : String} (hvisited : nodeId ∈ activation.visited.toList) :
    activation.graph.CanReach nodeId := by
  obtain ⟨htravels, hentry⟩ := hreachable.travels hmem
  obtain ⟨entry, hfound⟩ := Option.isSome_iff_exists.mp hentry
  have hid : entry.nodeId = activation.entry := by
    simpa using List.find?_some hfound
  refine ⟨entry, List.mem_of_find?_eq_some hfound, ?_⟩
  rw [hid]
  exact htravels.path hvisited

/-! ## Warnings about nodes -/

/-- The warning about a node that cannot be reached. -/
def unreachableText (nodeId : String) : String :=
  "UNREACHABLE_NODE:nodes." ++ nodeId

/-- Nothing else is warned about in the same words. -/
theorem Finding.eq_unreachable {finding : Finding} {nodeId : String}
    (htext : finding.warningText = unreachableText nodeId) :
    finding = .unreachable nodeId := by
  unfold unreachableText at htext
  cases finding with
  | unreachable other =>
    have hsame : "UNREACHABLE_NODE:nodes." ++ other =
        "UNREACHABLE_NODE:nodes." ++ nodeId := by
      simpa [warningText, code, path, ← String.append_assoc] using htext
    rw [String.append_right_inj] at hsame
    rw [hsame]
  | _ =>
    have hletters := congrArg String.toList htext
    simp [warningText, code, path, String.toList_append] at hletters

namespace Graph

section Compiled

variable {graph : Graph} {version : String} {singleEntry : Bool}
  {time : Timestamp} {compiled : CompiledGraph}

/-- The output ports of a compiled graph lead along the valid connections. -/
theorem follows_iff
    (hcompile : graph.compile version singleEntry time = .ok compiled)
    (nodeId next : String) :
    compiled.Follows nodeId next ↔ graph.LeadsTo nodeId next := by
  obtain ⟨hsound, -, -, rfl⟩ := compile_eq_ok_iff.mp hcompile
  rw [LeadsTo, hsound.validConnections_eq]
  constructor
  · rintro ⟨compiledNode, port, hfound, htarget⟩
    rw [find?_flatten] at hfound
    obtain ⟨node, hnode, rfl⟩ := Option.map_eq_some_iff.mp hfound
    obtain ⟨number, rfl⟩ :=
      Int.eq_ofNat_of_zero_le (CompiledNode.port_nonneg_of_mem htarget)
    rw [targets_compileNode, id_of_getNode? hnode] at htarget
    split at htarget
    · obtain ⟨connection, hleaves, rfl⟩ := List.mem_map.mp htarget
      obtain ⟨hmem, hfrom⟩ := List.mem_filter.mp hleaves
      simp only [leaves, Bool.and_eq_true, beq_iff_eq] at hfrom
      exact ⟨connection, hmem, hfrom.1, rfl⟩
    · cases htarget
  · rintro ⟨connection, hmem, rfl, rfl⟩
    obtain ⟨node, hnode, hfirst, hlast⟩ := hsound.ends connection hmem .output
    have hnode : graph.getNode? connection.source.nodeId = some node := hnode
    obtain ⟨number, hport⟩ := Int.eq_ofNat_of_zero_le hfirst
    have hport : connection.source.port = number := hport
    have hrange : number < graph.registry.outputs node.kind := by
      have hlast : connection.source.port < graph.registry.outputs node.kind :=
        hlast
      omega
    refine ⟨graph.canonicalForm.compileNode node,
      number, by rw [find?_flatten, hnode]; rfl, ?_⟩
    rw [targets_compileNode, if_pos hrange, id_of_getNode? hnode]
    exact List.mem_map.mpr
      ⟨connection, List.mem_filter.mpr ⟨hmem, by simp [leaves, hport]⟩, rfl⟩

theorem isSome_find?_iff
    (hcompile : graph.compile version singleEntry time = .ok compiled)
    (nodeId : String) :
    (compiled.nodes.find? nodeId).isSome ↔
      nodeId ∈ graph.nodes.map Node.id := by
  constructor
  · exact mem_ids_of_compile hcompile
  · intro hmem
    obtain ⟨node, hnode, rfl⟩ := List.mem_map.mp hmem
    obtain ⟨findings, -, rfl⟩ := compile_eq_ok hcompile
    rw [find?_flatten, getNode?_of_mem hnode]
    rfl

/-- Entrypoints are triggers. -/
theorem mem_triggers_of_mem_entrypoints
    (hcompile : graph.compile version singleEntry time = .ok compiled)
    {entry : Entrypoint} (hentry : entry ∈ compiled.entrypoints) :
    entry.nodeId ∈ graph.triggers := by
  obtain ⟨findings, -, rfl⟩ := compile_eq_ok hcompile
  obtain ⟨node, hnode, hid, hkind⟩ := mem_entrypointsOf hentry
  exact mem_triggers_iff.mpr ⟨node, graph.canonicalNodes_perm.mem_iff.mp hnode,
    hid, hkind⟩

/-- Triggers are entrypoints, unless only one of them may be. -/
theorem exists_entrypoint_of_mem_triggers
    (hcompile : graph.compile version false time = .ok compiled)
    {nodeId : String} (htrigger : nodeId ∈ graph.triggers) :
    ∃ entry ∈ compiled.entrypoints, entry.nodeId = nodeId := by
  obtain ⟨findings, -, rfl⟩ := compile_eq_ok hcompile
  obtain ⟨node, hnode, rfl, hkind⟩ := mem_triggers_iff.mp htrigger
  obtain ⟨entry, hentry⟩ := exists_entrypointOf? hkind
  exact ⟨entry, mem_entrypoints_of_mem hnode hentry _,
    (entrypointOf?_eq_some hentry).1.symm⟩

/-- A compiled graph warns of exactly the nodes that are on no path from a
trigger. -/
theorem unreachable_mem_warnings_iff
    (hcompile : graph.compile version singleEntry time = .ok compiled)
    (nodeId : String) :
    unreachableText nodeId ∈ compiled.metadata.warnings ↔
      (compiled.nodes.find? nodeId).isSome ∧
        ¬ ∃ trigger ∈ graph.triggers,
          Relation.ReflTransGen compiled.Follows trigger nodeId := by
  -- Both sides are paths along the valid connections, from the triggers on.
  have hfollows : compiled.Follows = graph.LeadsTo :=
    funext₂ fun nodeId next => propext (follows_iff hcompile nodeId next)
  rw [isSome_find?_iff hcompile, hfollows, ← mem_reachable_iff]
  obtain ⟨hsound, -, -, rfl⟩ := compile_eq_ok_iff.mp hcompile
  rw [← @unreachable_mem_validate_iff graph singleEntry]
  have hwarnings :
      unreachableText nodeId ∈ warningTexts (graph.validate singleEntry) ↔
        ∃ finding ∈ graph.validate singleEntry,
          finding.warningText = unreachableText nodeId := by
    rw [warningTexts, List.mem_mergeSort, List.mem_map]
  refine hwarnings.trans ?_
  constructor
  · rintro ⟨finding, hmem, htext⟩
    rwa [Finding.eq_unreachable htext] at hmem
  · intro hmem
    exact ⟨_, hmem, rfl⟩

/-- The warnings about nodes are right: no activation of a compiled graph ever
visits a node that compilation has called unreachable, and in multi-entry mode
all other nodes can be reached from an entrypoint. -/
theorem warned_unvisited
    (hcompile : graph.compile version singleEntry time = .ok compiled) :
    (∀ stage : Stage, stage.Reachable → ∀ activation ∈ stage.activations,
      activation.graph = compiled → ∀ nodeId,
        unreachableText nodeId ∈ compiled.metadata.warnings →
          nodeId ∉ activation.visited.toList) ∧
      (singleEntry = false → ∀ nodeId, (compiled.nodes.find? nodeId).isSome →
        unreachableText nodeId ∉ compiled.metadata.warnings →
          compiled.CanReach nodeId) := by
  constructor
  · rintro stage hreachable activation hmem rfl nodeId hwarned hvisited
    obtain ⟨entry, hentry, hpath⟩ := hreachable.canReach hmem hvisited
    exact ((unreachable_mem_warnings_iff hcompile nodeId).mp hwarned).2
      ⟨entry.nodeId, mem_triggers_of_mem_entrypoints hcompile hentry, hpath⟩
  · rintro rfl nodeId hfound hunwarned
    rw [unreachable_mem_warnings_iff hcompile, not_and, not_not] at hunwarned
    obtain ⟨trigger, htrigger, hpath⟩ := hunwarned hfound
    obtain ⟨entry, hentry, rfl⟩ :=
      exists_entrypoint_of_mem_triggers hcompile htrigger
    exact ⟨entry, hentry, hpath⟩

end Compiled

/-- No valid connection leads from the triggers and the two nodes after them to
the cycle. -/
theorem crossroads_unreached {trigger nodeId : String}
    (htrigger : trigger ∈ crossroads.triggers)
    (hpath : Relation.ReflTransGen crossroadsCompiled.Follows trigger nodeId) :
    nodeId ∈ ["dawn", "dusk", "guard", "mark"] := by
  induction hpath with
  | refl =>
    obtain ⟨node, hnode, rfl, hkind⟩ := mem_triggers_iff.mp htrigger
    have hall : ∀ node ∈ crossroads.nodes, node.kind = .trigger →
        node.id ∈ ["dawn", "dusk", "guard", "mark"] := by decide +kernel
    exact hall node hnode hkind
  | tail _ hfollows ih =>
    obtain ⟨connection, hmem, rfl, rfl⟩ :=
      (follows_iff crossroads_compile _ _).mp hfollows
    have hclosed :
        ∀ connection ∈ crossroads.connections,
          connection.source.nodeId ∈ ["dawn", "dusk", "guard", "mark"] →
            connection.target.nodeId ∈ ["dawn", "dusk", "guard", "mark"] := by
      decide +kernel
    exact hclosed connection (List.mem_filter.mp hmem).1 ih

theorem crossroads_warned_unvisited :
    unreachableText "tick" ∈ crossroadsCompiled.metadata.warnings ∧
      "tick" ∉ (crossing "dawn").visited.toList ∧
        crossroadsCompiled.CanReach "guard" := by
  obtain ⟨hgraph, -, stage, hreachable, -, hmem⟩ :=
    crossing_reached "dawn" (by decide +kernel)
  obtain ⟨hunvisited, hreached⟩ := warned_unvisited crossroads_compile
  have hwarned : unreachableText "tick" ∈
      crossroadsCompiled.metadata.warnings := by
    refine (unreachable_mem_warnings_iff crossroads_compile "tick").mpr
      ⟨by decide +kernel, ?_⟩
    rintro ⟨trigger, htrigger, hpath⟩
    have hnear := crossroads_unreached htrigger hpath
    revert hnear
    decide
  have hunwarned :
      unreachableText "guard" ∉ crossroadsCompiled.metadata.warnings := by
    rw [unreachable_mem_warnings_iff crossroads_compile, not_and, not_not]
    intro _
    have hleads :
        ∃ connection ∈ crossroads.validConnections, connection.source.nodeId =
          "dusk" ∧ connection.target.nodeId = "guard" := by
      decide +kernel
    exact ⟨"dusk", mem_triggers_iff.mpr (by decide +kernel),
      .single ((follows_iff crossroads_compile _ _).mpr hleads)⟩
  exact ⟨hwarned, hunvisited stage hreachable _ hmem hgraph "tick" hwarned,
    hreached rfl "guard" (by decide +kernel) hunwarned⟩

end Graph

end StoryGraph
