import Mathlib.Data.List.Perm.Subperm
import StoryGraph.Proofs.Graph.Complete
import StoryGraph.Proofs.Graph.Editing
import StoryGraph.Proofs.Play.Route
import StoryGraph.Proofs.Play.Solo

/-!
# Runs without loops

Nothing looks for cycles when a graph is compiled.  But no input port may be
bound twice, nodes of the usual kinds have at most one input, and triggers have
none.  So a node is entered from one place only and an entrypoint from nowhere,
and a route from an entrypoint never comes back to a node, nor does it meet a
route from another entrypoint.
-/

namespace StoryGraph

namespace CompiledGraph

/-- Nodes are followed from one node at most, and entrypoints from none. -/
structure Branches (graph : CompiledGraph) : Prop where
  single : ∀ {first second nodeId}, graph.Leads first nodeId →
    graph.Leads second nodeId →
    first = second
  entry : ∀ {nodeId entry}, (graph.entrypoint? entry).isSome →
    ¬ graph.Leads nodeId entry

/-! ## Routes from entrypoints -/

section Routes

variable {graph : CompiledGraph} {entry nodeId : String} {passed : List String}

/-- A node that a route has passed is where a shorter route led. -/
theorem Route.exists_shorter (hroute : graph.Route entry passed nodeId)
    {earlier : String} (hmem : earlier ∈ passed) :
    ∃ before, graph.Route entry before earlier ∧
      before.length < passed.length := by
  induction hroute with
  | start => cases hmem
  | @step passed last next hbefore hleads ih =>
    rcases List.mem_append.mp hmem with hold | hnew
    · obtain ⟨before, hshorter, hlength⟩ := ih hold
      exact ⟨before, hshorter, by simp; omega⟩
    · rw [List.mem_singleton.mp hnew]
      exact ⟨passed, hbefore, by simp⟩

/-- Routes to the same node are the same, up to the entrypoint. -/
theorem Branches.route_unique (hbranches : graph.Branches)
    (hentry : (graph.entrypoint? entry).isSome)
    (hroute : graph.Route entry passed nodeId) {other : String}
    (hother : (graph.entrypoint? other).isSome) {rest : List String}
    (hrest : graph.Route other rest nodeId) :
    entry = other ∧ passed = rest := by
  -- Both routes are taken back along the only way into their last node, until
  -- one of them is at its entrypoint, into which there is no way.
  induction hroute generalizing rest with
  | start =>
    cases hrest with
    | start => exact ⟨rfl, rfl⟩
    | step _ hleads => exact absurd hleads (hbranches.entry hentry)
  | step _ hleads ih =>
    cases hrest with
    | start => exact absurd hleads (hbranches.entry hother)
    | step hrest hagain =>
      cases hbranches.single hleads hagain
      obtain ⟨rfl, rfl⟩ := ih hrest
      exact ⟨rfl, rfl⟩

/-- A route never comes back to a node. -/
theorem Branches.route_nodup (hbranches : graph.Branches)
    (hentry : (graph.entrypoint? entry).isSome)
    (hroute : graph.Route entry passed nodeId) :
    (passed ++ [nodeId]).Nodup := by
  induction hroute with
  | start => simp
  | step hbefore hleads ih =>
    have hroute := hbefore.step hleads
    -- If the node had been passed before, a shorter route would lead to it.
    rw [List.nodup_append]
    refine ⟨ih, by simp, ?_⟩
    rintro earlier hearlier next hnext rfl
    rw [List.mem_singleton.mp hnext] at hearlier
    obtain ⟨before, hshorter, hlength⟩ := hroute.exists_shorter hearlier
    obtain ⟨-, rfl⟩ := hbranches.route_unique hentry hroute hentry hshorter
    exact Nat.lt_irrefl _ hlength

/-- Routes from different entrypoints have no node in common. -/
theorem Branches.route_disjoint (hbranches : graph.Branches)
    (hentry : (graph.entrypoint? entry).isSome)
    (hroute : graph.Route entry passed nodeId) {other otherId : String}
    (hother : (graph.entrypoint? other).isSome) (hne : other ≠ entry)
    {rest : List String} (hrest : graph.Route other rest otherId) :
    (passed ++ [nodeId]).Disjoint (rest ++ [otherId]) := by
  have hwithin {entry nodeId : String} {passed : List String} {met : String}
      (hroute : graph.Route entry passed nodeId)
      (hmet : met ∈ passed ++ [nodeId]) :
      ∃ before, graph.Route entry before met := by
    rcases List.mem_append.mp hmet with hold | hnew
    · obtain ⟨before, hshorter, -⟩ := hroute.exists_shorter hold
      exact ⟨before, hshorter⟩
    · rw [List.mem_singleton.mp hnew]
      exact ⟨passed, hroute⟩
  intro met hfirst hsecond
  obtain ⟨before, hbefore⟩ := hwithin hroute hfirst
  obtain ⟨after, hafter⟩ := hwithin hrest hsecond
  exact hne (hbranches.route_unique hother hafter hentry hbefore).1

end Routes

end CompiledGraph

/-! ## Activations of a graph with branches only -/

namespace Activation

variable {activation : Activation}

theorem OnRoute.visited_nodup (hroute : activation.OnRoute)
    (hbranches : activation.graph.Branches)
    (hentry : (activation.graph.entrypoint? activation.entry).isSome) :
    activation.visited.toList.Nodup := by
  rcases List.eq_nil_or_concat activation.visited.toList with
    hnone | ⟨passed, last, hvisited⟩
  · simp [hnone]
  · rw [List.concat_eq_append] at hvisited
    rw [hvisited]
    exact hbranches.route_nodup hentry (hroute.route passed last hvisited)

theorem OnRoute.visited_disjoint {other : Activation}
    (hroute : activation.OnRoute) (hother : other.OnRoute)
    (hgraph : other.graph = activation.graph)
    (hbranches : activation.graph.Branches)
    (hentry : (activation.graph.entrypoint? activation.entry).isSome)
    (hotherEntry : (other.graph.entrypoint? other.entry).isSome)
    (hne : other.entry ≠ activation.entry) :
    activation.visited.toList.Disjoint other.visited.toList := by
  rcases List.eq_nil_or_concat activation.visited.toList with
    hnone | ⟨passed, last, hvisited⟩
  · simp [hnone]
  · rcases List.eq_nil_or_concat other.visited.toList with
      hnone | ⟨rest, final, hrest⟩
    · simp [hnone]
    · rw [List.concat_eq_append] at hvisited hrest
      have hotherRoute := hother.route rest final hrest
      rw [hgraph] at hotherRoute hotherEntry
      rw [hvisited, hrest]
      exact hbranches.route_disjoint hentry (hroute.route passed last hvisited)
        hotherEntry hne hotherRoute

/-- A limit of at least the number of nodes does not stop the activation. -/
theorem Travels.unlimited {limit : Nat} (htravels : activation.Travels limit)
    (hbranches : activation.graph.Branches)
    (hentry : (activation.graph.entrypoint? activation.entry).isSome)
    {ids : List String}
    (hids : ∀ nodeId, (activation.graph.nodes.find? nodeId).isSome →
      nodeId ∈ ids) (hlimit : ids.length ≤ limit) :
    Unlimited activation.state := by
  intro diagnostic hstate hcode
  obtain ⟨hreached, hcomes, hfound⟩ := htravels.limited diagnostic hstate hcode
  have hnodup := hbranches.route_nodup hentry hcomes
  have hsubset : activation.visited.toList ++ [diagnostic.nodeId] ⊆ ids := by
    intro nodeId hmem
    rcases List.mem_append.mp hmem with hold | hnew
    · exact hids nodeId (htravels.found nodeId hold)
    · rw [List.mem_singleton.mp hnew]
      exact hids _ hfound
  have hlength := (List.subperm_of_subset hnodup hsubset).length_le
  have hsteps := htravels.steps
  simp only [List.length_append, Array.length_toList,
    List.length_singleton] at hlength
  omega

end Activation

namespace Graph

/-! ## Graphs over the standard registry -/

section Compiled

variable {graph : Graph} {version : String} {singleEntry : Bool}
  {time : Timestamp} {compiled : CompiledGraph}

/-- Nodes of a compiled graph are followed along connections. -/
theorem exists_connection_of_leads
    (hcompile : graph.compile version singleEntry time = .ok compiled)
    {nodeId next : String} (hleads : compiled.Leads nodeId next) :
    ∃ connection ∈ graph.connections,
      connection.source.nodeId = nodeId ∧ connection.target.nodeId = next := by
  obtain ⟨hsound, -, -, rfl⟩ := compile_eq_ok_iff.mp hcompile
  obtain ⟨compiledNode, port, hfound, hnext⟩ := hleads
  rw [find?_flatten] at hfound
  obtain ⟨node, hnode, rfl⟩ := Option.map_eq_some_iff.mp hfound
  rw [next?_compileNode (mem_of_getNode? hnode) fun connection hmem =>
    hsound.ends _ hmem .output, firstTarget?, id_of_getNode? hnode] at hnext
  obtain ⟨connection, hfirst, htarget⟩ := Option.map_eq_some_iff.mp hnext
  have hleaves := List.find?_some hfirst
  simp only [leaves, Bool.and_eq_true, beq_iff_eq] at hleaves
  exact ⟨connection, List.mem_of_find?_eq_some hfirst, hleaves.1, htarget⟩

theorem branches_of_compile (hregistry : graph.registry = .standard)
    (hcompile : graph.compile version singleEntry time = .ok compiled) :
    compiled.Branches := by
  have hsound := (compile_eq_ok_iff.mp hcompile).1
  constructor
  case single =>
    intro first second nodeId hfirst hsecond
    obtain ⟨connection, hmem, rfl, htarget⟩ :=
      exists_connection_of_leads hcompile hfirst
    obtain ⟨other, hother, rfl, hagain⟩ :=
      exists_connection_of_leads hcompile hsecond
    have hport := (hsound.ends connection hmem .input).port_eq_zero hregistry
    have hotherPort := (hsound.ends other hother .input).port_eq_zero hregistry
    have hbound : boundPort connection = boundPort other :=
      Prod.ext (htarget.trans hagain.symm) (hport.trans hotherPort.symm)
    rw [eq_of_distinct hsound.single hmem hother hbound]
  case entry =>
    intro nodeId entry hentry hleads
    obtain ⟨connection, hmem, -, htarget⟩ :=
      exists_connection_of_leads hcompile hleads
    obtain ⟨found, hfound⟩ := Option.isSome_iff_exists.mp hentry
    have hfoundId : found.nodeId = entry := by
      simpa using List.find?_some hfound
    have hfoundMem : found ∈ compiled.entrypoints :=
      List.mem_of_find?_eq_some hfound
    obtain ⟨findings, -, rfl⟩ := compile_eq_ok hcompile
    obtain ⟨trigger, htrigger, hid, hkind⟩ := mem_entrypointsOf hfoundMem
    have hnode : graph.getNode? trigger.id = some trigger :=
      getNode?_of_mem (graph.canonicalNodes_perm.mem_iff.mp htrigger)
    rw [hid, hfoundId, ← htarget] at hnode
    exact (hsound.ends connection hmem .input).kind_ne_trigger
      hregistry hnode hkind

theorem mem_ids_of_compile
    (hcompile : graph.compile version singleEntry time = .ok compiled)
    {nodeId : String} (hfound : (compiled.nodes.find? nodeId).isSome) :
    nodeId ∈ graph.nodes.map Node.id := by
  obtain ⟨findings, -, rfl⟩ := compile_eq_ok hcompile
  rw [find?_flatten, Option.isSome_map] at hfound
  obtain ⟨node, hnode⟩ := Option.isSome_iff_exists.mp hfound
  rw [← id_of_getNode? hnode]
  exact List.mem_map_of_mem (mem_of_getNode? hnode)

/-- Activations of a compiled graph never visit a node twice, so that a limit of
at least the number of nodes never stops them, and activations from different
entrypoints have no node in common. -/
theorem visits_without_loops (hregistry : graph.registry = .standard)
    (hcompile : graph.compile version singleEntry time = .ok compiled)
    {stage : Stage} (hreachable : stage.Reachable) {activation : Activation}
    (hmem : activation ∈ stage.activations)
    (hgraph : activation.graph = compiled) :
    activation.visited.toList.Nodup ∧
      activation.visited.size ≤ graph.nodes.length ∧
      (graph.nodes.length ≤ stage.limit → ∀ diagnostic,
        activation.state = .aborted diagnostic →
          diagnostic.code ≠ "STEP_LIMIT_EXCEEDED") ∧
      ∀ elsewhere : Stage, elsewhere.Reachable →
        ∀ other ∈ elsewhere.activations,
        other.graph = compiled → other.entry ≠ activation.entry →
          activation.visited.toList.Disjoint other.visited.toList := by
  have hbranches := branches_of_compile hregistry hcompile
  have hids (nodeId : String) (hfound : (compiled.nodes.find? nodeId).isSome) :
      nodeId ∈ graph.nodes.map Node.id := mem_ids_of_compile hcompile hfound
  subst hgraph
  obtain ⟨htravels, hentry⟩ := hreachable.travels hmem
  have hnodup := htravels.visited_nodup hbranches hentry
  refine ⟨hnodup, ?_, ?_, ?_⟩
  · have hsubset : activation.visited.toList ⊆ graph.nodes.map Node.id :=
      fun nodeId hvisited => hids nodeId (htravels.found nodeId hvisited)
    simpa using (List.subperm_of_subset hnodup hsubset).length_le
  · intro hlimit
    exact htravels.unlimited hbranches hentry hids (by simpa using hlimit)
  · intro elsewhere helsewhere other hother hsame hne
    obtain ⟨hotherTravels, hotherEntry⟩ := helsewhere.travels hother
    exact htravels.visited_disjoint hotherTravels.toOnRoute hsame hbranches
      hentry hotherEntry hne

end Compiled

/-- Builds two triggers that each lead to a node, and a cycle of two nodes that
nothing leads to. -/
def crossroadsEdits : List Edit :=
  [.createNode (.str "trigger") .null .null (some "dawn"),
    .createNode (.str "trigger") .null .null (some "dusk"),
    .createNode (.str "dialogue") .null .null (some "guard"),
    .createNode (.str "action") .null
      (.dict [("actionType", .str "set_flag"), ("target", .str "met")])
      (some "mark"),
    .createNode (.str "condition") .null .null (some "tick"),
    .createNode (.str "teleport") .null .null (some "tock"),
    .connect (.tuple [.str "dawn", .int 0]) (.tuple [.str "mark", .int 0]),
    .connect (.tuple [.str "dusk", .int 0]) (.tuple [.str "guard", .int 0]),
    .connect (.tuple [.str "tick", .int 0]) (.tuple [.str "tock", .int 0]),
    .connect (.tuple [.str "tock", .int 0]) (.tuple [.str "tick", .int 0])]

def crossroads : Graph :=
  ((Desk.fresh ⟨"crossroads", by decide⟩ "" .standard ⟨1⟩).editAll
    crossroadsEdits).graph

/-- The nodes and connections of `crossroads` have been added in order. -/
def crossroadsCompiled : CompiledGraph :=
  crossroads.flatten false
    ⟨noon, "1.0", warningTexts (crossroads.validate false)⟩

theorem crossroads_compile :
    crossroads.compile "1.0" false noon = .ok crossroadsCompiled := by
  have hsound : crossroads.Sound :=
    ((Desk.fresh_orderly _ _ _ _).editAll crossroadsEdits).sound
  have htrigger : ∃ node ∈ crossroads.nodes, node.kind = .trigger := by
    decide +kernel
  have hsorted : crossroads.canonicalForm = crossroads :=
    canonicalForm_eq_self (by decide +kernel) (by decide +kernel)
  refine compile_eq_ok_iff.mpr ⟨hsound, htrigger, by decide +kernel, ?_⟩
  rw [hsorted]
  rfl

/-- The activation that begins at a trigger of `crossroads`. -/
def crossing (entry : String) : Activation :=
  (Stage.opening 6 .empty crossroadsCompiled entry).1.activation

theorem crossing_reached (entry : String)
    (hentry : Stage.entryOf crossroadsCompiled (some entry) = .ok entry) :
    (crossing entry).graph = crossroadsCompiled ∧
      (crossing entry).entry = entry ∧
      ∃ stage : Stage, stage.Reachable ∧ stage.limit = 6 ∧
        crossing entry ∈ stage.activations := by
  have hcontinues := Turn.continues_continueAt 6 entry
    ⟨Context.empty.activate Stage.firstId,
      .start Stage.firstId crossroadsCompiled entry⟩
  have hversion :
      (Stage.initial 6 ">=1.0" .empty).checkVersion crossroadsCompiled =
        .ok () := by
    decide +kernel
  refine ⟨hcontinues.graph, hcontinues.entry, _,
    ⟨6, ">=1.0", .empty, [.activate crossroadsCompiled (some entry)], rfl⟩, ?_⟩
  simp only [Stage.session_cons, Stage.session_nil, Stage.step,
    Stage.activate_initial hversion hentry]
  exact ⟨rfl, List.mem_singleton_self _⟩

theorem crossroads_visits :
    (crossing "dawn").visited = #["dawn", "mark"] ∧
      (crossing "dusk").visited = #["dusk", "guard"] ∧
      (crossing "dawn").visited.toList.Nodup ∧
      (∀ diagnostic, (crossing "dawn").state = .aborted diagnostic →
        diagnostic.code ≠ "STEP_LIMIT_EXCEEDED") ∧
      (crossing "dawn").visited.toList.Disjoint
        (crossing "dusk").visited.toList := by
  obtain ⟨hdawnGraph, hdawnEntry, stage, hreachable, hlimit, hdawn⟩ :=
    crossing_reached "dawn" (by decide +kernel)
  obtain ⟨hduskGraph, hduskEntry, elsewhere, helsewhere, -, hdusk⟩ :=
    crossing_reached "dusk" (by decide +kernel)
  obtain ⟨hnodup, -, hunlimited, hdisjoint⟩ :=
    visits_without_loops (by decide +kernel)
      crossroads_compile hreachable hdawn hdawnGraph
  refine ⟨by decide +kernel, by decide +kernel, hnodup, ?_, ?_⟩
  · apply hunlimited
    rw [hlimit]
    decide +kernel
  · apply hdisjoint elsewhere helsewhere _ hdusk hduskGraph
    rw [hduskEntry, hdawnEntry]
    decide

end Graph

end StoryGraph
