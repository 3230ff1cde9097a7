import Mathlib.Data.List.Perm.Subperm
import StoryGraph.Proofs.Graph.Alike
import StoryGraph.Proofs.Graph.Reviewed

/-!
# Graphs in another order

A graph may be put together in another order, at other places.  As long as the
connections of each output port keep their order, what is compiled is the same,
with one exception: a connection that leads back to its own node is warned about
by its position among all connections.
-/

namespace StoryGraph

namespace Graph

/-- What a node is, wherever it is. -/
def entryOfNode (node : Node) : String × Properties :=
  (node.id, node.properties)

/-- The same nodes in any order and at any places, and the same connections in
an order that is the same for each output port. -/
structure Rearranges (other graph : Graph) : Prop where
  id : other.id = graph.id
  name : other.name = graph.name
  registry : other.registry = graph.registry
  nodes : (other.nodes.map entryOfNode).Perm (graph.nodes.map entryOfNode)
  connections : other.connections.Perm graph.connections
  order : ∀ nodeId port, other.connections.filter (leaves nodeId port) =
    graph.connections.filter (leaves nodeId port)

/-! ## Canonical order -/

/-- Connections neither of which has to come after the other leave one port. -/
theorem leftPort_eq_of_portOrder (first second : Connection)
    (hfirst : portOrder first second = true)
    (hsecond : portOrder second first = true) :
    leftPort first = leftPort second := by
  unfold portOrder leftPort at *
  grind

/-- In canonical order, nodes are told by their contents. -/
theorem map_canonicalNodes_eq {first second : Graph}
    (hperm : (first.nodes.map entryOfNode).Perm
      (second.nodes.map entryOfNode)) :
    first.canonicalNodes.map entryOfNode =
      second.canonicalNodes.map entryOfNode := by
  have hsorted (graph : Graph) : (graph.canonicalNodes.map entryOfNode).Pairwise
      fun first second => first.1 ≤ second.1 := by
    rw [List.pairwise_map]
    refine (List.pairwise_mergeSort nodeOrder_trans nodeOrder_total
      graph.nodes).imp ?_
    intro earlier later horder
    exact of_decide_eq_true horder
  have hcanonical : (first.canonicalNodes.map entryOfNode).Perm
      (second.canonicalNodes.map entryOfNode) :=
    ((first.canonicalNodes_perm.map entryOfNode).trans hperm).trans
      (second.canonicalNodes_perm.map entryOfNode).symm
  have hdistinct :
      ((second.canonicalNodes.map entryOfNode).map Prod.fst).Nodup := by
    rw [List.map_map]
    exact second.canonicalForm.distinct
  refine List.Perm.eq_of_pairwise ?_ (hsorted first) (hsorted second) hcanonical
  intro entry other hentry hother hle hge
  exact eq_of_distinct hdistinct (hcanonical.mem_iff.mp hentry) hother
    (String.le_antisymm hle hge)

theorem map_content_eq {view : Value → Value} {first second : Graph}
    (hperm : (first.nodes.map entryOfNode).Perm
      (second.nodes.map entryOfNode)) :
    first.canonicalNodes.map (Node.content view) =
      second.canonicalNodes.map (Node.content view) := by
  refine map_eq_of_determined (fun node other heq => ?_)
    (map_canonicalNodes_eq hperm)
  obtain ⟨hid, hproperties⟩ := Prod.mk.inj heq
  simp only [Node.content, Node.kind, hid, hproperties]

namespace Rearranges

variable {graph other : Graph}

theorem canonicalConnections (hrearranges : other.Rearranges graph) :
    other.canonicalConnections = graph.canonicalConnections := by
  have hsorted (graph : Graph) : graph.canonicalConnections.Pairwise
      fun first second => portOrder first second = true :=
    List.pairwise_mergeSort portOrder_trans portOrder_total graph.connections
  apply eq_of_filter_eq leftPort_eq_of_portOrder (hsorted other) (hsorted graph)
  rintro ⟨nodeId, port⟩
  calc other.canonicalConnections.filter (leaves nodeId port)
      = other.connections.filter (leaves nodeId port) :=
        filter_canonicalConnections _ _ _
    _ = graph.connections.filter (leaves nodeId port) :=
      hrearranges.order nodeId port
    _ = graph.canonicalConnections.filter (leaves nodeId port) :=
        (filter_canonicalConnections _ _ _).symm

theorem alike (hrearranges : other.Rearranges graph) :
    other.Alike (fun value => value) graph where
  id := hrearranges.id
  name := hrearranges.name
  registry := hrearranges.registry
  nodes := map_content_eq hrearranges.nodes
  ends := by rw [hrearranges.canonicalConnections]

theorem isWritable (hrearranges : other.Rearranges graph) :
    other.isWritable = graph.isWritable := by
  have hall (graph : Graph) : graph.isWritable =
      (graph.nodes.map entryOfNode).all fun entry => entry.2.isWritable := by
    rw [List.all_map]
    rfl
  rw [hall, hall, hrearranges.nodes.all_eq]

theorem sound (hrearranges : other.Rearranges graph)
    (hsound : graph.Sound) : other.Sound :=
  hrearranges.alike.symm.sound hsound
    ((hrearranges.connections.map Connection.id).nodup_iff.mpr
      hsound.distinctIds)

/-! ## What validation finds -/

theorem review (hrearranges : other.Rearranges graph) :
    other.review = graph.review := by
  refine map_eq_of_determined (fun node counterpart heq => ?_)
    (map_canonicalNodes_eq hrearranges.nodes)
  obtain ⟨hid, hproperties⟩ := Prod.mk.inj heq
  simp only [Node.reviewed, Node.kind, hid, hproperties]

theorem leadsTo (hrearranges : other.Rearranges graph) (hsound : graph.Sound) :
    other.LeadsTo = graph.LeadsTo := by
  funext nodeId next
  simp only [LeadsTo, hsound.validConnections_eq,
    (hrearranges.sound hsound).validConnections_eq,
    hrearranges.connections.mem_iff]

end Rearranges

/-! ## Warnings about loops -/

/-- The positions of the connections that lead back to their own node. -/
def selfLoopPositions (graph : Graph) : List Nat :=
  (graph.connections.zipIdx.filter (·.1.isSelfLoop)).map Prod.snd

theorem selfLoopPositions_increasing (graph : Graph) :
    graph.selfLoopPositions.Pairwise (· < ·) :=
  (positions_increasing graph.connections).sublist
    (List.filter_sublist.map Prod.snd)

/-- The warning about a loop at a position. -/
def selfLoopText (position : Nat) : String :=
  "SELF_LOOP:" ++ Finding.connectionPath position

theorem selfLoopText_injective : Function.Injective selfLoopText := by
  intro first second heq
  exact Finding.connectionPath_injective (String.append_right_inj _ |>.mp heq)

/-- The connections of a sound graph are warned about where they are loops. -/
theorem Sound.warningTexts_connectionFindings {graph : Graph}
    (hsound : graph.Sound) :
    graph.connectionFindings.map Finding.warningText =
      graph.selfLoopPositions.map selfLoopText := by
  have hloops (placed : List (Connection × Nat))
      (hplaced : ∀ connection position, (connection, position) ∈ placed →
        connection ∈ graph.connections) :
      ((placed.map fun (connection, position) =>
        graph.endFindings position connection .output ++
          graph.endFindings position connection .input ++
          graph.selfLoopFindings position connection).flatten).map
            Finding.warningText =
        ((placed.filter (·.1.isSelfLoop)).map Prod.snd).map selfLoopText := by
    induction placed with
    | nil => rfl
    | cons first rest ih =>
      obtain ⟨connection, position⟩ := first
      have hends :=
        hsound.ends connection (hplaced connection position List.mem_cons_self)
      obtain ⟨node, hnode, -⟩ := hends .output
      have hnode : graph.getNode? connection.source.nodeId = some node := hnode
      rw [List.map_cons, List.flatten_cons, List.map_append,
        ih fun later place hmem =>
          hplaced later place (List.mem_cons_of_mem _ hmem)]
      simp only [endFindings_eq_nil position (hends .output),
        endFindings_eq_nil position (hends .input), List.nil_append,
        selfLoopFindings, hnode,
        Option.isSome_some, Bool.and_true]
      cases hloop : connection.isSelfLoop with
      | true =>
        simp [hloop, Finding.warningText, Finding.code, Finding.path,
          selfLoopText]
      | false => simp [hloop]
  rw [connectionFindings, List.mapIdx_eq_zipIdx_map]
  exact hloops _ fun connection position hmem => List.fst_mem_of_mem_zipIdx hmem

/-! ## Compilation -/

theorem warningTexts_eq_iff {first second : List Finding} :
    warningTexts first = warningTexts second ↔
      (first.map Finding.warningText).Perm
        (second.map Finding.warningText) := by
  have hperm (findings : List Finding) :
      (warningTexts findings).Perm (findings.map Finding.warningText) :=
    List.mergeSort_perm _ _
  constructor
  · intro heq
    exact (hperm first).symm.trans (heq ▸ hperm second)
  · intro htexts
    exact mergeSort_eq_of_perm (mergeSort_increasing _)
      (htexts.trans (hperm second).symm)

namespace Rearranges

variable {graph other : Graph}

/-- Of all that validation finds, only the places of loops depend on the
order. -/
theorem warningTexts_eq_iff (hrearranges : other.Rearranges graph)
    (hsound : graph.Sound) (singleEntry : Bool) :
    warningTexts (other.validate singleEntry) =
      warningTexts (graph.validate singleEntry) ↔
      other.selfLoopPositions = graph.selfLoopPositions := by
  have hother := hrearranges.sound hsound
  rw [Graph.warningTexts_eq_iff, validate, validate,
    hsound.bindingFindings_eq_nil, hother.bindingFindings_eq_nil,
    startFindings_congr hrearranges.review,
    reachFindings_congr hrearranges.review (hrearranges.leadsTo hsound),
    actionFindings_congr hrearranges.review]
  simp only [List.map_append, List.append_nil, List.perm_append_right_iff]
  rw [hsound.warningTexts_connectionFindings,
    hother.warningTexts_connectionFindings,
    List.map_perm_map_iff selfLoopText_injective]
  constructor
  · intro hpositions
    exact List.Perm.eq_of_pairwise
      (fun _ _ _ _ hlt hgt => absurd hlt (Nat.lt_asymm hgt))
      other.selfLoopPositions_increasing graph.selfLoopPositions_increasing
        hpositions
  · intro hpositions
    rw [hpositions]

theorem compile (hrearranges : other.Rearranges graph) {version : String}
    {singleEntry : Bool} {time : Timestamp} {compiled : CompiledGraph}
    (hcompile : graph.compile version singleEntry time = .ok compiled) :
    other.compile version singleEntry time = .ok { compiled with
      metadata :=
        ⟨time, version, warningTexts (other.validate singleEntry)⟩ } := by
  obtain ⟨hsound, htrigger, hwritable, rfl⟩ := compile_eq_ok_iff.mp hcompile
  refine compile_eq_ok_iff.mpr ⟨hrearranges.sound hsound,
    hrearranges.alike.symm.hasTrigger htrigger,
    hrearranges.isWritable.trans hwritable, ?_⟩
  let metadata : Metadata :=
    ⟨time, version, warningTexts (other.validate singleEntry)⟩
  have hsame :=
    hrearranges.alike.symm.flatten Value.isView_self singleEntry
      metadata metadata
  exact hsame.eq_of_metadata rfl

/-- The order in which a graph was put together shows in the warnings only, and
only if it moves a connection that leads back to its own node. -/
theorem compile_eq_iff (hrearranges : other.Rearranges graph) {version : String}
    {singleEntry : Bool} {time : Timestamp} {compiled : CompiledGraph}
    (hcompile : graph.compile version singleEntry time = .ok compiled) :
    other.compile version singleEntry time = .ok compiled ↔
      other.selfLoopPositions = graph.selfLoopPositions := by
  obtain ⟨hsound, -, -, rfl⟩ := compile_eq_ok_iff.mp hcompile
  rw [hrearranges.compile hcompile,
    ← hrearranges.warningTexts_eq_iff hsound singleEntry]
  simp only [flatten, Except.ok.injEq, CompiledGraph.mk.injEq,
    Metadata.mk.injEq, true_and]

end Rearranges

/-- A graph that is put together in another order compiles to the same document,
unless the warnings differ because a connection that leads back to its own node
has another position. -/
theorem compile_rearranged {graph other : Graph}
    (hrearranges : other.Rearranges graph) {version : String}
    {singleEntry : Bool} {time : Timestamp} {compiled : CompiledGraph}
    (hcompile : graph.compile version singleEntry time = .ok compiled) :
    ∃ again, other.compile version singleEntry time = .ok again ∧
      again = { compiled with
        metadata :=
          { compiled.metadata with warnings := again.metadata.warnings } } ∧
      (again = compiled ↔
        other.selfLoopPositions = graph.selfLoopPositions) := by
  refine ⟨_, hrearranges.compile hcompile, ?_, ?_⟩
  · obtain ⟨-, -, -, rfl⟩ := compile_eq_ok_iff.mp hcompile
    rfl
  · rw [← hrearranges.compile_eq_iff hcompile, hrearranges.compile hcompile,
      Except.ok.injEq]

/-- A trigger that leads to one action, and another action that leads to
itself. -/
def treadmill : Graph :=
  ⟨"treadmill", "", .standard,
    [⟨"entry", .origin, .trigger .initial, by decide⟩,
      ⟨"mark", .origin, .action .initial, by decide⟩,
      ⟨"mill", .origin, .action .initial, by decide⟩],
    [⟨"first", ⟨"entry", 0, by decide⟩, ⟨"mark", 0, by decide⟩, by decide⟩,
      ⟨"second", ⟨"mill", 0, by decide⟩, ⟨"mill", 0, by decide⟩, by decide⟩],
    by decide, by decide⟩

/-- The same graph with its connections made the other way round. -/
def treadmillAgain : Graph :=
  { treadmill with connections := treadmill.connections.reverse }

/-- `treadmill` built in the opposite order and at other places, with other
names for its connections. -/
def treadmillMoved : Graph :=
  ⟨"treadmill", "", .standard,
    [⟨"mill", ⟨some (.signedZero true), none⟩, .action .initial, by decide⟩,
      ⟨"mark", .origin, .action .initial, by decide⟩,
      ⟨"entry", .origin, .trigger .initial, by decide⟩],
    [⟨"upper", ⟨"entry", 0, by decide⟩, ⟨"mark", 0, by decide⟩, by decide⟩,
      ⟨"lower", ⟨"mill", 0, by decide⟩, ⟨"mill", 0, by decide⟩, by decide⟩],
    by decide, by decide⟩

theorem treadmillAgain_rearranges : treadmillAgain.Rearranges treadmill where
  id := rfl
  name := rfl
  registry := rfl
  nodes := .refl _
  connections := List.reverse_perm _
  order := by
    intro nodeId port
    -- The two connections leave different nodes, so that no port has both.
    by_cases hnode : nodeId = "entry"
    · subst hnode
      simp [treadmillAgain, treadmill, leaves, List.filter_cons]
    · have hne : ("entry" == nodeId) = false := by simpa using Ne.symm hnode
      simp [treadmillAgain, treadmill, leaves, List.filter_cons, hne]

/-- When the two are compiled. -/
def newYear : Timestamp := ⟨⟨2024, 1, 1, 0, 0, 0, 0, some 0⟩, by decide⟩

theorem treadmill_compiles :
    ∃ compiled, treadmill.compile "1.0" false newYear = .ok compiled :=
  ⟨_, compile_eq_ok_iff.mpr
    ⟨by decide +kernel, by decide +kernel, by decide +kernel, rfl⟩⟩

theorem treadmillAgain_compiled : ∃ compiled again,
    treadmill.compile "1.0" false newYear = .ok compiled ∧
      treadmillAgain.compile "1.0" false newYear = .ok again ∧
      again.nodes = compiled.nodes ∧ again ≠ compiled := by
  obtain ⟨compiled, hcompile⟩ := treadmill_compiles
  obtain ⟨again, hagain, hsame, hiff⟩ :=
    compile_rearranged treadmillAgain_rearranges hcompile
  refine ⟨compiled, again, hcompile, hagain, by rw [hsame], ?_⟩
  rw [ne_eq, hiff]
  decide +kernel

/-- The order of the connections can show in what is compiled. -/
theorem compile_depends_on_order :
    ¬ ∀ graph other : Graph, other.Rearranges graph →
    ∀ version singleEntry time compiled,
      graph.compile version singleEntry time = .ok compiled →
        other.compile version singleEntry time = .ok compiled := by
  intro hsame
  obtain ⟨compiled, hcompile⟩ := treadmill_compiles
  have hagain :=
    hsame treadmill treadmillAgain treadmillAgain_rearranges _ _ _ _ hcompile
  have hpositions :=
    (treadmillAgain_rearranges.compile_eq_iff hcompile).mp hagain
  exact absurd hpositions (by decide +kernel)

end Graph

end StoryGraph
