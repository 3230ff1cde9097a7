import StoryGraph.Proofs.Document.RoundTrip
import StoryGraph.Proofs.Graph.Complete
import StoryGraph.Proofs.Graph.Soundness

/-!
# Port slots

The slots of a node are filled by going through the connections of the graph: an
output slot takes every connection that leaves the port, an input slot the first
that enters it.  Connections at ports which do not exist get into no slot.  In a
graph that nothing blocks every connection has its place on either side, and so
the ids that a document lists at the ports of its nodes say between which ports
each connection runs.
-/

namespace StoryGraph

namespace Direction

/-- The port at which a connection ends on a side. -/
def portOf (direction : Direction) (connection : Connection) : String × Int :=
  ((direction.endOf connection).nodeId, (direction.endOf connection).port)

/-- What a slot on a side holds of the connections at its port. -/
def held : Direction → List Connection → List Connection
  | output, connections => connections
  | input, connections => connections.take 1

end Direction

theorem flatten_flatMap {α β : Type} (part : α → List (List β))
    (items : List α) :
    (items.flatMap part).flatten = items.flatMap fun item =>
      (part item).flatten := by
  rw [List.flatMap_def, List.flatten_flatten, List.map_map, List.flatMap_def]
  rfl

namespace Graph

/-! ## Filling slots -/

section Fill

variable {σ : Type} {put : σ → Connection → σ} {direction : Direction}

/-- Puts a connection into the slot of its port, if there is such a slot. -/
def fill (put : σ → Connection → σ) (direction : Direction) (slots : List σ)
    (connection : Connection) : List σ :=
  let port := (direction.endOf connection).port
  if portInRange port slots.length then
    slots.modify port.toNat (put · connection) else slots

/-- One connection changes the slot of its port alone. -/
theorem getElem?_fill (slots : List σ) (connection : Connection) (port : Nat) :
    (fill put direction slots connection)[port]? = slots[port]?.map fun slot =>
      if (direction.endOf connection).port = port then put slot connection
      else slot := by
  rw [fill]
  split
  · next hrange =>
    rw [portInRange_iff] at hrange
    have hport : (direction.endOf connection).port.toNat = port ↔
        (direction.endOf connection).port = port := by omega
    simp only [List.getElem?_modify, hport]
    rfl
  · next hrange =>
    cases hslot : slots[port]? with
    | none => rfl
    | some slot =>
      have hlength := (List.getElem?_eq_some_iff.mp hslot).1
      have hother : (direction.endOf connection).port ≠ port := by
        intro hport
        exact hrange (portInRange_iff.mpr ⟨by omega, by omega⟩)
      rw [Option.map_some, if_neg hother]

/-- In the end a slot has been given the connections at its port, one after the
other. -/
theorem getElem?_foldl_fill (connections : List Connection) (slots : List σ)
    (port : Nat) :
    (connections.foldl (fill put direction) slots)[port]? =
      slots[port]?.map fun slot =>
      (connections.filter fun connection =>
        (direction.endOf connection).port == (port : Int)).foldl put slot := by
  induction connections generalizing slots with
  | nil => simp
  | cons connection rest ih =>
    rw [List.foldl_cons, ih, getElem?_fill, Option.map_map]
    congr 1
    funext slot
    rw [Function.comp_apply, List.filter_cons]
    by_cases hport : (direction.endOf connection).port = port
    · rw [if_pos hport, if_pos (beq_iff_eq.mpr hport), List.foldl_cons]
    · rw [if_neg hport, if_neg (mt beq_iff_eq.mp hport)]

end Fill

variable (graph : Graph) (node : Node)

/-- Output slots are filled with all connections that leave the node. -/
theorem foldl_fill_outgoing :
    (graph.outgoing node.id).foldl
      (fill (fun slot connection => slot ++ [connection]) .output)
      (List.replicate (graph.registry.outputs node.kind) []) =
        graph.outputSlots node := by
  have hall (connections slot : List Connection) :
      connections.foldl (fun slot connection => slot ++ [connection]) slot =
        slot ++ connections := by
    induction connections generalizing slot with
    | nil => simp
    | cons connection rest ih => simp [ih]
  refine List.ext_getElem? fun port => ?_
  simp only [getElem?_foldl_fill, outputSlots, List.getElem?_map,
    List.getElem?_replicate, hall, Direction.endOf]
  by_cases hport : port < graph.registry.outputs node.kind
  · simp [hport]
  · simp [hport]

/-- An input slot keeps the first connection that it is given. -/
theorem foldl_fill_incoming :
    (graph.incoming node.id).foldl
      (fill (fun slot connection => slot.or (some connection)) .input)
      (List.replicate (graph.registry.inputs node.kind) none) =
        graph.inputSlots node := by
  have hfirst (connections : List Connection) (slot : Option Connection) :
      connections.foldl (fun slot connection =>
        slot.or (some connection)) slot =
        slot.or connections.head? := by
    induction connections generalizing slot with
    | nil => simp
    | cons connection rest ih =>
      rw [List.foldl_cons, ih]
      cases slot <;> rfl
  refine List.ext_getElem? fun port => ?_
  simp only [getElem?_foldl_fill, inputSlots, List.getElem?_map,
    List.getElem?_replicate, hfirst, List.head?_filter, Direction.endOf]
  by_cases hport : port < graph.registry.inputs node.kind
  · simp [hport]
  · simp [hport]

/-! ## What the slots hold -/

/-- The slots of a node on a side, each with the connections that it holds. -/
def slots (graph : Graph) (direction : Direction)
    (node : Node) : List (List Connection) :=
  match direction with
  | .output => graph.outputSlots node
  | .input => (graph.inputSlots node).map Option.toList

/-- The connections that end at a port, in the order in which they were made. -/
def atPort (graph : Graph) (direction : Direction)
    (port : String × Int) : List Connection :=
  graph.connections.filter (direction.portOf · == port)

theorem outputSlots_eq :
    graph.outputSlots node = (List.range (graph.registry.outputs node.kind)).map
      fun (port : Nat) => graph.atPort .output (node.id, (port : Int)) :=
  List.map_congr_left fun port _ => graph.filter_outgoing node.id port

theorem inputSlots_eq :
    graph.inputSlots node = (List.range (graph.registry.inputs node.kind)).map
      fun (port : Nat) =>
        graph.connections.find? (boundPort · == (node.id, (port : Int))) := by
  simp only [inputSlots, incoming, List.find?_filter]
  refine List.map_congr_left fun port _ => ?_
  congr 1
  funext connection
  rw [Bool.eq_iff_iff]
  simp [boundPort]

theorem slots_eq (direction : Direction) :
    graph.slots direction node =
      (List.range (direction.count graph.registry node.kind)).map
        fun (port : Nat) =>
        direction.held (graph.atPort direction (node.id, (port : Int))) := by
  cases direction with
  | output => exact graph.outputSlots_eq node
  | input =>
    rw [slots, inputSlots_eq, List.map_map]
    refine List.map_congr_left fun port _ => ?_
    rw [Function.comp_apply, ← List.head?_filter, ← List.take_one]
    rfl

variable {graph} {direction : Direction}

theorem held_subset (connections : List Connection) :
    direction.held connections ⊆ connections := by
  cases direction with
  | output => exact List.Subset.refl _
  | input => exact List.take_subset 1 connections

theorem portOf_of_mem_atPort {port : String × Int} {connection : Connection}
    (hmem : connection ∈ direction.held (graph.atPort direction port)) :
    direction.portOf connection = port :=
  eq_of_beq (List.mem_filter.mp (held_subset _ hmem)).2

/-- The slots of all nodes hold what ends at the ports that exist. -/
theorem flatten_slots (graph : Graph) (direction : Direction) :
    (graph.nodes.flatMap (graph.slots direction)).flatten =
      (graph.ports direction).flatMap fun port =>
        direction.held (graph.atPort direction port) := by
  rw [flatten_flatMap, ports, List.flatMap_assoc]
  refine List.flatMap_congr fun node _ => ?_
  rw [slots_eq, List.flatMap_map, List.flatMap_def]

instance (graph : Graph) (direction : Direction) (ref : PortRef) :
    Decidable (graph.HasPort direction ref) := decidable_of_iff _ mem_ports_iff

/-- The connections that leave ports which exist have their places in the output
slots. -/
theorem flatten_outputSlots_perm (graph : Graph) :
    (graph.nodes.flatMap graph.outputSlots).flatten.Perm
      (graph.connections.filter fun connection =>
        graph.HasPort .output connection.source) := by
  have hslots :
      (graph.nodes.flatMap graph.outputSlots).flatten =
        (graph.ports .output).flatMap fun port =>
          (graph.connections.filter fun connection =>
            graph.HasPort .output connection.source).filter
              (Direction.output.portOf · == port) := by
    refine (graph.flatten_slots .output).trans
      (List.flatMap_congr fun port hport => ?_)
    -- What leaves one of the ports that exist is among the rest.
    rw [List.filter_filter]
    refine List.filter_congr fun connection _ => ?_
    rw [Bool.eq_iff_iff, Bool.and_eq_true, iff_self_and]
    intro hat
    rw [← eq_of_beq hat] at hport
    exact decide_eq_true (mem_ports_iff.mp hport)
  rw [hslots]
  refine perm_flatMap_filter (graph.nodup_ports .output) fun connection hmem =>
    ?_
  exact mem_ports_iff.mpr (of_decide_eq_true (List.mem_filter.mp hmem).2)

/-- The earliest connection that enters a port, if there is one. -/
inductive Earliest (graph : Graph)
    (port : String × Int) : Option Connection → Prop where
  | none
    (hfree : ∀ connection ∈ graph.connections, boundPort connection ≠ port) :
    Earliest graph port .none
  | some {before after : List Connection} {connection : Connection}
      (hconnections : graph.connections = before ++ connection :: after)
      (hport : boundPort connection = port)
      (hfirst : ∀ earlier ∈ before, boundPort earlier ≠ port) :
    Earliest graph port (.some connection)

theorem earliest_iff {port : String × Int} {slot : Option Connection} :
    graph.Earliest port slot ↔
      slot = graph.connections.find? (boundPort · == port) := by
  constructor
  · intro hearliest
    cases hearliest with
    | none hfree => exact (List.find?_eq_none.mpr (by simpa using hfree)).symm
    | some hconnections hport hfirst =>
      rw [eq_comm, List.find?_eq_some_iff_append]
      exact ⟨beq_iff_eq.mpr hport, _, _, hconnections, by simpa using hfirst⟩
  · rintro rfl
    cases hfind : graph.connections.find? (boundPort · == port) with
    | none => exact .none (by simpa using List.find?_eq_none.mp hfind)
    | some connection =>
      obtain ⟨hport, before, after, hconnections, hfirst⟩ :=
        List.find?_eq_some_iff_append.mp hfind
      exact .some hconnections (eq_of_beq hport) (by simpa using hfirst)

/-! ## Graphs that nothing blocks -/

section Unblocked

variable {singleEntry : Bool}
  (hunblocked : ∀ finding ∈ graph.validate singleEntry,
    finding.isBlocking = false)

include hunblocked

theorem ensureValid_of_unblocked :
    graph.ensureValid singleEntry = .ok (graph.validate singleEntry) := by
  have hnone : (graph.validate singleEntry).any Finding.isBlocking = false :=
    List.any_eq_false.mpr fun finding hfinding =>
      Bool.eq_false_iff.mp (hunblocked finding hfinding)
  rw [ensureValid, hnone]
  rfl

/-- No connection is left out of the slot of its port. -/
theorem held_atPort (port : String × Int) :
    direction.held (graph.atPort direction port) =
      graph.atPort direction port := by
  cases direction with
  | output => rfl
  | input =>
    have hsingle := single_of_ensureValid (ensureValid_of_unblocked hunblocked)
    exact List.take_of_length_le
      (distinct_iff_length_filter_le_one.mp hsingle port)

/-- Every connection has its place on either side. -/
theorem flatten_slots_perm (direction : Direction) :
    (graph.nodes.flatMap (graph.slots direction)).flatten.Perm
      graph.connections := by
  have hheld : (graph.ports direction).flatMap (fun port =>
      direction.held (graph.atPort direction port)) =
        (graph.ports direction).flatMap (graph.atPort direction) :=
    List.flatMap_congr fun port _ => held_atPort hunblocked port
  rw [flatten_slots, hheld]
  refine perm_flatMap_filter (graph.nodup_ports direction)
    fun connection hmem => ?_
  exact mem_ports_iff.mpr
    (hasPort_of_ensureValid (ensureValid_of_unblocked hunblocked)
      hmem direction)

end Unblocked

end Graph

/-! ## Ids in documents -/

/-- The text that a value is. -/
def textOf? : Value → Option String
  | .str text => some text
  | _ => none

/-- The ids in a slot of a document: a list of ids, one id, or none. -/
def slotIds : Value → List String
  | .list ids => ids.filterMap textOf?
  | value => (textOf? value).toList

/-- The key of the slots on a side. -/
def slotsKey : Direction → String
  | .output => "outputs"
  | .input => "inputs"

/-- The ids that the entry of a node lists at its ports, each with the port. -/
def entryIds (direction : Direction) : Value → List ((String × Int) × String)
  | .list [.str nodeId, .dict fields] =>
    match fields.lookup (slotsKey direction) with
    | some (.list slots) =>
      slots.zipIdx.flatMap fun slot =>
        (slotIds slot.1).map fun id => ((nodeId, (slot.2 : Int)), id)
    | _ => []
  | _ => []

/-- The ids that a document lists at the ports of its nodes, each with the
port. -/
def listedIds (direction : Direction) : Value → List ((String × Int) × String)
  | .dict fields =>
    match fields.lookup "nodes" with
    | some (.list entries) => entries.flatMap (entryIds direction)
    | _ => []
  | _ => []

/-- The port of a connection on a side, and its id. -/
def Direction.placed (direction : Direction)
    (connection : Connection) : (String × Int) × String :=
  (direction.portOf connection, connection.id)

section Listed

variable (graph : Graph) (direction : Direction)

theorem lookup_nodeObject (node : Node) : ∃ fields values,
    nodeObject graph node = .dict fields ∧
      fields.lookup (slotsKey direction) = some (.list values) ∧
      values.map slotIds =
        (graph.slots direction node).map (·.map Connection.id) := by
  cases direction with
  | output =>
    refine ⟨_, _, rfl, rfl, ?_⟩
    simp [Graph.slots, slotIds, textOf?, List.filterMap_map, Function.comp_def]
  | input =>
    refine ⟨_, _, rfl, rfl, ?_⟩
    simp only [Graph.slots, List.map_map]
    refine List.map_congr_left fun slot _ => ?_
    cases slot <;> rfl

/-- What a slot holds ends at the port of the slot. -/
theorem placed_of_mem_zipIdx {node : Node} {slot : List Connection × Nat}
    (hslot : slot ∈ (graph.slots direction node).zipIdx) :
    (slot.1.map fun connection => ((node.id, (slot.2 : Int)), connection.id)) =
      slot.1.map direction.placed := by
  rw [List.mem_zipIdx_iff_getElem?, Graph.slots_eq, List.getElem?_map,
    Option.map_eq_some_iff]
    at hslot
  obtain ⟨port, hport, hheld⟩ := hslot
  obtain rfl : port = slot.2 := by
    obtain ⟨_, hrange⟩ := List.getElem?_eq_some_iff.mp hport
    simpa using hrange.symm
  refine List.map_congr_left fun connection hmem => ?_
  rw [← hheld] at hmem
  rw [Direction.placed, Graph.portOf_of_mem_atPort hmem]

theorem entryIds_nodeObject (node : Node) :
    entryIds direction (.list [.str node.id, nodeObject graph node]) =
      (graph.slots direction node).flatten.map direction.placed := by
  obtain ⟨fields, values, hobject, hlookup, hids⟩ :=
    lookup_nodeObject graph direction node
  have hread :
      entryIds direction (.list [.str node.id, nodeObject graph node]) =
        values.zipIdx.flatMap fun slot => (slotIds slot.1).map fun id =>
          ((node.id, (slot.2 : Int)), id) := by
    rw [hobject]
    simp only [entryIds, hlookup]
  calc entryIds direction (.list [.str node.id, nodeObject graph node])
      = (values.map slotIds).zipIdx.flatMap fun slot =>
          slot.1.map fun id => ((node.id, (slot.2 : Int)), id) := by
        rw [hread, List.zipIdx_map, List.flatMap_map]
        rfl
    _ = (graph.slots direction node).zipIdx.flatMap fun slot =>
          slot.1.map fun connection =>
            ((node.id, (slot.2 : Int)), connection.id) := by
        simp only [hids, List.zipIdx_map, List.flatMap_map, Prod.map,
          List.map_map, Function.comp_def, id]
    _ = (graph.slots direction node).zipIdx.flatMap fun slot =>
        slot.1.map direction.placed :=
          List.flatMap_congr fun slot hslot =>
            placed_of_mem_zipIdx graph direction hslot
    _ = ((graph.slots direction node).zipIdx.map Prod.fst).flatMap
        (·.map direction.placed) := by
          rw [List.flatMap_map]
    _ = (graph.slots direction node).flatten.map direction.placed := by
        rw [List.zipIdx_map_fst, List.map_flatten, List.flatMap_def]

/-- A document lists each connection that a slot holds, at the port of the
slot. -/
theorem listedIds_graphDocument (version : String) (context : Context) :
    listedIds direction (graphDocument version graph context) =
      (graph.canonicalNodes.flatMap (graph.slots direction)).flatten.map
        direction.placed := by
  have hentries :
      listedIds direction (graphDocument version graph context) =
        (graph.canonicalNodes.map fun node =>
          .list [.str node.id, nodeObject graph node]).flatMap
            (entryIds direction) :=
    rfl
  rw [hentries, List.flatMap_map, flatten_flatMap, List.map_flatMap]
  simp only [entryIds_nodeObject]

end Listed

/-! ## Places of connections -/

namespace Graph

variable {graph : Graph}

/-- A text that is written is that of the document. -/
theorem eq_write_of_encodeGraph {settings : Settings} {context : Context}
    {text : String} (hencode : encodeGraph settings graph context = .ok text) :
    text = Json.write .document
      (graphDocument settings.documentVersion graph context) := by
  rw [encodeGraph, written] at hencode
  split at hencode
  · cases hencode
  · next document hdocument =>
    split at hdocument
    · cases hdocument
      split at hencode
      · cases hencode
      · exact (Except.ok.inj hencode).symm
    · cases hdocument

theorem getElem?_map_range_iff {α : Type} {count port : Nat} {part : Nat → α}
    {slot : α} :
    ((List.range count).map part)[port]? = some slot ↔
      port < count ∧ slot = part port := by
  by_cases hport : port < count
  · simp [hport, eq_comm]
  · simp [hport]

/-- Every id of a graph is listed once, at the port of its connection. -/
theorem listed_once {listed : List ((String × Int) × String)}
    {direction : Direction}
    (hlisted : listed.Perm (graph.connections.map direction.placed))
    (hdistinct : (graph.connections.map Connection.id).Nodup)
    {connection : Connection} (hmem : connection ∈ graph.connections) :
    (listed.map Prod.snd).count connection.id = 1 ∧
      ∀ port, (port, connection.id) ∈ listed ↔
        port = direction.portOf connection := by
  have hids :
      (listed.map Prod.snd).Perm (graph.connections.map Connection.id) := by
    simpa [List.map_map, Function.comp_def, Direction.placed]
      using hlisted.map Prod.snd
  refine ⟨?_, fun port => ?_⟩
  · rw [hids.count_eq]
    exact List.count_eq_one_of_mem hdistinct (List.mem_map_of_mem hmem)
  · rw [hlisted.mem_iff, List.mem_map]
    constructor
    · rintro ⟨other, hother, hplaced⟩
      obtain ⟨hport, hid⟩ := Prod.mk.inj hplaced
      rw [← hport, eq_of_distinct hdistinct hother hmem hid]
    · rintro rfl
      exact ⟨connection, hmem, rfl⟩

/-- Output slots hold the connections that leave ports which exist, each at its
own port, in the order in which they were made; an input slot holds the earliest
connection that enters the port, if there is one.  When validation finds nothing
that blocks the graph, both sides hold every connection once.  A document of
such a graph lists every id once on either side, and the place of an id tells
where its connection ends. -/
theorem slots_partition (graph : Graph) :
    (graph.nodes.flatMap graph.outputSlots).flatten.Perm
      (graph.connections.filter fun connection =>
        graph.HasPort .output connection.source) ∧
    (∀ (node : Node) (port : Nat) (slot : List Connection),
      (graph.outputSlots node)[port]? = some slot ↔
        port < graph.registry.outputs node.kind ∧
        slot = graph.connections.filter
          (leftPort · == (node.id, (port : Int)))) ∧
    (∀ (node : Node) (port : Nat) (slot : Option Connection),
      (graph.inputSlots node)[port]? = some slot ↔
        port < graph.registry.inputs node.kind ∧
        graph.Earliest (node.id, (port : Int)) slot) ∧
    ∀ singleEntry,
      (∀ finding ∈ graph.validate singleEntry, finding.isBlocking = false) →
      (graph.nodes.flatMap graph.outputSlots).flatten.Perm graph.connections ∧
      (graph.nodes.flatMap graph.inputSlots).reduceOption.Perm
        graph.connections ∧
      ∀ (settings : Settings) (context : Context) (text : String),
        encodeGraph settings graph context = .ok text →
          ∃ document, text = Json.write .document document ∧
            document = graphDocument settings.documentVersion graph context ∧
            ∀ direction : Direction,
              (listedIds direction document).Perm
                (graph.connections.map direction.placed) ∧
              ((graph.connections.map Connection.id).Nodup →
                ∀ connection ∈ graph.connections,
                ((listedIds direction document).map Prod.snd).count
                  connection.id = 1 ∧
                ∀ port, (port, connection.id) ∈ listedIds direction document ↔
                  port = direction.portOf connection) := by
  refine ⟨graph.flatten_outputSlots_perm, fun node port slot => ?_,
    fun node port slot => ?_,
    fun singleEntry hunblocked =>
      ⟨flatten_slots_perm hunblocked .output, ?_, ?_⟩⟩
  · rw [outputSlots_eq, getElem?_map_range_iff]
    rfl
  · rw [inputSlots_eq, getElem?_map_range_iff, earliest_iff]
  · have hinputs : (graph.nodes.flatMap graph.inputSlots).reduceOption =
        (graph.nodes.flatMap (graph.slots .input)).flatten :=
      calc (graph.nodes.flatMap graph.inputSlots).reduceOption
          = (graph.nodes.flatMap graph.inputSlots).flatMap Option.toList :=
            List.filterMap_eq_flatMap_toList _ _
        _ = (graph.nodes.flatMap (graph.slots .input)).flatten := by
            rw [List.flatMap_def, List.map_flatMap]
            rfl
    rw [hinputs]
    exact flatten_slots_perm hunblocked .input
  · intro settings context text hencode
    refine ⟨_, ?_, rfl, fun direction => ?_⟩
    · exact eq_write_of_encodeGraph hencode
    · have hlisted : (listedIds direction
          (graphDocument settings.documentVersion graph context)).Perm
            (graph.connections.map direction.placed) := by
        rw [listedIds_graphDocument]
        have hnodes :=
          graph.canonicalNodes_perm.flatMap_right (graph.slots direction)
        exact (hnodes.flatten.trans
          (flatten_slots_perm hunblocked direction)).map _
      exact ⟨hlisted, fun hdistinct connection hmem =>
        listed_once hlisted hdistinct hmem⟩

/-- A condition with a way on from either of its ports. -/
def switchyard : Graph :=
  ⟨"switchyard", "", .standard,
    [⟨"siding", .origin, .trigger .initial, by decide⟩,
      ⟨"points", .origin, .condition .initial, by decide⟩,
      ⟨"shed", .origin, .action .initial, by decide⟩,
      ⟨"turntable", .origin, .action .initial, by decide⟩],
    [⟨"rail_1", ⟨"siding", 0, by decide⟩, ⟨"points", 0, by decide⟩, by decide⟩,
      ⟨"rail_2", ⟨"points", 0, by decide⟩, ⟨"shed", 0, by decide⟩, by decide⟩,
      ⟨"rail_3", ⟨"points", 1, by decide⟩,
        ⟨"turntable", 0, by decide⟩, by decide⟩],
    by decide, by decide⟩

/-- The document lists the last connection once on either side, at its two
ends. -/
theorem switchyard_slots :
    (switchyard.nodes.flatMap switchyard.inputSlots).reduceOption.Perm
      switchyard.connections ∧
    ∃ document,
      encodeGraph .initial switchyard .empty =
        .ok (Json.write .document document) ∧
      (∀ direction : Direction,
        ((listedIds direction document).map Prod.snd).count "rail_3" = 1) ∧
      (("points", 1), "rail_3") ∈ listedIds .output document ∧
      (("turntable", 0), "rail_3") ∈ listedIds .input document := by
  have hsound : switchyard.Sound := by decide +kernel
  have htrigger : switchyard.HasTrigger := by decide +kernel
  have hencode := @encodeGraph_eq_ok switchyard .empty (by decide +kernel)
    (by decide +kernel) .initial
  obtain ⟨-, hinputs, hdocuments⟩ := (slots_partition switchyard).2.2.2 false
    fun finding hmem =>
      not_blocking_of_ensureValid (hsound.ensureValid_ok htrigger false) hmem
  obtain ⟨document, htext, -, hlisted⟩ := hdocuments .initial .empty _ hencode
  have hrail (direction : Direction) := (hlisted direction).2 (by decide)
    ⟨"rail_3", ⟨"points", 1, by decide⟩, ⟨"turntable", 0, by decide⟩, by decide⟩
    (by decide)
  refine ⟨hinputs, document, htext ▸ hencode,
    fun direction => (hrail direction).1, ?_, ?_⟩
  · exact ((hrail .output).2 _).mpr rfl
  · exact ((hrail .input).2 _).mpr rfl

end Graph

end StoryGraph
