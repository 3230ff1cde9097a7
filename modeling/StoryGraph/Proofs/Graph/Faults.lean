import Mathlib.Data.List.Nodup
import StoryGraph.Proofs.Graph.Accepted
import StoryGraph.Proofs.IdSupply

/-!
# Structural faults

A graph has a fault where an end of a connection names a missing node or a port
that its node does not have, where a fitting connection binds an input port
again, and in having no trigger.  If connections have ids of their own,
validation finds each fault once, at its place, and nothing else that blocks.
Whether a graph is refused depends on whether it has a fault at all, while all
findings are reported.
-/

namespace StoryGraph

namespace Finding

theorem connectionPath_injective : Function.Injective connectionPath := by
  intro first second heq
  simp only [connectionPath, String.append_left_inj,
    String.append_right_inj] at heq
  exact Layout.digitText_injective heq

/-- The place of an end tells which end of which connection it is. -/
theorem endPath_injective {position other : Nat} {direction side : Direction}
    {field : String}
    (heq : connectionPath position ++ "." ++ endKey direction ++ field =
      connectionPath other ++ "." ++ endKey side ++ field) :
    position = other ∧ direction = side := by
  rw [String.append_left_inj] at heq
  have hdirection : direction = side := by
    have hlast := congrArg (fun text => text.toList.getLast?) heq
    cases direction <;> cases side <;>
      simp [endKey, String.toList_append] at hlast ⊢
  subst hdirection
  rw [String.append_left_inj, String.append_left_inj] at heq
  exact ⟨connectionPath_injective heq, rfl⟩

/-- The position of the connection that a finding is about. -/
def position? : Finding → Option Nat
  | danglingEdge position .. | portArity position .. | selfLoop position ..
  | duplicateBinding position .. => some position
  | noStartNode | ambiguousStart .. | unreachable _ | unknownActionType .. =>
    none

end Finding

namespace Graph

/-- What is structurally wrong with a graph. -/
inductive Fault (graph : Graph) : Finding → Prop where
  | missingNode {position : Nat} {connection : Connection}
      (direction : Direction)
      (hconnection : graph.connections[position]? = some connection)
      (hmissing : ∀ node ∈ graph.nodes,
        node.id ≠ (direction.endOf connection).nodeId) :
      graph.Fault (.danglingEdge position direction connection.id
        (direction.endOf connection).nodeId)
  | missingPort {position : Nat} {connection : Connection} {node : Node}
      (direction : Direction)
      (hconnection : graph.connections[position]? = some connection)
      (hnode : node ∈ graph.nodes)
      (hid : node.id = (direction.endOf connection).nodeId)
      (hport : (direction.endOf connection).port < 0 ∨
        direction.count graph.registry node.kind ≤
          (direction.endOf connection).port) :
      graph.Fault (.portArity position direction connection.id
        (direction.endOf connection).nodeId
        (direction.endOf connection).port node.kind
        (direction.count graph.registry node.kind))
  | boundAgain {position earliest : Nat} {extra first : Connection}
      (hextra : graph.connections[position]? = some extra)
      (hfits : graph.Fits extra)
      (hfirst : graph.connections[earliest]? = some first)
      (hfirstFits : graph.Fits first)
      (hport : boundPort first = boundPort extra)
      (hearlier : earliest < position)
      (hearliest : ∀ before < earliest, ∀ other,
        graph.connections[before]? = some other → graph.Fits other →
          boundPort other ≠ boundPort extra) :
      graph.Fault (.duplicateBinding position first.id extra.id
        extra.target.nodeId extra.target.port)
  | noTrigger (hnone : ¬ graph.HasTrigger) : graph.Fault .noStartNode

variable {graph : Graph}

/-! ## Findings about connections -/

theorem getNode?_eq_some_iff {nodeId : String} {node : Node} :
    graph.getNode? nodeId = some node ↔
      node ∈ graph.nodes ∧ node.id = nodeId := by
  constructor
  · exact fun hnode => ⟨mem_of_getNode? hnode, id_of_getNode? hnode⟩
  · rintro ⟨hmem, rfl⟩
    exact getNode?_of_mem hmem

theorem not_portInRange_iff {port : Int} {count : Nat} :
    ¬ portInRange port count = true ↔ port < 0 ∨ count ≤ port := by
  rw [portInRange_iff]
  omega

/-- What is found about an end of a connection is what is wrong with it. -/
theorem mem_endFindings_iff {position : Nat} {connection : Connection}
    {direction : Direction} {finding : Finding} :
    finding ∈ graph.endFindings position connection direction ↔
      (∀ node ∈ graph.nodes, node.id ≠ (direction.endOf connection).nodeId) ∧
          finding = .danglingEdge position direction connection.id
            (direction.endOf connection).nodeId ∨
        ∃ node ∈ graph.nodes, node.id = (direction.endOf connection).nodeId ∧
          ((direction.endOf connection).port < 0 ∨
            direction.count graph.registry node.kind ≤
              (direction.endOf connection).port) ∧
          finding = .portArity position direction connection.id
            (direction.endOf connection).nodeId
            (direction.endOf connection).port node.kind
            (direction.count graph.registry node.kind) := by
  cases hnode : graph.getNode? (direction.endOf connection).nodeId with
  | none =>
    have hmissing := getNode?_eq_none_iff.mp hnode
    simp only [endFindings, hnode, List.mem_singleton]
    constructor
    · exact fun hfinding => .inl ⟨hmissing, hfinding⟩
    · rintro (⟨-, hfinding⟩ | ⟨node, hmem, hid, -⟩)
      · exact hfinding
      · exact absurd hid (hmissing node hmem)
  | some owner =>
    obtain ⟨howner, hid⟩ := getNode?_eq_some_iff.mp hnode
    simp only [endFindings, hnode]
    constructor
    · intro hfinding
      split at hfinding
      · cases hfinding
      · next hout =>
        exact .inr ⟨owner, howner, hid, not_portInRange_iff.mp hout,
          List.mem_singleton.mp hfinding⟩
    · rintro (⟨hmissing, -⟩ | ⟨node, hmem, hnodeId, hport, rfl⟩)
      · exact absurd hid (hmissing owner howner)
      · have hsame := getNode?_eq_some_iff.mpr ⟨hmem, hnodeId⟩
        rw [hnode] at hsame
        cases hsame
        rw [if_neg (not_portInRange_iff.mpr hport)]
        exact List.mem_singleton_self _

theorem eq_selfLoop_of_mem_selfLoopFindings {position : Nat}
    {connection : Connection} {finding : Finding}
    (hfinding : finding ∈ graph.selfLoopFindings position connection) :
    ∃ connectionId nodeId,
      finding = .selfLoop position connectionId nodeId := by
  rw [selfLoopFindings] at hfinding
  split at hfinding
  · exact ⟨_, _, List.mem_singleton.mp hfinding⟩
  · cases hfinding

theorem mem_connectionFindings_iff {finding : Finding} :
    finding ∈ graph.connectionFindings ↔
      ∃ position connection, graph.connections[position]? = some connection ∧
        ((∃ direction,
          finding ∈ graph.endFindings position connection direction) ∨
          finding ∈ graph.selfLoopFindings position connection) := by
  simp only [connectionFindings, List.mem_flatten, List.mem_mapIdx]
  constructor
  · rintro ⟨findings, ⟨position, hposition, rfl⟩, hmem⟩
    refine ⟨position, graph.connections[position],
      List.getElem?_eq_getElem hposition, ?_⟩
    rcases List.mem_append.mp hmem with hend | hloop
    · rcases List.mem_append.mp hend with hsource | htarget
      · exact .inl ⟨.output, hsource⟩
      · exact .inl ⟨.input, htarget⟩
    · exact .inr hloop
  · rintro ⟨position, connection, hconnection, hmem⟩
    obtain ⟨hposition, rfl⟩ := List.getElem?_eq_some_iff.mp hconnection
    refine ⟨_, ⟨position, hposition, rfl⟩, ?_⟩
    rcases hmem with ⟨direction, hend⟩ | hloop
    · cases direction with
      | output => simp [hend]
      | input => simp [hend]
    · simp [hloop]

/-! ## Findings about bindings -/

/-- Which items with a property come after the first one that has it. -/
theorem exists_filter_eq_cons_iff {α : Type} {chosen : α → Bool}
    {items : List α} {first extra : α} :
    (∃ extras, items.filter chosen = first :: extras ∧ extra ∈ extras) ↔
      ∃ earliest later : Nat, earliest < later ∧ items[later]? = some extra ∧
        chosen extra = true ∧
        items[earliest]? = some first ∧ chosen first = true ∧
        ∀ before < earliest, ∀ other, items[before]? = some other →
          ¬ chosen other = true := by
  induction items with
  | nil => simp
  | cons head rest ih =>
    by_cases hhead : chosen head = true
    case pos =>
      rw [List.filter_cons_of_pos hhead]
      constructor
      · rintro ⟨extras, heq, hextra⟩
        cases heq
        obtain ⟨hmem, hchosen⟩ := List.mem_filter.mp hextra
        obtain ⟨place, hplace⟩ := List.getElem?_of_mem hmem
        exact ⟨0, place + 1, by omega, hplace, hchosen, rfl, hhead,
          fun before hbefore => by omega⟩
      · rintro ⟨earliest, later, hlt, hextra, hchosen, hfirst, -, hnone⟩
        cases earliest with
        | succ earliest => exact absurd hhead (hnone 0 (by omega) head rfl)
        | zero =>
          cases hfirst
          obtain ⟨place, rfl⟩ :=
            Nat.exists_eq_succ_of_ne_zero (by omega : later ≠ 0)
          exact ⟨_, rfl,
            List.mem_filter.mpr ⟨List.mem_of_getElem? hextra, hchosen⟩⟩
    case neg =>
      rw [List.filter_cons_of_neg hhead, ih]
      constructor
      · rintro ⟨earliest, later, hlt, hextra, hchosen, hfirst, hfirstChosen,
          hnone⟩
        refine ⟨earliest + 1, later + 1, by omega, hextra, hchosen, hfirst,
          hfirstChosen, ?_⟩
        intro before hbefore other hother
        cases before with
        | zero =>
          cases hother
          exact hhead
        | succ before => exact hnone before (by omega) other hother
      · rintro ⟨earliest, later, hlt, hextra, hchosen, hfirst, hfirstChosen,
          hnone⟩
        cases earliest with
        | zero =>
          cases hfirst
          exact absurd hfirstChosen hhead
        | succ earliest =>
          obtain ⟨place, rfl⟩ :=
            Nat.exists_eq_succ_of_ne_zero (by omega : later ≠ 0)
          exact ⟨earliest, place, by omega, hextra, hchosen, hfirst,
            hfirstChosen,
            fun before hbefore => hnone (before + 1) (by omega)⟩

/-- A connection is found at its position by its id. -/
theorem positionOf_of_getElem?
    (hdistinct : (graph.connections.map Connection.id).Nodup) {position : Nat}
    {connection : Connection}
    (hconnection : graph.connections[position]? = some connection) :
    graph.positionOf connection.id = position := by
  obtain ⟨hposition, hat⟩ := List.getElem?_eq_some_iff.mp hconnection
  have hlast : graph.connections.reverse.findIdx (·.id == connection.id) =
      graph.connections.length - 1 - position := by
    rw [List.findIdx_eq (by rw [List.length_reverse]; omega)]
    constructor
    · have hplace :
          graph.connections.length - 1 -
            (graph.connections.length - 1 - position) = position := by
        omega
      simp [List.getElem_reverse, hplace, hat]
    · intro later hlater
      rw [List.getElem_reverse, beq_eq_false_iff_ne]
      have hapart :=
        List.pairwise_iff_getElem.mp (List.pairwise_map.mp hdistinct) position
          (graph.connections.length - 1 - later) hposition (by omega) (by omega)
      rw [hat] at hapart
      exact hapart.symm
  rw [positionOf, hlast]
  omega

theorem mem_groupFindings_iff {group : List Connection} {finding : Finding} :
    finding ∈ graph.groupFindings group ↔
      ∃ first extra, (∃ extras, group = first :: extras ∧ extra ∈ extras) ∧
        finding = .duplicateBinding (graph.positionOf extra.id)
          first.id extra.id
          extra.target.nodeId extra.target.port := by
  cases group with
  | nil => simp [groupFindings]
  | cons first extras =>
    simp only [groupFindings, List.mem_map]
    constructor
    · rintro ⟨extra, hextra, rfl⟩
      exact ⟨first, extra, ⟨extras, rfl, hextra⟩, rfl⟩
    · rintro ⟨_, extra, ⟨_, heq, hextra⟩, rfl⟩
      cases heq
      exact ⟨extra, hextra, rfl⟩

/-- The fitting connections of a port, in the order in which they were made. -/
theorem filter_validConnections (graph : Graph) (port : String × Int) :
    graph.validConnections.filter (boundPort · == port) =
      graph.connections.filter fun connection =>
        boundPort connection == port && graph.isValidConnection connection :=
  List.filter_filter

/-- The bindings that are found are those that repeat an earlier one. -/
theorem mem_bindingFindings_iff
    (hdistinct : (graph.connections.map Connection.id).Nodup)
    {finding : Finding} :
    finding ∈ graph.bindingFindings ↔
      graph.Fault finding ∧ ∃ position firstId extraId nodeId port,
        finding = .duplicateBinding position firstId extraId nodeId port := by
  simp only [bindingFindings, List.mem_flatMap, mem_groupFindings_iff,
    filter_validConnections, exists_filter_eq_cons_iff, Bool.and_eq_true,
    beq_iff_eq, isValidConnection_iff]
  constructor
  · rintro ⟨port, -, first, extra,
      ⟨earliest, later, hlt, hextra, ⟨hport, hfits⟩, hfirst,
        ⟨hfirstPort, hfirstFits⟩, hnone⟩, rfl⟩
    rw [positionOf_of_getElem? hdistinct hextra]
    refine ⟨.boundAgain hextra hfits hfirst hfirstFits
      (hfirstPort.trans hport.symm) hlt ?_, _, _, _, _, _, rfl⟩
    intro before hbefore other hother hotherFits hsame
    exact hnone before hbefore other hother ⟨hsame.trans hport, hotherFits⟩
  · rintro ⟨hfault, _, _, _, _, _, rfl⟩
    cases hfault with
    | boundAgain hextra hfits hfirst hfirstFits hport hearlier hearliest =>
      rename_i earliest extra first
      refine ⟨boundPort extra, ?_, first, extra,
        ⟨earliest, _, hearlier, hextra, ⟨rfl, hfits⟩, hfirst,
          ⟨hport, hfirstFits⟩, ?_⟩, ?_⟩
      · rw [List.mem_eraseDups]
        exact List.mem_map_of_mem
          (mem_validConnections_iff.mpr ⟨List.mem_of_getElem? hextra, hfits⟩)
      · intro before hbefore other hother hsame
        exact hearliest before hbefore other hother hsame.2 hsame.1
      · rw [positionOf_of_getElem? hdistinct hextra]

theorem code_of_mem_connectionFindings {finding : Finding}
    (hfinding : finding ∈ graph.connectionFindings) :
    finding.code ∈ ["DANGLING_EDGE", "PORT_ARITY_VIOLATION", "SELF_LOOP"] := by
  obtain ⟨_, _, -, ⟨_, hend⟩ | hloop⟩ := mem_connectionFindings_iff.mp hfinding
  · rcases mem_endFindings_iff.mp hend with ⟨-, rfl⟩ | ⟨_, -, -, -, rfl⟩ <;>
      simp [Finding.code]
  · obtain ⟨_, _, rfl⟩ := eq_selfLoop_of_mem_selfLoopFindings hloop
    simp [Finding.code]

theorem code_of_mem_bindingFindings {finding : Finding}
    (hfinding : finding ∈ graph.bindingFindings) :
    finding.code = "DUPLICATE_INPUT_BINDING" := by
  obtain ⟨port, -, hgroup⟩ := List.mem_flatMap.mp hfinding
  obtain ⟨_, _, -, rfl⟩ := mem_groupFindings_iff.mp hgroup
  rfl

/-! ## Findings that block -/

theorem filter_isBlocking_validate (graph : Graph) (singleEntry : Bool) :
    (graph.validate singleEntry).filter Finding.isBlocking =
      graph.connectionFindings.filter Finding.isBlocking ++
        graph.bindingFindings.filter Finding.isBlocking ++
        if graph.triggers = [] then [.noStartNode] else [] := by
  rw [validate, List.filter_append, List.filter_append, List.filter_append,
    List.filter_append, blocking_startFindings, blocking_reachFindings,
    blocking_actionFindings, List.append_nil, List.append_nil]

/-- What blocks a graph are its faults. -/
theorem mem_blocking_iff
    (hdistinct : (graph.connections.map Connection.id).Nodup)
    {singleEntry : Bool} {finding : Finding} :
    finding ∈ (graph.validate singleEntry).filter Finding.isBlocking ↔
      graph.Fault finding := by
  have hparts :
      finding ∈ (graph.validate singleEntry).filter Finding.isBlocking ↔
        (finding ∈ graph.connectionFindings ∧ finding.isBlocking = true) ∨
          (finding ∈ graph.bindingFindings ∧ finding.isBlocking = true) ∨
            (¬ graph.HasTrigger ∧ finding = .noStartNode) := by
    simp only [filter_isBlocking_validate, triggers_eq_nil_iff, List.mem_append,
      List.mem_filter, List.mem_ite_nil_right, List.mem_singleton, or_assoc]
  rw [hparts, mem_connectionFindings_iff, mem_bindingFindings_iff hdistinct]
  constructor
  · rintro (⟨⟨position, connection, hconnection, ⟨direction, hend⟩ | hloop⟩,
      hblocking⟩ |
      ⟨⟨hfault, -⟩, -⟩ | ⟨hnone, rfl⟩)
    · rcases mem_endFindings_iff.mp hend with
        ⟨hmissing, rfl⟩ | ⟨node, hnode, hid, hport, rfl⟩
      · exact .missingNode direction hconnection hmissing
      · exact .missingPort direction hconnection hnode hid hport
    · obtain ⟨_, _, rfl⟩ := eq_selfLoop_of_mem_selfLoopFindings hloop
      cases hblocking
    · exact hfault
    · exact .noTrigger hnone
  · intro hfault
    cases hfault with
    | missingNode direction hconnection hmissing =>
      exact .inl ⟨⟨_, _, hconnection, .inl ⟨direction,
        mem_endFindings_iff.mpr (.inl ⟨hmissing, rfl⟩)⟩⟩, rfl⟩
    | missingPort direction hconnection hnode hid hport =>
      exact .inl ⟨⟨_, _, hconnection, .inl ⟨direction,
        mem_endFindings_iff.mpr (.inr ⟨_, hnode, hid, hport, rfl⟩)⟩⟩, rfl⟩
    | boundAgain hextra hfits hfirst hfirstFits hport hearlier hearliest =>
      exact .inr
        (.inl ⟨⟨.boundAgain hextra hfits hfirst hfirstFits hport hearlier
          hearliest, _, _, _, _, _, rfl⟩, rfl⟩)
    | noTrigger hnone => exact .inr (.inr ⟨hnone, rfl⟩)

/-! ## Each fault once -/

/-- Faults of the same kind at the same place are the same. -/
theorem Fault.eq_of_place {first second : Finding} (hfirst : graph.Fault first)
    (hsecond : graph.Fault second) (hcode : first.code = second.code)
    (hpath : first.path = second.path) : first = second := by
  cases hfirst with
  | missingNode direction hconnection _ =>
    cases hsecond with
    | missingNode side hother _ =>
      obtain ⟨rfl, rfl⟩ := Finding.endPath_injective hpath
      cases hconnection.symm.trans hother
      rfl
    | _ => simp [Finding.code] at hcode
  | missingPort direction hconnection hnode hid _ =>
    cases hsecond with
    | missingPort side hother howner hownerId _ =>
      obtain ⟨rfl, rfl⟩ := Finding.endPath_injective hpath
      cases hconnection.symm.trans hother
      have hsame := (getNode?_eq_some_iff.mpr ⟨hnode, hid⟩).symm.trans
        (getNode?_eq_some_iff.mpr ⟨howner, hownerId⟩)
      cases hsame
      rfl
    | _ => simp [Finding.code] at hcode
  | boundAgain hextra hfits hfirst hfirstFits hport hearlier hearliest =>
    cases hsecond with
    | boundAgain hother hotherFits hsecond hsecondFits hotherPort hotherEarlier
      hotherEarliest =>
        rename_i position earliest extra first place otherEarliest
          otherExtra otherFirst
        have hposition : position = place :=
          Finding.connectionPath_injective ((String.append_left_inj _).mp hpath)
        subst hposition
        cases hextra.symm.trans hother
        -- Neither of the two first bindings comes before the other one.
        have hleft : ¬ earliest < otherEarliest := fun hlt =>
          hotherEarliest earliest hlt first hfirst hfirstFits hport
        have hright : ¬ otherEarliest < earliest := fun hlt =>
          hearliest otherEarliest hlt otherFirst hsecond hsecondFits hotherPort
        have hsame : earliest = otherEarliest := by omega
        subst hsame
        cases hfirst.symm.trans hsecond
        rfl
    | _ => simp [Finding.code] at hcode
  | noTrigger _ =>
    cases hsecond with
    | noTrigger _ => rfl
    | _ => simp [Finding.code] at hcode

theorem position?_of_mem_placed {position : Nat} {connection : Connection}
    {finding : Finding}
    (hfinding : finding ∈ graph.endFindings position connection .output ++
      graph.endFindings position connection .input ++
        graph.selfLoopFindings position connection) :
    finding.position? = some position := by
  rcases List.mem_append.mp hfinding with hend | hloop
  · rw [List.mem_append, mem_endFindings_iff, mem_endFindings_iff] at hend
    rcases hend with
      (⟨-, rfl⟩ | ⟨_, -, -, -, rfl⟩) | (⟨-, rfl⟩ | ⟨_, -, -, -, rfl⟩) <;> rfl
  · obtain ⟨_, _, rfl⟩ := eq_selfLoop_of_mem_selfLoopFindings hloop
    rfl

theorem nodup_endFindings (graph : Graph) (position : Nat)
    (connection : Connection) (direction : Direction) :
    (graph.endFindings position connection direction).Nodup := by
  simp only [endFindings]
  split
  · exact List.nodup_singleton _
  · split
    · exact List.nodup_nil
    · exact List.nodup_singleton _

theorem nodup_selfLoopFindings (graph : Graph) (position : Nat)
    (connection : Connection) :
    (graph.selfLoopFindings position connection).Nodup := by
  rw [selfLoopFindings]
  split
  · exact List.nodup_singleton _
  · exact List.nodup_nil

theorem nodup_connectionFindings (graph : Graph) :
    graph.connectionFindings.Nodup := by
  rw [connectionFindings, List.nodup_flatten]
  constructor
  · intro findings hfindings
    obtain ⟨position, hposition, rfl⟩ := List.mem_mapIdx.mp hfindings
    rw [List.nodup_append, List.nodup_append]
    refine ⟨⟨graph.nodup_endFindings _ _ _, graph.nodup_endFindings _ _ _, ?_⟩,
      graph.nodup_selfLoopFindings _ _, ?_⟩
    · rintro source hsource target htarget rfl
      rcases mem_endFindings_iff.mp hsource with
        ⟨-, rfl⟩ | ⟨_, -, -, -, rfl⟩ <;>
        rcases mem_endFindings_iff.mp htarget with
          ⟨-, heq⟩ | ⟨_, -, -, -, heq⟩ <;> cases heq
    · rintro finding hend loop hloop rfl
      obtain ⟨connectionId, nodeId, rfl⟩ :=
        eq_selfLoop_of_mem_selfLoopFindings hloop
      rcases List.mem_append.mp hend with hsource | htarget
      · rcases mem_endFindings_iff.mp hsource with
          ⟨-, heq⟩ | ⟨_, -, -, -, heq⟩ <;> cases heq
      · rcases mem_endFindings_iff.mp htarget with
          ⟨-, heq⟩ | ⟨_, -, -, -, heq⟩ <;> cases heq
  · rw [List.pairwise_iff_getElem]
    intro first second hfirst hsecond hlt finding hleft hright
    rw [List.getElem_mapIdx] at hleft hright
    have hsame :=
      (position?_of_mem_placed hleft).symm.trans
        (position?_of_mem_placed hright)
    exact absurd (Option.some.inj hsame) (by omega)

theorem nodup_groupFindings {group : List Connection}
    (hdistinct : (group.map Connection.id).Nodup) :
    (graph.groupFindings group).Nodup := by
  cases group with
  | nil => exact List.nodup_nil
  | cons first extras =>
    apply List.Nodup.of_map Finding.connectionId?
    have hids :
        (graph.groupFindings (first :: extras)).map Finding.connectionId? =
          (extras.map Connection.id).map some := by
      rw [groupFindings, List.map_map, List.map_map]
      rfl
    rw [hids]
    exact (List.nodup_cons.mp hdistinct).2.map fun _ _ => Option.some.inj

theorem nodup_bindingFindings
    (hdistinct : (graph.connections.map Connection.id).Nodup) :
    graph.bindingFindings.Nodup := by
  rw [bindingFindings, List.nodup_flatMap]
  constructor
  · intro port _
    apply nodup_groupFindings
    rw [filter_validConnections]
    exact hdistinct.sublist (List.filter_sublist.map _)
  · refine (nodup_eraseDups _).imp ?_
    intro port other hne finding hleft hright
    obtain ⟨first, extra, ⟨extras, hgroup, hextra⟩, rfl⟩ :=
      mem_groupFindings_iff.mp hleft
    obtain ⟨_, again, ⟨extrasAgain, hgroupAgain, hagain⟩, heq⟩ :=
      mem_groupFindings_iff.mp hright
    have hport : boundPort extra = port := by
      have hmem : extra ∈
          graph.validConnections.filter (boundPort · == port) := by
        rw [hgroup]
        exact List.mem_cons_of_mem _ hextra
      exact eq_of_beq (List.mem_filter.mp hmem).2
    have hother : boundPort again = other := by
      have hmem : again ∈
          graph.validConnections.filter (boundPort · == other) := by
        rw [hgroupAgain]
        exact List.mem_cons_of_mem _ hagain
      exact eq_of_beq (List.mem_filter.mp hmem).2
    injection heq with _ _ _ hnode hnumber
    exact hne (by rw [← hport, ← hother, boundPort, boundPort, hnode, hnumber])

theorem nodup_blocking (hdistinct : (graph.connections.map Connection.id).Nodup)
    (singleEntry : Bool) :
    ((graph.validate singleEntry).filter Finding.isBlocking).Nodup := by
  have hstart :
      (if graph.triggers = [] then [Finding.noStartNode] else []).Nodup := by
    split
    · exact List.nodup_singleton _
    · exact List.nodup_nil
  rw [filter_isBlocking_validate, List.nodup_append, List.nodup_append]
  refine ⟨⟨graph.nodup_connectionFindings.filter _,
    (nodup_bindingFindings hdistinct).filter _, ?_⟩, hstart, ?_⟩
  · rintro finding hconnection other hbinding rfl
    have hcode :=
      code_of_mem_connectionFindings (List.mem_filter.mp hconnection).1
    rw [code_of_mem_bindingFindings (List.mem_filter.mp hbinding).1] at hcode
    revert hcode
    decide
  · rintro finding hplaced other hstart rfl
    obtain ⟨-, hnone⟩ := List.mem_ite_nil_right.mp hstart
    rw [List.mem_singleton.mp hnone] at hplaced
    rcases List.mem_append.mp hplaced with hconnection | hbinding
    · have hcode :=
        code_of_mem_connectionFindings (List.mem_filter.mp hconnection).1
      revert hcode
      decide
    · have hcode := code_of_mem_bindingFindings (List.mem_filter.mp hbinding).1
      revert hcode
      decide

/-! ## What validation reports -/

/-- Whether a graph has a fault. -/
theorem any_isBlocking_iff
    (hdistinct : (graph.connections.map Connection.id).Nodup)
    {singleEntry : Bool} :
    (graph.validate singleEntry).any Finding.isBlocking = true ↔
      ∃ finding, graph.Fault finding := by
  rw [List.any_eq_true]
  constructor
  · rintro ⟨finding, hfinding⟩
    exact ⟨finding,
      (mem_blocking_iff hdistinct).mp (List.mem_filter.mpr hfinding)⟩
  · rintro ⟨finding, hfault⟩
    exact ⟨finding,
      List.mem_filter.mp ((mem_blocking_iff hdistinct).mpr hfault)⟩

theorem ensureValid_eq_error_iff
    (hdistinct : (graph.connections.map Connection.id).Nodup)
    {singleEntry : Bool} {findings : List Finding} :
    graph.ensureValid singleEntry = .error findings ↔
      findings = graph.validate singleEntry ∧ ∃ finding,
        graph.Fault finding := by
  rw [← @any_isBlocking_iff _ hdistinct singleEntry, ensureValid]
  constructor
  · intro hrefused
    split at hrefused
    · next hblocking => exact ⟨(Except.error.inj hrefused).symm, hblocking⟩
    · cases hrefused
  · rintro ⟨rfl, hblocking⟩
    rw [if_pos hblocking]

/-- Compilation is refused for its findings when validation is. -/
theorem compile_eq_invalid_iff {version : String} {singleEntry : Bool}
    {time : Timestamp} {findings : List Finding} :
    graph.compile version singleEntry time = .error (.invalid findings) ↔
      graph.ensureValid singleEntry = .error findings := by
  rw [compile]
  cases hvalid : graph.ensureValid singleEntry with
  | error refused => simp
  | ok accepted =>
    simp only [reduceCtorEq, iff_false]
    intro hrefused
    split at hrefused
    · cases hrefused
    · next canonical _ =>
      rw [written] at hrefused
      split at hrefused <;> cases hrefused

/-- Two nodes, neither of them a trigger, with connections of which the first is
wrong at both ends, the second leaves a missing port, and the last binds a port
again, but not before the third one does. -/
def snarl : Graph :=
  ⟨"snarl", "", .standard,
    [⟨"warp", .origin, .action .initial, by decide⟩,
      ⟨"weft", .origin, .action .initial, by decide⟩],
    [⟨"frayed", ⟨"ghost", 0, by decide⟩, ⟨"warp", 7, by decide⟩, by decide⟩,
      ⟨"slack", ⟨"warp", 3, by decide⟩, ⟨"weft", 0, by decide⟩, by decide⟩,
      ⟨"taut", ⟨"warp", 0, by decide⟩, ⟨"weft", 0, by decide⟩, by decide⟩,
      ⟨"knot", ⟨"weft", 0, by decide⟩, ⟨"weft", 0, by decide⟩, by decide⟩],
    by decide, by decide⟩

end Graph

end StoryGraph
