import Mathlib.Data.Prod.Lex
import Mathlib.Logic.Relation
import StoryGraph.Proofs.Graph.Faults

/-!
# Reachable nodes

Validation searches a graph breadth first, from the triggers over the valid
connections.  At every step of the search the nodes that have been visited or
wait in the queue lie on paths from where it began, and whatever follows a
visited node has been visited or waits in the queue.  No search goes on for
ever, and when nothing waits any more, the visited nodes are all nodes on such
paths.
-/

namespace StoryGraph

namespace Graph

/-- A valid connection leads from one node to another one. -/
def LeadsTo (graph : Graph) (nodeId next : String) : Prop :=
  ∃ connection ∈ graph.validConnections,
    connection.source.nodeId = nodeId ∧ connection.target.nodeId = next

/-- Any number of valid connections lead from one node to another one. -/
abbrev PathTo (graph : Graph) : String → String → Prop :=
  Relation.ReflTransGen graph.LeadsTo

variable {graph : Graph}

theorem mem_successors_iff {nodeId next : String} :
    next ∈ graph.successors nodeId ↔ graph.LeadsTo nodeId next := by
  simp only [successors, List.mem_map, List.mem_filter, beq_iff_eq, LeadsTo,
    and_assoc]

theorem mem_neighbours_iff {nodeId next : String} :
    next ∈ graph.neighbours nodeId ↔ graph.LeadsTo nodeId next := by
  rw [neighbours, List.mem_mergeSort, List.mem_eraseDups, mem_successors_iff]

theorem mem_without_iff {ids others : List String} {nodeId : String} :
    nodeId ∈ without ids others ↔ nodeId ∈ ids ∧ nodeId ∉ others := by
  simp [without]

end Graph

/-! ## Searches -/

namespace Search

open StoryGraph.Graph

variable {graph : Graph} {search later : Search}

/-- What a step does with the first node of the queue. -/
theorem next?_cases (hnext : search.next? graph = some later) :
    ∃ nodeId rest, search.queue = nodeId :: rest ∧
      (nodeId ∈ search.visited ∧ later = ⟨search.visited, rest⟩ ∨
        nodeId ∉ search.visited ∧ later = ⟨search.visited ++ [nodeId],
          rest ++ without (graph.neighbours nodeId)
            (search.visited ++ [nodeId])⟩) := by
  rw [next?] at hnext
  split at hnext
  · cases hnext
  · next nodeId rest hqueue =>
    refine ⟨nodeId, rest, hqueue, ?_⟩
    split at hnext
    · next hvisited =>
        exact .inl ⟨List.contains_iff_mem.mp hvisited,
          (Option.some.inj hnext).symm⟩
    · next hnew =>
      exact .inr ⟨fun hmem => hnew (List.contains_iff_mem.mpr hmem),
        (Option.some.inj hnext).symm⟩

theorem queue_of_next?_eq_none
    (hnext : search.next? graph = none) : search.queue = [] := by
  rw [next?] at hnext
  split at hnext
  · assumption
  · split at hnext <;> cases hnext

/-- One step of a search. -/
def Step (graph : Graph) (search later : Search) : Prop :=
  search.next? graph = some later

/-- No search goes on for ever. -/
theorem wellFounded_step (graph : Graph) :
    WellFounded fun later search : Search => search.Step graph later :=
  Subrelation.wf next?_decreases (InvImage.wf
    (fun search : Search => (search.unvisited graph, search.queue.length))
    (Prod.lex ⟨(· < ·), Nat.lt_wfRel.wf⟩ ⟨(· < ·), Nat.lt_wfRel.wf⟩).wf)

theorem steps_finish (search : Search) :
    Relation.ReflTransGen (Step graph) search (search.finish graph) := by
  fun_induction finish graph search with
  | case1 => exact .refl
  | case2 search later hnext ih => exact .head hnext ih

theorem queue_finish (search : Search) : (search.finish graph).queue = [] := by
  fun_induction finish graph search with
  | case1 search hnext => exact queue_of_next?_eq_none hnext
  | case2 search later hnext ih => exact ih

/-- A search from some nodes is on its way: its nodes lie on paths from these,
and nothing that is on such a path has been lost. -/
structure Spreads (graph : Graph) (starts : List String)
    (search : Search) : Prop where
  paths : ∀ nodeId ∈ search.visited ++ search.queue, ∃ start ∈ starts,
    graph.PathTo start nodeId
  starts : starts ⊆ search.visited ++ search.queue
  closed : ∀ {nodeId next}, nodeId ∈ search.visited →
    graph.LeadsTo nodeId next →
    next ∈ search.visited ++ search.queue

theorem spreads_start (graph : Graph) (starts : List String) :
    Spreads graph starts ⟨[], starts⟩ where
  paths nodeId hmem := ⟨nodeId, hmem, .refl⟩
  starts := List.Subset.refl _
  closed hmem := by cases hmem

variable {starts : List String}

theorem Spreads.next (hspreads : search.Spreads graph starts)
    (hstep : search.Step graph later) : later.Spreads graph starts := by
  obtain ⟨nodeId, rest, hqueue, ⟨hvisited, rfl⟩ | ⟨hnew, rfl⟩⟩ :=
    next?_cases hstep
  case inl =>
    -- The node has been visited, so that the two searches have the same nodes.
    have hsame :
        ∀ id, id ∈ search.visited ++ search.queue ↔
          id ∈ search.visited ++ rest := by
      intro id
      rw [hqueue, List.mem_append, List.mem_append, List.mem_cons]
      constructor
      · rintro (hold | rfl | hrest)
        · exact .inl hold
        · exact .inl hvisited
        · exact .inr hrest
      · rintro (hold | hrest)
        · exact .inl hold
        · exact .inr (.inr hrest)
    exact ⟨fun id hmem => hspreads.paths id ((hsame id).mpr hmem),
      fun id hmem => (hsame id).mp (hspreads.starts hmem),
      fun hmem hleads => (hsame _).mp (hspreads.closed hmem hleads)⟩
  case inr =>
    have hkept :
        ∀ id ∈ search.visited ++ search.queue,
          id ∈ search.visited ++ [nodeId] ++
            (rest ++ without (graph.neighbours nodeId)
              (search.visited ++ [nodeId])) := by
      intro id hmem
      rw [hqueue] at hmem
      simp only [List.mem_append, List.mem_cons] at hmem ⊢
      tauto
    constructor
    case paths =>
      intro id hmem
      rcases List.mem_append.mp hmem with hvisited | hqueued
      · refine hspreads.paths id ?_
        rw [hqueue]
        simp only [List.mem_append, List.mem_cons] at hvisited ⊢
        tauto
      · rcases List.mem_append.mp hqueued with hrest | hfound
        · exact hspreads.paths id (by simp [hqueue, hrest])
        · obtain ⟨hneighbour, -⟩ := mem_without_iff.mp hfound
          obtain ⟨start, hstart, hpath⟩ :=
            hspreads.paths nodeId (by simp [hqueue])
          exact ⟨start, hstart, hpath.tail (mem_neighbours_iff.mp hneighbour)⟩
    case starts => exact fun id hmem => hkept id (hspreads.starts hmem)
    case closed =>
      intro id next hmem hleads
      rcases List.mem_append.mp hmem with hold | hfirst
      · exact hkept next (hspreads.closed hold hleads)
      · rw [List.mem_singleton.mp hfirst] at hleads
        by_cases hvisited : next ∈ search.visited ++ [nodeId]
        · exact List.mem_append_left _ hvisited
        · exact List.mem_append_right _ (List.mem_append_right _
            (mem_without_iff.mpr ⟨mem_neighbours_iff.mpr hleads, hvisited⟩))

theorem Spreads.finish (hspreads : search.Spreads graph starts) :
    (search.finish graph).Spreads graph starts := by
  fun_induction Search.finish graph search with
  | case1 => exact hspreads
  | case2 search later hnext ih => exact ih (hspreads.next hnext)

/-- In the end a search has visited exactly the nodes on paths from its
start. -/
theorem mem_visited_finish_iff {nodeId : String} :
    nodeId ∈ (finish graph ⟨[], starts⟩).visited ↔
      ∃ start ∈ starts, graph.PathTo start nodeId := by
  have hspreads := (spreads_start graph starts).finish
  obtain ⟨hpaths, hstarts, hclosed⟩ := hspreads
  rw [queue_finish, List.append_nil] at hpaths hstarts hclosed
  constructor
  · exact hpaths nodeId
  · rintro ⟨start, hstart, hpath⟩
    induction hpath with
    | refl => exact hstarts hstart
    | tail _ hleads ih => exact hclosed ih hleads

end Search

/-! ## The nodes on paths from triggers -/

namespace Graph

/-- The nodes that validation reaches are those on paths of valid connections
from triggers. -/
theorem mem_reachable_iff {graph : Graph} {nodeId : String} :
    nodeId ∈ graph.reachable ↔
      ∃ trigger ∈ graph.triggers, graph.PathTo trigger nodeId :=
  Search.mem_visited_finish_iff

/-! ## What validation warns of -/

/-- A trigger, or a node to which a fitting connection leads from such a
node. -/
inductive Accessible (graph : Graph) : String → Prop where
  | trigger {node : Node} (hmem : node ∈ graph.nodes)
      (hkind : node.kind = .trigger) : graph.Accessible node.id
  | along {connection : Connection} (hmem : connection ∈ graph.connections)
      (hfits : graph.Fits connection)
      (hsource : graph.Accessible connection.source.nodeId) :
      graph.Accessible connection.target.nodeId

theorem mem_reachable_iff_accessible {graph : Graph} {nodeId : String} :
    nodeId ∈ graph.reachable ↔ graph.Accessible nodeId := by
  rw [mem_reachable_iff]
  constructor
  · rintro ⟨trigger, htrigger, hpath⟩
    induction hpath with
    | refl =>
      obtain ⟨node, hmem, rfl, hkind⟩ := mem_triggers_iff.mp htrigger
      exact .trigger hmem hkind
    | tail _ hleads ih =>
      obtain ⟨connection, hvalid, rfl, rfl⟩ := hleads
      obtain ⟨hmem, hfits⟩ := mem_validConnections_iff.mp hvalid
      exact .along hmem hfits ih
  · intro haccessible
    induction haccessible with
    | trigger hmem hkind =>
      exact ⟨_, mem_triggers_iff.mpr ⟨_, hmem, rfl, hkind⟩, .refl⟩
    | along hmem hfits _ ih =>
      obtain ⟨trigger, htrigger, hpath⟩ := ih
      exact ⟨trigger, htrigger,
        hpath.tail ⟨_, mem_validConnections_iff.mpr ⟨hmem, hfits⟩, rfl, rfl⟩⟩

theorem filter_unreachable_validate (graph : Graph) (singleEntry : Bool) :
    (graph.validate singleEntry).filter (·.code == "UNREACHABLE_NODE") =
      graph.reachFindings := by
  have hconnections :
      graph.connectionFindings.filter (·.code == "UNREACHABLE_NODE") = [] := by
    rw [List.filter_eq_nil_iff]
    intro finding hfinding hcode
    have hcodes := code_of_mem_connectionFindings hfinding
    rw [eq_of_beq hcode] at hcodes
    revert hcodes
    decide
  have hbindings :
      graph.bindingFindings.filter (·.code == "UNREACHABLE_NODE") = [] := by
    rw [List.filter_eq_nil_iff]
    intro finding hfinding
    rw [code_of_mem_bindingFindings hfinding]
    decide
  have hstart :
      (graph.startFindings singleEntry).filter (·.code == "UNREACHABLE_NODE") =
        [] := by
    rw [List.filter_eq_nil_iff]
    intro finding hfinding
    rcases eq_of_mem_startFindings hfinding with rfl | ⟨_, _, rfl⟩ <;>
      simp [Finding.code]
  have hreach : graph.reachFindings.filter (·.code == "UNREACHABLE_NODE") =
      graph.reachFindings := by
    rw [List.filter_eq_self, reachFindings]
    intro finding hfinding
    obtain ⟨_, -, rfl⟩ := List.mem_map.mp hfinding
    rfl
  have hactions :
      graph.actionFindings.filter (·.code == "UNREACHABLE_NODE") = [] := by
    rw [List.filter_eq_nil_iff, actionFindings]
    intro finding hfinding
    obtain ⟨_, -, hunknown⟩ := List.mem_filterMap.mp hfinding
    obtain ⟨_, -, rfl⟩ := Option.map_eq_some_iff.mp hunknown
    simp [Finding.code]
  rw [validate, List.filter_append, List.filter_append, List.filter_append,
    List.filter_append, hconnections, hbindings, hstart, hreach, hactions]
  simp

/-- Validation finds exactly the nodes that it does not reach. -/
theorem unreachable_mem_validate_iff {graph : Graph} {singleEntry : Bool}
    {nodeId : String} :
    .unreachable nodeId ∈ graph.validate singleEntry ↔
      nodeId ∈ graph.nodes.map Node.id ∧ nodeId ∉ graph.reachable := by
  have hfound : .unreachable nodeId ∈ graph.validate singleEntry ↔
      .unreachable nodeId ∈ graph.reachFindings := by
    rw [← graph.filter_unreachable_validate singleEntry, List.mem_filter]
    exact (and_iff_left rfl).symm
  rw [hfound, ← graph.sortedIds_perm.mem_iff, ← mem_without_iff, reachFindings,
    List.mem_map]
  simp

end Graph

end StoryGraph
