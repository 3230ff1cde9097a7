import StoryGraph.Proofs.Play.Response

/-!
# Compiled graphs of one outline

The outline of a compiled graph is everything but the data of its nodes.  When
graphs of the same outline are put in the place of those that a session plays,
the session stays the same as long as the visited nodes hold the same data: a
turn reads the data of a node only when it visits the node.  Of the outline, an
activation that has started goes by its nodes only.
-/

namespace StoryGraph

/-! ## Outlines -/

/-- The nodes have the same kind and lead to the same nodes. -/
structure CompiledNode.SameOutline (node other : CompiledNode) : Prop where
  kind : node.kind = other.kind
  outputs : node.outputs = other.outputs

theorem CompiledNode.SameOutline.next? {node other : CompiledNode}
    (hsame : node.SameOutline other) (port : Nat) :
    node.next? port = other.next? port := by
  rw [CompiledNode.next?, CompiledNode.next?, targets, targets, hsame.outputs]

/-- The graphs have the same format version, and the nodes of one lead on as
those of the other do. -/
structure CompiledGraph.SameCourse (graph other : CompiledGraph) : Prop where
  version : graph.metadata.version = other.metadata.version
  nodes : ∀ nodeId,
    Option.Rel CompiledNode.SameOutline (graph.nodes.find? nodeId)
    (other.nodes.find? nodeId)

/-- The graphs differ in the data of their nodes at most. -/
structure CompiledGraph.SameOutline (graph other : CompiledGraph) : Prop
    extends graph.SameCourse other where
  id : graph.id = other.id
  startNode : graph.startNode = other.startNode
  entrypoints : graph.entrypoints = other.entrypoints

theorem CompiledGraph.SameOutline.refl (graph : CompiledGraph) :
    graph.SameOutline graph where
  id := rfl
  startNode := rfl
  entrypoints := rfl
  version := rfl
  nodes := by
    intro nodeId
    cases graph.nodes.find? nodeId with
    | none => exact .none
    | some node => exact .some ⟨rfl, rfl⟩

namespace CompiledGraph.SameCourse

variable {graph other : CompiledGraph} (hsame : graph.SameCourse other)
  {nodeId : String}

include hsame

theorem find?_eq_none (hnone : other.nodes.find? nodeId = none) :
    graph.nodes.find? nodeId = none := by
  have hrel := hsame.nodes nodeId
  rw [hnone] at hrel
  cases hfound : graph.nodes.find? nodeId with
  | none => rfl
  | some node =>
    rw [hfound] at hrel
    cases hrel

theorem find?_eq_some {node : CompiledNode}
    (hfound : other.nodes.find? nodeId = some node) :
    ∃ same, graph.nodes.find? nodeId = some same ∧ same.SameOutline node := by
  have hrel := hsame.nodes nodeId
  rw [hfound] at hrel
  cases hfoundSame : graph.nodes.find? nodeId with
  | none =>
    rw [hfoundSame] at hrel
    cases hrel
  | some same =>
    rw [hfoundSame] at hrel
    cases hrel with
    | some hnode => exact ⟨same, rfl, hnode⟩

end CompiledGraph.SameCourse

/-- Another compiled graph in the place of one. -/
def CompiledGraph.inPlaceOf
    (again compiled graph : CompiledGraph) : CompiledGraph :=
  if graph = compiled then again else graph

theorem CompiledGraph.SameOutline.inPlaceOf {again compiled : CompiledGraph}
    (hsame : again.SameOutline compiled) (graph : CompiledGraph) :
    (again.inPlaceOf compiled graph).SameOutline graph := by
  rw [CompiledGraph.inPlaceOf]
  split
  · next heq => exact heq ▸ hsame
  · exact .refl graph

theorem CompiledGraph.SameCourse.inPlaceOf {again compiled : CompiledGraph}
    (hsame : again.SameCourse compiled) (graph : CompiledGraph) :
    (again.inPlaceOf compiled graph).SameCourse graph := by
  rw [CompiledGraph.inPlaceOf]
  split
  · next heq => exact heq ▸ hsame
  · exact (SameOutline.refl graph).toSameCourse

/-! ## Other graphs in the place of those that are played -/

section MapGraph

variable (map : CompiledGraph → CompiledGraph)

def Activation.mapGraph (activation : Activation) : Activation :=
  { activation with graph := map activation.graph }

def Turn.mapGraph (turn : Turn) : Turn :=
  ⟨turn.context, turn.activation.mapGraph map⟩

/-- The nodes that the activation has visited hold the same data in both
graphs. -/
def Activation.MeetsSame (activation : Activation) : Prop :=
  ∀ nodeId ∈ activation.visited.toList,
    (map activation.graph).nodes.find? nodeId =
      activation.graph.nodes.find? nodeId

end MapGraph

namespace Activation

/-- What holds of all visited nodes held of those visited before. -/
theorem MeetsSame.of_grows {map : CompiledGraph → CompiledGraph}
    {earlier later : Activation} (hsame : later.MeetsSame map)
    (hgrows : earlier.Grows later) : earlier.MeetsSame map := by
  intro nodeId hmem
  have hlater := hsame nodeId (hgrows.visited hmem)
  rwa [hgrows.graph] at hlater

end Activation

namespace Turn

open Activation

/-! ## Turns -/

variable {map : CompiledGraph → CompiledGraph}

theorem Visited.mapGraph {turn later : Turn} {nodeId : String}
    {node : CompiledNode} {destination : Destination}
    (hvisited : Visited turn nodeId node later destination) :
    Visited (turn.mapGraph map) nodeId node (later.mapGraph map)
      destination := by
  cases hvisited with
  | failed hvisit => exact .failed hvisit
  | stopped hvisit => exact .stopped hvisit
  | called hvisit => exact .called hvisit
  | closed hvisit hnext => exact .closed hvisit hnext
  | followed hvisit hnext => exact .followed hvisit hnext

/-- A visited node is the same in both graphs. -/
theorem find?_of_meetsSame {turn : Turn} {later : Activation} {nodeId : String}
    {node : CompiledNode} (hgrows : (turn.activation.enter nodeId).Grows later)
    (hsame : later.MeetsSame map)
    (hnode : turn.activation.graph.nodes.find? nodeId = some node) :
    (turn.mapGraph map).activation.graph.nodes.find? nodeId = some node := by
  rw [← hnode]
  exact hsame.of_grows hgrows nodeId (mem_visited_self turn.activation nodeId)

variable (hcourse : ∀ graph, (map graph).SameCourse graph)

include hcourse

/-- A turn goes on alike as long as the nodes on its way hold the same data. -/
theorem Walks.mapGraph {limit : Nat} {turn later : Turn} {nodeId : String}
    {call? : Option Call} (hwalks : Walks limit turn nodeId later call?)
    (hsame : later.activation.MeetsSame map) :
    Walks limit (turn.mapGraph map) nodeId (later.mapGraph map) call? := by
  -- Whether there is a node shows in the outline; its data count only if it is
  -- visited.
  induction hwalks with
  | missing hnode => exact .missing ((hcourse _).find?_eq_none hnode)
  | exhausted hnode hsteps =>
    obtain ⟨same, hmapped, -⟩ := (hcourse _).find?_eq_some hnode
    exact .exhausted hmapped hsteps
  | ended hnode hsteps hvisited =>
    exact .ended (find?_of_meetsSame hvisited.grows hsame hnode) hsteps
      hvisited.mapGraph
  | called hnode hsteps hrunning hvisited =>
    exact .called (find?_of_meetsSame hvisited.grows hsame hnode)
      hsteps hrunning hvisited.mapGraph
  | followed hnode hsteps hvisited hrest ih =>
    have hgrows := hvisited.grows.trans hrest.grows
    exact .followed (find?_of_meetsSame hgrows hsame hnode) hsteps
      hvisited.mapGraph (ih hsame)

theorem continueAt_mapGraph (limit : Nat) (nodeId : String) (turn : Turn)
    (hsame : (turn.continueAt limit nodeId).1.activation.MeetsSame map) :
    (turn.mapGraph map).continueAt limit nodeId =
      ((turn.continueAt limit nodeId).1.mapGraph map,
        (turn.continueAt limit nodeId).2) := by
  have hwalks := (continueAt_walks limit nodeId turn).mapGraph hcourse hsame
  exact hwalks.continueAt_eq

theorem follow_mapGraph (limit : Nat) {node same : CompiledNode}
    (hnode : same.SameOutline node) (port : Nat) (turn : Turn)
    (hsame : (turn.follow limit node port).1.activation.MeetsSame map) :
    (turn.mapGraph map).follow limit same port =
      ((turn.follow limit node port).1.mapGraph map,
        (turn.follow limit node port).2) := by
  rw [follow, hnode.next? port]
  rw [follow] at hsame ⊢
  cases hnext : node.next? port with
  | none => rfl
  | some next =>
    simp only [hnext] at hsame ⊢
    exact continueAt_mapGraph hcourse limit next turn hsame

theorem current?_mapGraph_none {turn : Turn} (hnone : turn.current? = none) :
    (turn.mapGraph map).current? = none := by
  have hcursor : (turn.mapGraph map).activation.cursor =
      turn.activation.cursor :=
    rfl
  rw [current?, hcursor]
  rw [current?] at hnone
  cases hvisited : turn.activation.cursor with
  | none => rfl
  | some nodeId =>
    rw [hvisited, Option.bind_some, Option.map_eq_none_iff] at hnone
    have hmapped :
        (turn.mapGraph map).activation.graph.nodes.find? nodeId = none :=
      (hcourse _).find?_eq_none hnone
    rw [Option.bind_some, hmapped, Option.map_none]

theorem current?_mapGraph_some {turn : Turn} {nodeId : String}
    {node : CompiledNode} (hcurrent : turn.current? = some (nodeId, node)) :
    ∃ same, (turn.mapGraph map).current? = some (nodeId, same) ∧
      same.SameOutline node := by
  obtain ⟨hcursor, hfound⟩ := current?_eq_some.mp hcurrent
  obtain ⟨same, hmapped, hnode⟩ := (hcourse _).find?_eq_some hfound
  exact ⟨same, current?_eq_some.mpr ⟨hcursor, hmapped⟩, hnode⟩

theorem resume_mapGraph (limit : Nat) (report : Report) (turn : Turn)
    (hsame : (turn.resume limit report).1.activation.MeetsSame map) :
    (turn.mapGraph map).resume limit report =
      ((turn.resume limit report).1.mapGraph map,
        (turn.resume limit report).2) := by
  by_cases hsuspended : turn.activation.state = .suspended
  · have hmapped : (turn.mapGraph map).activation.state = .suspended :=
      hsuspended
    rw [resume, if_pos hsuspended] at hsame
    rw [resume, resume, if_pos hmapped, if_pos hsuspended]
    cases hcurrent : turn.current? with
    | none =>
      rw [current?_mapGraph_none hcourse hcurrent]
      rfl
    | some found =>
      obtain ⟨nodeId, node⟩ := found
      obtain ⟨same, hcurrentSame, hnode⟩ :=
        current?_mapGraph_some hcourse hcurrent
      rw [hcurrent] at hsame
      rw [hcurrentSame]
      simp only [hnode.kind]
      simp only at hsame
      cases hport : report.port node.kind with
      | rejected issues => rfl
      | accepted port =>
        simp only [hport] at hsame
        exact follow_mapGraph hcourse limit hnode port turn hsame
  · have hmapped : (turn.mapGraph map).activation.state ≠ .suspended :=
      hsuspended
    rw [resume_of_not_suspended _ _ hmapped,
      resume_of_not_suspended _ _ hsuspended]

omit hcourse in
theorem cancel_mapGraph (turn : Turn) :
    (turn.mapGraph map).cancel = turn.cancel.mapGraph map := by
  have hlive : (turn.mapGraph map).activation.isLive = turn.activation.isLive :=
    rfl
  rw [cancel, cancel, hlive]
  split <;> rfl

theorem receive_mapGraph (limit : Nat) (answer : Answer) (turn : Turn)
    (hsame : (turn.receive limit answer).1.activation.MeetsSame map) :
    (turn.mapGraph map).receive limit answer =
      ((turn.receive limit answer).1.mapGraph map,
        (turn.receive limit answer).2) := by
  have hlive : (turn.mapGraph map).activation.isLive = turn.activation.isLive :=
    rfl
  rw [receive] at hsame ⊢
  cases hcurrent : turn.current? with
  | none =>
    rw [current?_mapGraph_none hcourse hcurrent, receive, hcurrent]
    rfl
  | some found =>
    obtain ⟨nodeId, node⟩ := found
    obtain ⟨same, hcurrentSame, hnode⟩ :=
      current?_mapGraph_some hcourse hcurrent
    rw [hcurrentSame, receive, hcurrent]
    rw [hcurrent] at hsame
    cases answer with
    | reported report =>
      simp only [hnode.kind, hlive]
      simp only at hsame
      cases hport : report.port node.kind with
      | rejected issues => rfl
      | accepted port =>
        simp only [hport] at hsame ⊢
        split at hsame
        · next hrunning =>
          rw [if_pos hrunning, if_pos hrunning]
          exact follow_mapGraph hcourse limit hnode port turn hsame
        · next hended =>
          rw [if_neg hended, if_neg hended]
    | deferred =>
      simp only [hlive]
      split <;> rfl
    | failed kind text =>
      simp only [hlive]
      split <;> rfl
    | interrupted text => rw [cancel_mapGraph]

end Turn

end StoryGraph
