import StoryGraph.Play.Turn
import StoryGraph.Proofs.Graph.Compiled

/-!
# Walks over authoring graphs

A graph has a meaning without being compiled: a walk visits a node with the
properties that the node has in the graph and goes on to where the earliest
connection of the chosen output port leads.  Where a node needs the host, the
walk pauses until the host answers.
-/

namespace StoryGraph

/-- What a walk has come to. -/
structure Walk where
  context : Context
  state : ActivationState
  /-- The visited nodes, in order. -/
  visited : List String

namespace Walk

def finish (walk : Walk) (state : ActivationState) : Walk :=
  { walk with state := state }

/-- Ends the walk with a failure at a node. -/
def abort (walk : Walk) (nodeId : String) (failure : Failure) : Walk :=
  walk.finish (.aborted ⟨nodeId, failure⟩)

/-- Records the visit of a node. -/
def enter (walk : Walk) (nodeId : String) : Walk :=
  { walk with visited := walk.visited ++ [nodeId] }

end Walk

/-- What the host does while an activation is under way. -/
inductive HostMove where
  | answer (answer : Answer)
  | resume (report : Report)
  deriving DecidableEq

namespace Graph

/-- The walk after the visit of a node, and where it leads. -/
def visitNode (graph : Graph) (node : Node)
    (walk : Walk) : Walk × Destination :=
  let walk := walk.enter node.id
  match node.properties.visit walk.context with
  | .error failure => (walk.abort node.id failure, .nowhere)
  | .ok (move, context) =>
    let walk := { walk with context := context }
    match move with
    | .stop => (walk.finish .completed, .nowhere)
    | .call call => (walk, .host call)
    | .follow port =>
      match graph.firstTarget? node.id port with
      | none => (walk.finish .completed, .nowhere)
      | some next => (walk, .node next)

/-- Visits a node and those that follow it, with so many visits left. -/
def walkFrom (graph : Graph) (limit : Nat) :
    (left : Nat) → (nodeId : String) → Walk →
    Walk × Option Call
  | left, nodeId, walk =>
    match graph.getNode? nodeId with
    | none => (walk.abort nodeId .missingTarget, none)
    | some node =>
      match left with
      | 0 => (walk.abort nodeId (.stepLimit limit), none)
      | left + 1 =>
        match graph.visitNode node walk with
        | (walk, .nowhere) => (walk, none)
        | (walk, .host call) => (walk, some call)
        | (walk, .node next) => graph.walkFrom limit left next walk

/-- The walk goes on after the host has reported on the call at a node. -/
def walkAfter (graph : Graph) (limit : Nat) (node : Node) (report : Report)
    (walk : Walk) : Walk × Option Call :=
  match report.port node.kind with
  | .rejected issues => (walk.abort node.id (.invalidReport issues), none)
  | .accepted port =>
    match graph.firstTarget? node.id port with
    | none => (walk.finish .completed, none)
    | some next =>
      graph.walkFrom limit (limit - walk.visited.length)
        next (walk.finish .running)

/-- The node that a walk has visited last. -/
def lastVisited? (graph : Graph) (walk : Walk) : Option Node :=
  walk.visited.getLast?.bind graph.getNode?

/-- The walk after a move of the host.  A walk that runs waits for an answer,
and one that is suspended for a report; other moves change nothing. -/
def walkOn (graph : Graph) (limit : Nat) (move : HostMove)
    (walk : Walk) : Walk × Option Call :=
  match graph.lastVisited? walk, move with
  | some node, .answer answer =>
    if walk.state = .running then
      match answer with
      | .reported report => graph.walkAfter limit node report walk
      | .deferred => (walk.finish .suspended, none)
      | .failed kind text => (walk.abort node.id (.host kind text), none)
      | .interrupted _ => (walk.finish .cancelled, none)
    else (walk, none)
  | some node, .resume report =>
    if walk.state = .suspended then graph.walkAfter limit node report walk
    else (walk, none)
  | none, _ => (walk, none)

/-- The walk after some moves of the host, and the calls that it has made. -/
def walkAll (graph : Graph) (limit : Nat) :
    List HostMove → Walk → Walk × List Call
  | [], walk => (walk, [])
  | move :: moves, walk =>
    let (next, call?) := graph.walkOn limit move walk
    let (last, calls) := graph.walkAll limit moves next
    (last, call?.toList ++ calls)

/-- The walk from an entrypoint with all moves of the host, and its calls. -/
def walk (graph : Graph) (limit : Nat) (entry : String) (context : Context)
    (moves : List HostMove) : Walk × List Call :=
  let (first, call?) := graph.walkFrom limit limit entry ⟨context, .running, []⟩
  let (last, calls) := graph.walkAll limit moves first
  (last, call?.toList ++ calls)

/-! ## Moves that come at the wrong time -/

theorem walkOn_answer_of_not_running (graph : Graph) (limit : Nat)
    (answer : Answer) {walk : Walk} (hrunning : walk.state ≠ .running) :
    graph.walkOn limit (.answer answer) walk = (walk, none) := by
  unfold walkOn
  cases graph.lastVisited? walk with
  | none => rfl
  | some node => exact if_neg hrunning

theorem walkOn_resume_of_not_suspended (graph : Graph) (limit : Nat)
    (report : Report) {walk : Walk} (hsuspended : walk.state ≠ .suspended) :
    graph.walkOn limit (.resume report) walk = (walk, none) := by
  unfold walkOn
  cases graph.lastVisited? walk with
  | none => rfl
  | some node => exact if_neg hsuspended

end Graph

end StoryGraph
