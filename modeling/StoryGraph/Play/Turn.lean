import StoryGraph.Play.Visit

/-!
# Turns

In a turn one activation works on the context: it visits node after node until
it ends or calls the host.  The limit on the number of visits bounds every
turn, also in graphs with cycles.

`run` is the loop of `GraphRuntime._run` up to where it awaits the host, and
`receive` is what follows once the host has answered.  `follow` embeds
`_follow`, and `finish` and `abort` embed `_finish` and `_abort`.
-/

namespace StoryGraph

structure Turn where
  context : Context
  activation : Activation
  deriving DecidableEq

/-- Where a visit leads. -/
inductive Destination where
  | node (nodeId : String)
  | host (call : Call)
  | nowhere
  deriving DecidableEq

namespace Turn

/-- Ends the activation in a state that is not live. -/
def finish (turn : Turn) (state : ActivationState) : Turn :=
  ⟨turn.context.deactivate turn.activation.id, turn.activation.withState state⟩

/-- Ends the activation with a failure at a node. -/
def abort (turn : Turn) (nodeId : String) (failure : Failure) : Turn :=
  turn.finish (.aborted ⟨nodeId, failure⟩)

/-- Records the visit of a node. -/
def enter (turn : Turn) (nodeId : String) : Turn :=
  { turn with activation := turn.activation.enter nodeId }

/-- The turn after the visit of a node, and where it leads. -/
def visitNode (nodeId : String) (node : CompiledNode)
    (turn : Turn) : Turn × Destination :=
  let turn := turn.enter nodeId
  match node.visit turn.context with
  | .error failure => (turn.abort nodeId failure, .nowhere)
  | .ok (move, context) =>
    let turn := { turn with context := context }
    match move with
    | .stop => (turn.finish .completed, .nowhere)
    | .call call => (turn, .host call)
    | .follow port =>
      match node.next? port with
      | none => (turn.finish .completed, .nowhere)
      | some next => (turn, .node next)

/-- Visits a node and those that follow it, with so many visits left.  The turn
ends with a call to the host or with the end of the activation. -/
def run (limit : Nat) :
    (left : Nat) → (nodeId : String) → Turn → Turn × Option Call
  | left, nodeId, turn =>
    match turn.activation.graph.nodes.find? nodeId with
    | none => (turn.abort nodeId .missingTarget, none)
    | some node =>
      match left with
      | 0 => (turn.abort nodeId (.stepLimit limit), none)
      | left + 1 =>
        match turn.visitNode nodeId node with
        | (turn, .nowhere) => (turn, none)
        | (turn, .host call) => (turn, some call)
        | (turn, .node next) => run limit left next turn

/-- The activation goes on at a node. -/
def continueAt (limit : Nat) (nodeId : String)
    (turn : Turn) : Turn × Option Call :=
  run limit (limit - turn.activation.steps) nodeId
    { turn with activation := turn.activation.withState .running }

/-- The activation goes on from an output port of a node. -/
def follow (limit : Nat) (node : CompiledNode) (port : Nat)
    (turn : Turn) : Turn × Option Call :=
  match node.next? port with
  | none => (turn.finish .completed, none)
  | some next => turn.continueAt limit next

/-- The id of the last visited node, and the node. -/
def current? (turn : Turn) : Option (String × CompiledNode) :=
  turn.activation.cursor.bind fun nodeId =>
    (turn.activation.graph.nodes.find? nodeId).map fun node => (nodeId, node)

/-- Where to report that the last visited node is gone. -/
def abortMissing (turn : Turn) : Turn :=
  turn.abort (turn.activation.cursor.getD "") .missingSuspended

/-- The activation receives the report that it was suspended for.  In any other
state the report comes too late and is ignored. -/
def resume (limit : Nat) (report : Report) (turn : Turn) : Turn × Option Call :=
  if turn.activation.state = .suspended then
    match turn.current? with
    | none => (turn.abortMissing, none)
    | some (nodeId, node) =>
      match report.port node.kind with
      | .rejected issues => (turn.abort nodeId (.invalidReport issues), none)
      | .accepted port => turn.follow limit node port
  else (turn, none)

/-- Cancels the activation if it is live. -/
def cancel (turn : Turn) : Turn :=
  if turn.activation.isLive then turn.finish .cancelled else turn

/-- The call that the activation made is over.  An activation that was cancelled
meanwhile ignores the answer, unless it is the report of an encounter that
cannot be read: that one aborts the activation in any state. -/
def receive (limit : Nat) (answer : Answer)
    (turn : Turn) : Turn × Option Call :=
  match turn.current? with
  | none => (turn.abortMissing, none)
  | some (nodeId, node) =>
    match answer with
    | .reported report =>
      match report.port node.kind with
      | .rejected issues => (turn.abort nodeId (.invalidReport issues), none)
      | .accepted port =>
        if turn.activation.isLive then turn.follow limit node port
        else (turn, none)
    | .deferred =>
      if turn.activation.isLive then
        ({ turn with activation := turn.activation.withState .suspended }, none)
      else (turn, none)
    | .failed kind text =>
      if turn.activation.isLive then (turn.abort nodeId (.host kind text), none)
      else (turn, none)
    | .interrupted _ => (turn.cancel, none)

end Turn

end StoryGraph
