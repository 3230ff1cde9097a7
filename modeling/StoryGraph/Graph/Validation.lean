import StoryGraph.Graph.Basic
import StoryGraph.Value.Literal

/-!
# Validation

Validation lists everything that is wrong with a graph.  Structural faults
block compilation; the other findings are warnings.  Connections whose ends
both exist and whose ports are in range are *valid*, and only these decide
about doubly bound ports and about which nodes can be reached.

`validate` and `ensureValid` embed `validate_graph` and `ensure_valid_graph`,
and a `Finding` is a `GraphValidationError` with the data of its message.
-/

namespace StoryGraph

inductive Severity where
  | error
  | warning
  deriving DecidableEq

def Severity.word : Severity → String
  | error => "error"
  | warning => "warning"

/-- What validation finds.  Connections are named by their position in the
graph as well as by their id. -/
inductive Finding where
  | danglingEdge (position : Nat) (direction : Direction)
      (connectionId nodeId : String)
  | portArity (position : Nat) (direction : Direction)
      (connectionId nodeId : String) (port : Int) (kind : Kind) (declared : Nat)
  | selfLoop (position : Nat) (connectionId nodeId : String)
  | duplicateBinding (position : Nat) (firstId extraId nodeId : String)
      (port : Int)
  | noStartNode
  | ambiguousStart (used : String) (ignored : List String)
  | unreachable (nodeId : String)
  | unknownActionType (nodeId actionType : String)
  deriving DecidableEq

namespace Finding

def code : Finding → String
  | danglingEdge .. => "DANGLING_EDGE"
  | portArity .. => "PORT_ARITY_VIOLATION"
  | selfLoop .. => "SELF_LOOP"
  | duplicateBinding .. => "DUPLICATE_INPUT_BINDING"
  | noStartNode => "NO_START_NODE"
  | ambiguousStart .. => "AMBIGUOUS_START"
  | unreachable _ => "UNREACHABLE_NODE"
  | unknownActionType .. => "UNKNOWN_ACTION_TYPE"

def severity : Finding → Severity
  | danglingEdge .. | portArity .. | duplicateBinding .. | noStartNode => .error
  | selfLoop .. | ambiguousStart .. | unreachable _ | unknownActionType .. =>
    .warning

def isBlocking (finding : Finding) : Bool := finding.severity == .error

def nodeId? : Finding → Option String
  | danglingEdge _ _ _ nodeId => some nodeId
  | portArity _ _ _ nodeId _ _ _ => some nodeId
  | selfLoop _ _ nodeId => some nodeId
  | duplicateBinding _ _ _ nodeId _ => some nodeId
  | noStartNode => none
  | ambiguousStart used _ => some used
  | unreachable nodeId => some nodeId
  | unknownActionType nodeId _ => some nodeId

def connectionId? : Finding → Option String
  | danglingEdge _ _ connectionId _ => some connectionId
  | portArity _ _ connectionId _ _ _ _ => some connectionId
  | selfLoop _ connectionId _ => some connectionId
  | duplicateBinding _ _ extraId _ _ => some extraId
  | noStartNode | ambiguousStart .. | unreachable _ | unknownActionType .. =>
    none

/-- The key of an end of a connection in documents. -/
def endKey : Direction → String
  | .output => "from"
  | .input => "to"

def connectionPath (position : Nat) : String :=
  "connections[" ++ toString position ++ "]"

def path : Finding → String
  | danglingEdge position direction _ _ =>
    connectionPath position ++ "." ++ endKey direction ++ ".nodeId"
  | portArity position direction _ _ _ _ _ =>
    connectionPath position ++ "." ++ endKey direction ++ ".port"
  | selfLoop position _ _ => connectionPath position
  | duplicateBinding position _ _ _ _ => connectionPath position ++ ".to"
  | noStartNode | ambiguousStart .. => "nodes"
  | unreachable nodeId => "nodes." ++ nodeId
  | unknownActionType nodeId _ => "nodes." ++ nodeId ++ ".properties.actionType"

def message : Finding → String
  | danglingEdge _ _ connectionId nodeId =>
    "Connection '" ++ connectionId ++ "' references missing node '" ++
      nodeId ++ "'."
  | portArity _ direction connectionId nodeId port kind declared =>
    "Connection '" ++ connectionId ++ "' uses " ++ direction.word ++ " port " ++
      toString port ++
      " of " ++ kind.word ++ " node '" ++ nodeId ++ "', which declares " ++
        toString declared ++
      " " ++ direction.word ++ "(s)."
  | selfLoop _ connectionId nodeId =>
    "Connection '" ++ connectionId ++ "' loops node '" ++ nodeId ++
      "' onto itself."
  | duplicateBinding _ firstId extraId nodeId port =>
    "Input port " ++ toString port ++ " of node '" ++ nodeId ++
      "' is bound by both '" ++
      firstId ++ "' and '" ++ extraId ++ "'."
  | noStartNode => "Graph must contain at least one trigger node."
  | ambiguousStart used ignored =>
    "Single-entry mode uses '" ++ used ++ "'; ignoring triggers " ++
      Literal.ofTexts ignored ++ "."
  | unreachable nodeId =>
    "Node '" ++ nodeId ++ "' cannot be reached from any trigger."
  | unknownActionType _ actionType =>
    "Action type '" ++ actionType ++ "' is not handled by the runtime."

/-- The warning that a compiled graph keeps. -/
def warningText (finding : Finding) : String :=
  finding.code ++ ":" ++ finding.path

end Finding

namespace Graph

/-- Whether an end of a connection names a port that exists. -/
def endIsValid (graph : Graph) (direction : Direction)
    (connection : Connection) : Bool :=
  let ref := direction.endOf connection
  match graph.getNode? ref.nodeId with
  | none => false
  | some node => portInRange ref.port (direction.count graph.registry node.kind)

def isValidConnection (graph : Graph) (connection : Connection) : Bool :=
  graph.endIsValid .output connection && graph.endIsValid .input connection

def validConnections (graph : Graph) : List Connection :=
  graph.connections.filter graph.isValidConnection

/-- What is wrong with one end of a connection. -/
def endFindings (graph : Graph) (position : Nat) (connection : Connection)
    (direction : Direction) : List Finding :=
  let ref := direction.endOf connection
  match graph.getNode? ref.nodeId with
  | none => [.danglingEdge position direction connection.id ref.nodeId]
  | some node =>
    let declared := direction.count graph.registry node.kind
    if portInRange ref.port declared then []
    else
      [.portArity position direction connection.id ref.nodeId ref.port
        node.kind declared]

def selfLoopFindings (graph : Graph) (position : Nat)
    (connection : Connection) : List Finding :=
  if connection.isSelfLoop &&
    (graph.getNode? connection.source.nodeId).isSome then
    [.selfLoop position connection.id connection.source.nodeId]
  else []

def connectionFindings (graph : Graph) : List Finding :=
  (graph.connections.mapIdx fun position connection =>
    graph.endFindings position connection .output ++
      graph.endFindings position connection .input ++
      graph.selfLoopFindings position connection).flatten

/-- The position of the last connection with an id. -/
def positionOf (graph : Graph) (connectionId : String) : Nat :=
  graph.connections.length - 1 -
    graph.connections.reverse.findIdx (·.id == connectionId)

/-- The input port that a connection binds. -/
def boundPort (connection : Connection) : String × Int :=
  (connection.target.nodeId, connection.target.port)

/-- Findings for the connections after the first one among those that bind the
same port. -/
def groupFindings (graph : Graph) : List Connection → List Finding
  | [] => []
  | first :: extras =>
    extras.map fun extra =>
      .duplicateBinding (graph.positionOf extra.id) first.id extra.id
        extra.target.nodeId extra.target.port

/-- Doubly bound ports, in the order of their first bindings. -/
def bindingFindings (graph : Graph) : List Finding :=
  let valid := graph.validConnections
  (valid.map boundPort).eraseDups.flatMap fun port =>
    graph.groupFindings (valid.filter (boundPort · == port))

/-- The ids of the nodes in increasing order. -/
def sortedIds (graph : Graph) : List String :=
  (graph.nodes.map Node.id).mergeSort (· ≤ ·)

def isTrigger (graph : Graph) (nodeId : String) : Bool :=
  match graph.getNode? nodeId with
  | some node => node.kind == .trigger
  | none => false

/-- The ids of the triggers in increasing order. -/
def triggers (graph : Graph) : List String :=
  graph.sortedIds.filter graph.isTrigger

def startFindings (graph : Graph) (singleEntry : Bool) : List Finding :=
  match graph.triggers with
  | [] => [.noStartNode]
  | [_] => []
  | used :: ignored =>
    if singleEntry then [.ambiguousStart used ignored] else []

/-- The nodes that valid connections lead to from a node. -/
def successors (graph : Graph) (nodeId : String) : List String :=
  (graph.validConnections.filter (·.source.nodeId == nodeId)).map
    (·.target.nodeId)

/-- Ids of a list that are not among some others. -/
def without (ids others : List String) : List String :=
  ids.filter fun id => !others.contains id

/-- The nodes that valid connections lead to from a node, each of them once and
in increasing order. -/
def neighbours (graph : Graph) (nodeId : String) : List String :=
  (graph.successors nodeId).eraseDups.mergeSort (· ≤ ·)

/-- No valid connection leaves a node that the graph does not have. -/
theorem neighbours_of_unknown {graph : Graph} {nodeId : String}
    (hunknown : nodeId ∉ graph.nodes.map Node.id) :
    graph.neighbours nodeId = [] := by
  have hnone :
      graph.validConnections.filter (·.source.nodeId == nodeId) = [] := by
    rw [List.filter_eq_nil_iff]
    intro connection hvalid hsource
    rw [beq_iff_eq] at hsource
    obtain ⟨-, hends⟩ := List.mem_filter.mp hvalid
    have hnode : graph.getNode? nodeId = none := by
      rw [getNode?, List.find?_eq_none]
      intro node hmem hid
      exact hunknown (beq_iff_eq.mp hid ▸ List.mem_map_of_mem hmem)
    simp [isValidConnection, endIsValid, Direction.endOf, hsource,
      hnode] at hends
  simp [neighbours, successors, hnone]

end Graph

/-- A breadth-first search: the nodes that have been visited, and the queue of
those that are to be visited next.  A node may wait in the queue several
times. -/
structure Search where
  visited : List String
  queue : List String
  deriving DecidableEq

namespace Search

open StoryGraph.Graph

/-- The search after one step, unless nothing waits in its queue.  The first
node of the queue is visited if it has not been, and those of its neighbours
that have not been visited join the queue. -/
def next? (graph : Graph) (search : Search) : Option Search :=
  match search.queue with
  | [] => none
  | nodeId :: rest =>
    if search.visited.contains nodeId then some { search with queue := rest }
    else
      let visited := search.visited ++ [nodeId]
      some ⟨visited, rest ++ without (graph.neighbours nodeId) visited⟩

/-- The number of nodes of the graph that have not been visited. -/
def unvisited (graph : Graph) (search : Search) : Nat :=
  (without (graph.nodes.map Node.id) search.visited).length

theorem unvisited_lt {graph : Graph} {visited : List String} {nodeId : String}
    (hknown : nodeId ∈ graph.nodes.map Node.id) (hnew : nodeId ∉ visited)
    (before after : List String) :
    unvisited graph ⟨visited ++ [nodeId], after⟩ <
      unvisited graph ⟨visited, before⟩ := by
  have hfewer : without (graph.nodes.map Node.id) (visited ++ [nodeId]) =
      (without (graph.nodes.map Node.id) visited).filter (· != nodeId) := by
    rw [without, without, List.filter_filter]
    congr 1
    funext id
    rw [Bool.eq_iff_iff]
    simp [and_comm]
  have hleft : nodeId ∈ without (graph.nodes.map Node.id) visited :=
    List.mem_filter.mpr ⟨hknown, by simpa using hnew⟩
  simp only [unvisited, hfewer]
  exact List.length_filter_lt_length_iff_exists.mpr ⟨nodeId, hleft, by simp⟩

/-- A step that visits a node of the graph leaves fewer of them; any other step
leaves a shorter queue. -/
theorem next?_decreases {graph : Graph} {search later : Search}
    (hnext : search.next? graph = some later) :
    Prod.Lex (· < ·) (· < ·) (later.unvisited graph, later.queue.length)
      (search.unvisited graph, search.queue.length) := by
  obtain ⟨visited, queue⟩ := search
  rw [next?] at hnext
  split at hnext
  · cases hnext
  · next nodeId rest hqueue =>
    have hqueue : queue = nodeId :: rest := hqueue
    subst hqueue
    split at hnext
    · cases hnext
      exact .right _ (by simp)
    · next hnew =>
      cases hnext
      by_cases hknown : nodeId ∈ graph.nodes.map Node.id
      · exact .left _ _ (unvisited_lt hknown (by simpa using hnew) _ _)
      · have hsame : unvisited graph ⟨visited ++ [nodeId], rest⟩ =
            unvisited graph ⟨visited, nodeId :: rest⟩ := by
          have hfewer :
              without (graph.nodes.map Node.id) (visited ++ [nodeId]) =
                without (graph.nodes.map Node.id) visited := by
            apply List.filter_congr
            intro id hid
            have hne : id ≠ nodeId := fun heq => hknown (heq ▸ hid)
            simp [hne]
          rw [unvisited, unvisited, hfewer]
        rw [neighbours_of_unknown hknown]
        simp only [without, List.filter_nil, List.append_nil]
        rw [hsame]
        exact .right _ (by simp)

/-- The search when nothing waits in its queue any more. -/
def finish (graph : Graph) (search : Search) : Search :=
  match _ : search.next? graph with
  | none => search
  | some later => later.finish graph
termination_by (search.unvisited graph, search.queue.length)
decreasing_by exact next?_decreases ‹_›

end Search

namespace Graph

/-- The nodes that a search from the triggers over valid connections visits. -/
def reachable (graph : Graph) : List String :=
  (Search.finish graph ⟨[], graph.triggers⟩).visited

def reachFindings (graph : Graph) : List Finding :=
  (without graph.sortedIds graph.reachable).map Finding.unreachable

/-- The action type of a node that the runtime does not know. -/
def unknownAction? (graph : Graph) (nodeId : String) : Option String :=
  match graph.getNode? nodeId with
  | some node =>
    match node.properties with
    | .action properties =>
      if (ActionKind.ofWord? properties.actionType).isNone then
        some properties.actionType else none
    | _ => none
  | none => none

def actionFindings (graph : Graph) : List Finding :=
  graph.sortedIds.filterMap fun nodeId =>
    (graph.unknownAction? nodeId).map (.unknownActionType nodeId)

/-- Everything that is wrong with a graph. -/
def validate (graph : Graph) (singleEntry : Bool) : List Finding :=
  graph.connectionFindings ++ graph.bindingFindings ++
    graph.startFindings singleEntry ++
    graph.reachFindings ++ graph.actionFindings

/-- The findings of a graph that can be compiled; otherwise all findings are
the error. -/
def ensureValid (graph : Graph) (singleEntry : Bool) :
    Except (List Finding) (List Finding) :=
  let findings := graph.validate singleEntry
  if findings.any Finding.isBlocking then .error findings else .ok findings

end Graph

/-- The message for a graph that cannot be compiled. -/
def invalidGraphMessage (findings : List Finding) : String :=
  "Invalid event graph: " ++
    "; ".intercalate ((findings.filter Finding.isBlocking).map
      fun finding =>
        finding.code ++ " (" ++ finding.path ++ "): " ++ finding.message)

end StoryGraph
