import StoryGraph.Graph.Basic
import StoryGraph.IdSupply

/-!
# Authoring operations

The operations by which an editor changes a graph.  An operation either
answers the changed graph or says why it is refused; ids that are not given
are taken from a supply of numbers.

The operations are the methods of `EventGraph` from `create_node` to
`disconnect`, and `AuthoringError` has a case for each of its subclasses.  A
graph is not changed in place: an operation answers the graph that the method
leaves behind.
-/

namespace StoryGraph

/-- Why a place on the canvas is refused. -/
inductive PositionFault where
  | notPair
  | notMapping (error : MappingError)
  | invalid (issues : List Issue)
  deriving DecidableEq

inductive AuthoringError where
  | unknownNodeType (word : String)
  | unknownNode (nodeId : String)
  | duplicateNodeId (nodeId : String)
  | missingPortNode (nodeId : String) (port : Int) (direction : Direction)
  | invalidPort (nodeId : String) (port : Int) (direction : Direction)
  | portAlreadyBound (nodeId : String) (port : Int) (connectionId : String)
  | invalidProperties (nodeId : String) (error : Properties.UpdateError)
  | invalidPosition (shown : String) (fault : PositionFault)
  | duplicateConnectionId (connectionId : String)
  deriving DecidableEq

def PositionFault.message : PositionFault → String
  | notPair => "<ValueError>"
  | notMapping error =>
    if error.isLengthError then "<ValueError>" else "<TypeError>"
  | invalid _ => issuesMark

namespace AuthoringError

def code : AuthoringError → String
  | unknownNodeType _ => "UNKNOWN_NODE_TYPE"
  | unknownNode _ => "UNKNOWN_NODE"
  | duplicateNodeId _ => "DUPLICATE_NODE_ID"
  | missingPortNode .. => "INVALID_PORT"
  | invalidPort .. => "INVALID_PORT"
  | portAlreadyBound .. => "PORT_ALREADY_BOUND"
  | invalidProperties .. => "INVALID_PROPERTIES"
  | invalidPosition .. => "INVALID_POSITION"
  | duplicateConnectionId _ => "AUTHORING_ERROR"

def message : AuthoringError → String
  | unknownNodeType word => "Node type '" ++ word ++ "' is not registered."
  | unknownNode nodeId => "Node '" ++ nodeId ++ "' does not exist."
  | duplicateNodeId nodeId => "Node id '" ++ nodeId ++ "' is already in use."
  | missingPortNode nodeId _ _ => "Node '" ++ nodeId ++ "' does not exist."
  | invalidPort nodeId port direction =>
    "Node '" ++ nodeId ++ "' has no " ++ direction.word ++ " port " ++
      toString port ++ "."
  | portAlreadyBound nodeId port connectionId =>
    "Input port " ++ toString port ++ " of node '" ++ nodeId ++
      "' is already bound by '" ++
      connectionId ++ "'."
  | invalidProperties nodeId error =>
    "Invalid properties for node '" ++ nodeId ++ "': " ++ error.message
  | invalidPosition shown fault =>
    "Invalid position " ++ shown ++ ": " ++ fault.message
  | duplicateConnectionId connectionId =>
    "Connection id '" ++ connectionId ++ "' is already in use."

/-- The message with its code in front. -/
def text (error : AuthoringError) : String :=
  error.code ++ ": " ++ error.message

end AuthoringError

/-- Why an operation is refused.  Arguments that cannot be read as ports or as
properties at all are not reported as authoring errors, and neither are changes
under a name that the operation itself has taken. -/
inductive Refusal where
  | authoring (error : AuthoringError)
  | invalid (issues : List Issue)
  | notPair (length : Nat)
  | notMapping (error : MappingError)
  | takenName (name : String)
  deriving DecidableEq

/-- The text for a tuple of the wrong length. -/
def pairLengthMessage (length : Nat) : String :=
  if length < 2 then
    "not enough values to unpack (expected 2, got " ++ toString length ++ ")"
  else "too many values to unpack (expected 2)"

/-- The text for a change under a taken name. -/
def takenNameMessage (name : String) : String :=
  "EventGraph.update_node_properties() got multiple values for argument '" ++
    name ++ "'"

/-- A mapping as a position. -/
def Position.ofEntries (entries : Except MappingError Entries) :
    Except PositionFault Position :=
  match entries with
  | .error error => .error (.notMapping error)
  | .ok entries =>
    match Entries.check known read entries with
    | .accepted place => .ok place
    | .rejected issues => .error (.invalid issues)

/-- The position that a loose value means; null means the origin. -/
def Position.ofValue : Value → Except PositionFault Position
  | .position place => .ok place
  | .null => .ok .origin
  | .tuple [x, y] => ofEntries (.ok [(.str "x", x), (.str "y", y)])
  | .tuple _ => .error .notPair
  | value => ofEntries (Entries.ofValue value)

/-- A mapping as a port. -/
def PortRef.ofEntries
    (entries : Except MappingError Entries) : Except Refusal PortRef :=
  match entries with
  | .error error => .error (.notMapping error)
  | .ok entries =>
    match Entries.check known read entries with
    | .accepted ref => .ok ref
    | .rejected issues => .error (.invalid issues)

/-- The port that a loose value means. -/
def PortRef.ofValue : Value → Except Refusal PortRef
  | .port ref => .ok ref
  | .tuple [nodeId, number] =>
    ofEntries (.ok [(.str "node_id", nodeId), (.str "port", number)])
  | .tuple items => .error (.notPair items.length)
  | value => ofEntries (Entries.ofValue value)

/-- The spec of the kind that a value names. -/
def Registry.resolve (registry : Registry) (word : Value) :
    Except AuthoringError NodeSpec :=
  match registry.get? word with
  | some spec => .ok spec
  | none => .error (.unknownNodeType word.plainText)

namespace Graph

/-- Appends a node whose id is new. -/
def append (graph : Graph) (node : Node)
    (hnew : node.id ∉ graph.nodes.map Node.id) : Graph :=
  { graph with
    nodes := graph.nodes ++ [node]
    distinct := by
      rw [List.map_append, List.nodup_append]
      refine ⟨graph.distinct, by simp, ?_⟩
      intro id hid other hother
      simp only [List.map_cons, List.map_nil, List.mem_singleton] at hother
      rintro rfl
      exact hnew (hother ▸ hid) }

/-- Changes nodes without changing their ids. -/
def mapNodes (graph : Graph) (change : Node → Node)
    (hid : ∀ node, (change node).id = node.id) : Graph :=
  { graph with
    nodes := graph.nodes.map change
    distinct := by
      have hmap : (graph.nodes.map change).map Node.id =
          graph.nodes.map Node.id := by
        simp [List.map_map, Function.comp_def, hid]
      rw [hmap]
      exact graph.distinct }

/-- Replaces the place of the node with an id. -/
def setPosition (graph : Graph) (nodeId : String)
    (position : Position) : Graph :=
  graph.mapNodes
    (fun node => if node.id = nodeId then { node with position := position }
      else node)
    (by intro node; split <;> rfl)

/-- Replaces the properties of the node with an id. -/
def setProperties (graph : Graph) (nodeId : String)
    (properties : Properties) : Graph :=
  graph.mapNodes
    (fun node => if node.id = nodeId then { node with properties := properties }
      else node)
    (by intro node; split <;> rfl)

def refuse {α : Type} (error : AuthoringError) : Except Refusal α :=
  .error (.authoring error)

/-- The node with an id. -/
def requireNode (graph : Graph)
    (nodeId : String) : Except AuthoringError Node :=
  match graph.getNode? nodeId with
  | some node => .ok node
  | none => .error (.unknownNode nodeId)

/-- The spec of the node with an id. -/
def specFor (graph : Graph) (nodeId : String) :
    Except AuthoringError NodeSpec :=
  match graph.requireNode nodeId with
  | .error error => .error error
  | .ok node => graph.registry.resolve (.str node.kind.word)

/-- Properties of a new node from loose overrides; nothing at all, or an empty
value, leaves the defaults. -/
def newProperties (kind : Kind) (nodeId : String) (overrides : Value) :
    Except Refusal Properties :=
  if overrides.isTruthy then
    match Entries.ofValue overrides with
    | .error error => .error (.notMapping error)
    | .ok entries =>
      match Entries.check (Properties.known kind) (Properties.read kind)
        entries with
      | .accepted properties => .ok properties
      | .rejected issues => refuse (.invalidProperties nodeId (.invalid issues))
  else .ok (.initial kind)

def newPosition (value : Value) : Except Refusal Position :=
  match Position.ofValue value with
  | .ok position => .ok position
  | .error fault => refuse (.invalidPosition (Literal.ofValue value) fault)

/-- Adds a node of a kind under an id that has been chosen. -/
def createNamed (graph : Graph) (kind : Kind) (nodeId : FilledText)
    (position overrides : Value) : Except Refusal (Graph × Node) :=
  if hnew : nodeId.val ∈ graph.nodes.map Node.id then
    refuse (.duplicateNodeId nodeId.val)
  else
    match newProperties kind nodeId.val overrides with
    | .error refusal => .error refusal
    | .ok properties =>
      match newPosition position with
      | .error refusal => .error refusal
      | .ok place =>
        let node := Node.ofId nodeId place properties
        .ok (graph.append node hnew, node)

/-- Adds a node of the named kind.  A new id is used up even when the node is
refused afterwards. -/
def createNode (graph : Graph) (supply : IdSupply)
    (word position overrides : Value) (nodeId : Option String) :
    Except Refusal (Graph × Node) × IdSupply :=
  match graph.registry.resolve word with
  | .error error => (refuse error, supply)
  | .ok spec =>
    let (id, supply) := supply.orTake "node" nodeId
    (graph.createNamed spec.kind id position overrides, supply)

/-- Adds a node that has been built before. -/
def addNode (graph : Graph) (node : Node) : Except AuthoringError Graph :=
  match graph.registry.find? node.kind with
  | none => .error (.unknownNodeType node.kind.word)
  | some _ =>
    if hnew : node.id ∈ graph.nodes.map Node.id then
      .error (.duplicateNodeId node.id)
    else .ok (graph.append node hnew)

/-- Removes a node and the connections that touch it, and answers these. -/
def deleteNode (graph : Graph) (nodeId : String) : Graph × List Connection :=
  match graph.getNode? nodeId with
  | none => (graph, [])
  | some _ =>
    let removed := graph.connections.filter (·.touches nodeId)
    let removedIds := removed.map Connection.id
    ({ graph with
        nodes := graph.nodes.filter (·.id != nodeId)
        connections := graph.connections.filter fun connection =>
          !removedIds.contains connection.id
        distinct := (List.filter_sublist.map Node.id).nodup graph.distinct },
          removed)

/-- Moves a node on the canvas. -/
def moveNode (graph : Graph) (nodeId : String) (position : Value) :
    Except AuthoringError (Graph × Node) :=
  match graph.getNode? nodeId with
  | none => .error (.unknownNode nodeId)
  | some node =>
    match Position.ofValue position with
    | .error fault => .error (.invalidPosition (Literal.ofValue position) fault)
    | .ok place =>
      .ok (graph.setPosition nodeId place, { node with position := place })

/-- Names that a change cannot have. -/
def takenNames : List String := ["self", "node_id"]

/-- Changes properties of a node under names that are not taken. -/
def changeProperties (graph : Graph) (nodeId : String)
    (changes : List (String × Value)) : Except AuthoringError (Graph × Node) :=
  match graph.getNode? nodeId with
  | none => .error (.unknownNode nodeId)
  | some node =>
    match node.properties.update changes with
    | .ok properties =>
      .ok (graph.setProperties nodeId properties,
        { node with properties := properties })
    | .error error => .error (.invalidProperties nodeId error)

/-- Changes some properties of a node.  A change under a taken name is met
before the node is looked up. -/
def updateProperties (graph : Graph) (nodeId : String)
    (changes : List (String × Value)) : Except Refusal (Graph × Node) :=
  match changes.find? fun change => takenNames.contains change.1 with
  | some change => .error (.takenName change.1)
  | none => (graph.changeProperties nodeId changes).mapError .authoring

/-- An end of a connection has to name a port that its node has. -/
def checkPort (graph : Graph) (ref : PortRef) (direction : Direction) :
    Except AuthoringError Unit :=
  match graph.getNode? ref.nodeId with
  | none => .error (.missingPortNode ref.nodeId ref.port direction)
  | some node =>
    if portInRange ref.port (direction.count graph.registry node.kind) then
      .ok ()
    else .error (.invalidPort ref.nodeId ref.port direction)

/-- Connects two ports that have been read, under the next id. -/
def connectPorts (graph : Graph) (supply : IdSupply) (source target : PortRef) :
    Except AuthoringError (Graph × Connection) × IdSupply :=
  match graph.checkPort source .output, graph.checkPort target .input with
  | .error error, _ => (.error error, supply)
  | _, .error error => (.error error, supply)
  | .ok _, .ok _ =>
    match graph.inputBinding? target.nodeId target.port with
    | some bound =>
      (.error (.portAlreadyBound target.nodeId target.port bound.id), supply)
    | none =>
      let (id, supply) := supply.take "conn"
      let connection := Connection.ofId id source target
      (.ok ({ graph with connections := graph.connections ++ [connection] },
        connection), supply)

/-- Connects an output port to an input port that is still free. -/
def connect (graph : Graph) (supply : IdSupply) (source target : Value) :
    Except Refusal (Graph × Connection) × IdSupply :=
  match PortRef.ofValue source, PortRef.ofValue target with
  | .error refusal, _ => (.error refusal, supply)
  | _, .error refusal => (.error refusal, supply)
  | .ok source, .ok target =>
    let (result, supply) := graph.connectPorts supply source target
    (result.mapError .authoring, supply)

/-- Appends a connection as it is; only its id has to be new. -/
def addConnection (graph : Graph)
    (connection : Connection) : Except AuthoringError Graph :=
  if graph.connections.any (·.id == connection.id) then
    .error (.duplicateConnectionId connection.id)
  else .ok { graph with connections := graph.connections ++ [connection] }

/-- Removes the connection with an id, and answers whether there was one. -/
def disconnect (graph : Graph) (connectionId : String) : Graph × Bool :=
  ({ graph with
    connections := graph.connections.filter (·.id != connectionId) },
    graph.connections.any (·.id == connectionId))

end Graph

end StoryGraph
