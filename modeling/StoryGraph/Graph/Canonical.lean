import StoryGraph.Graph.Authoring

/-!
# Canonical order

The canonical form of a graph has its nodes in the order of their ids and its
connections grouped by the output port that they leave.  Connections of the
same port keep their order, since the first of them is the one that is
followed.  The signature is what remains when places and connection ids are
left out; it can be written only when the nodes can.

This embeds `canonical_nodes`, `canonical_connections`, `canonicalize_graph` and
`graph_signature`.
-/

namespace StoryGraph

namespace Graph

def nodeOrder (left right : Node) : Bool := left.id ≤ right.id

/-- Order by source node, then by source port. -/
def portOrder (left right : Connection) : Bool :=
  if left.source.nodeId = right.source.nodeId then
    left.source.port ≤ right.source.port
  else left.source.nodeId ≤ right.source.nodeId

def canonicalNodes (graph : Graph) : List Node :=
  graph.nodes.mergeSort nodeOrder

def canonicalConnections (graph : Graph) : List Connection :=
  graph.connections.mergeSort portOrder

/-- Appends connections one by one, so that a repeated id is refused. -/
def addConnections (graph : Graph) :
    List Connection → Except AuthoringError Graph
  | [] => .ok graph
  | connection :: rest =>
    match graph.addConnection connection with
    | .ok graph => graph.addConnections rest
    | .error error => .error error

/-- The same graph in canonical order, still without connections. -/
def canonicalShell (graph : Graph) : Graph :=
  { graph with
    nodes := graph.canonicalNodes
    connections := []
    distinct :=
      ((List.mergeSort_perm graph.nodes nodeOrder).map Node.id).nodup_iff.mpr
        graph.distinct }

/-- The canonical form.  It is refused when two connections share an id. -/
def canonicalize (graph : Graph) : Except AuthoringError Graph :=
  graph.canonicalShell.addConnections graph.canonicalConnections

def nodeSignature (node : Node) : Value :=
  .dict [("id", .str node.id), ("type", .str node.kind.word),
    ("properties", .dict node.properties.dump)]

def connectionSignature (connection : Connection) : Value :=
  .list [.str connection.source.nodeId, .int connection.source.port,
    .str connection.target.nodeId, .int connection.target.port]

/-- The content of a graph as one value. -/
def signature (graph : Graph) : Value :=
  .dict [("id", .str graph.id), ("name", .str graph.name),
    ("nodes", .list (graph.canonicalNodes.map nodeSignature)),
    ("connections", .list (graph.canonicalConnections.map connectionSignature))]

/-- Equality of nodes as values.  A number that is none equals nothing but
itself, so it only counts as equal in a field that `kept` tells: by the node's
id and its own name, one that neither node has been given anew. -/
def equalNodes (kept : String → String → Bool) (left right : Node) : Bool :=
  left.id == right.id && left.kind == right.kind &&
    left.properties.dump.isEqv right.properties.dump fun leftField rightField =>
      leftField.1 == rightField.1 && (leftField.2.equal rightField.2 ||
        (kept left.id leftField.1 && leftField.2 == rightField.2))

/-- Equality of signatures as values, where `kept` tells the fields that both
graphs have from the same origin. -/
def equalContent (kept : String → String → Bool) (left right : Graph) : Bool :=
  left.id == right.id && left.name == right.name &&
    left.canonicalNodes.isEqv right.canonicalNodes (equalNodes kept) &&
    left.canonicalConnections.map connectionSignature ==
      right.canonicalConnections.map connectionSignature

/-- The signature, if the nodes can be written. -/
def writtenSignature (graph : Graph) : Except WriteError Value :=
  graph.written graph.signature

/-- The comparison of signatures, if both can be written. -/
def compareSignatures (kept : String → String → Bool) (left right : Graph) :
    Except WriteError Bool :=
  left.written () *> right.written (equalContent kept left right)

/-- The same content at the same places, with the same connections; only the
order of the nodes may differ. -/
def sameContent (left right : Graph) : Bool :=
  left.signature == right.signature && left.connections == right.connections &&
    left.canonicalNodes.map (·.position.dump) ==
      right.canonicalNodes.map (·.position.dump)

end Graph

end StoryGraph
