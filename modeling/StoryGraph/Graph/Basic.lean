import StoryGraph.Node.Basic
import StoryGraph.Registry

/-!
# Authoring graphs

A graph owns its nodes, in the order in which they were added, and its
connections, in the order in which they were made.  Node ids are distinct;
everything else that a sound graph needs is left to validation, since graphs
that are being edited or were imported may be unsound.

A `Graph` is the state of an `EventGraph`, with what its reading methods answer.
-/

namespace StoryGraph

structure Graph where
  id : String
  name : String
  registry : Registry
  nodes : List Node
  connections : List Connection
  named : id ≠ ""
  distinct : (nodes.map Node.id).Nodup

namespace Graph

/-- A graph without nodes. -/
def empty (id name : String) (registry : Registry) (named : id ≠ "") : Graph :=
  ⟨id, name, registry, [], [], named, List.nodup_nil⟩

/-- Whether documents can hold the nodes. -/
def isWritable (graph : Graph) : Bool := graph.nodes.all Node.isWritable

/-- Something that is written from the nodes, unless that cannot be done. -/
def written {α : Type} (graph : Graph) (result : α) : Except WriteError α :=
  if graph.isWritable then .ok result else .error .tooDeep

def getNode? (graph : Graph) (nodeId : String) : Option Node :=
  graph.nodes.find? (·.id == nodeId)

def incoming (graph : Graph) (nodeId : String) : List Connection :=
  graph.connections.filter (·.target.nodeId == nodeId)

def outgoing (graph : Graph) (nodeId : String) : List Connection :=
  graph.connections.filter (·.source.nodeId == nodeId)

/-- The connection that is bound to an input port: the earliest one. -/
def inputBinding? (graph : Graph) (nodeId : String)
    (port : Int) : Option Connection :=
  graph.connections.find? fun connection =>
    connection.target.nodeId == nodeId && connection.target.port == port

/-- One binding, if any, for each input port of a node. -/
def inputSlots (graph : Graph) (node : Node) : List (Option Connection) :=
  (List.range (graph.registry.inputs node.kind)).map fun (port : Nat) =>
    (graph.incoming node.id).find? (·.target.port == (port : Int))

/-- The connections that leave each output port of a node. -/
def outputSlots (graph : Graph) (node : Node) : List (List Connection) :=
  (List.range (graph.registry.outputs node.kind)).map fun (port : Nat) =>
    (graph.outgoing node.id).filter (·.source.port == (port : Int))

/-- Whether a port number is one of the first `count`. -/
def portInRange (port : Int) (count : Nat) : Bool :=
  0 ≤ port && port < (count : Int)

end Graph

/-- The two ends of a connection. -/
inductive Direction where
  | output
  | input
  deriving DecidableEq

namespace Direction

def word : Direction → String
  | output => "output"
  | input => "input"

/-- The end of a connection on a side. -/
def endOf : Direction → Connection → PortRef
  | output, connection => connection.source
  | input, connection => connection.target

/-- Number of ports that a kind has on a side. -/
def count : Direction → Registry → Kind → Nat
  | output, registry, kind => registry.outputs kind
  | input, registry, kind => registry.inputs kind

end Direction

end StoryGraph
