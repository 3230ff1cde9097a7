import StoryGraph.Node.Properties

/-!
# Nodes and connections

A node has an id, a place on the canvas and the properties of its kind.  A
connection leads from an output port of one node to an input port of another.

`Node` embeds `EventNodeBase` with its six subclasses, and `Node.check` is
`parse_event_node`.
-/

namespace StoryGraph

namespace Position

def known : List FieldName := [.plain "x", .plain "y"]

def read (fields : List (String × Value)) : Checked Position :=
  mk <$> FieldName.withDefault (.plain "x") .coordinate none fields
    <*> FieldName.withDefault (.plain "y") .coordinate none fields

/-- A position that has been checked, or an object of its coordinates. -/
def check : Check Position
  | .position place => .accepted place
  | value => Check.record known read value

end Position

structure Node where
  id : String
  position : Position
  properties : Properties
  named : id ≠ ""
  deriving DecidableEq

namespace Node

def ofId (id : FilledText) (position : Position)
    (properties : Properties) : Node :=
  ⟨id.val, position, properties, id.property⟩

def kind (node : Node) : Kind := node.properties.kind

def known : List FieldName :=
  [.plain "id", .plain "position", .plain "type", .plain "properties"]

/-- The known fields of an object whose type is given, as a node. -/
def read (kind : Kind) (fields : List (String × Value)) : Checked Node :=
  ofId <$> FieldName.required (.plain "id") .filled fields
    <*> FieldName.withDefault (.plain "position") Position.check .origin fields
    <*> FieldName.withDefault (.plain "properties") (Properties.check kind)
      (.initial kind) fields

/-- An object as a node.  Its type decides which properties it has, and its
issues are reported under the type. -/
def check : Check Node
  | .dict fields =>
    match fields.lookup "type" with
    | none => .fail .unionTagNotFound
    | some (.str word) =>
      match Kind.ofWord? word with
      | some kind =>
        (Check.record known (read kind) (.dict fields)).under (.key word)
      | none => .fail .unionTagInvalid
    | some _ => .fail .unionTagInvalid
  | .position _ | .port _ => .fail .unionTagNotFound
  | _ => .fail .modelAttributesType

/-- The node as documents hold it. -/
def dump (node : Node) : List (String × Value) :=
  [("id", .str node.id), ("position", .dict node.position.dump),
    ("type", .str node.kind.word), ("properties", .dict node.properties.dump)]

/-- Whether documents can hold the node. -/
def isWritable (node : Node) : Bool := node.properties.isWritable

/-- Something that is written from the node, unless that cannot be done. -/
def written {α : Type} (node : Node) (result : α) : Except WriteError α :=
  if node.isWritable then .ok result else .error .tooDeep

end Node

namespace PortRef

def known : List FieldName := [⟨"nodeId", "node_id"⟩, .plain "port"]

def read (fields : List (String × Value)) : Checked PortRef :=
  (fun nodeId port => ⟨nodeId.val, port, nodeId.property⟩)
    <$> FieldName.required ⟨"nodeId", "node_id"⟩ .filled fields
    <*> FieldName.required (.plain "port") .integer fields

/-- A port that has been checked, or an object of its parts. -/
def check : Check PortRef
  | .port ref => .accepted ref
  | value => Check.record known read value

end PortRef

structure Connection where
  id : String
  source : PortRef
  target : PortRef
  named : id ≠ ""
  deriving DecidableEq

namespace Connection

def ofId (id : FilledText) (source target : PortRef) : Connection :=
  ⟨id.val, source, target, id.property⟩

def isSelfLoop (connection : Connection) : Bool :=
  connection.source.nodeId == connection.target.nodeId

def touches (connection : Connection) (nodeId : String) : Bool :=
  connection.source.nodeId == nodeId || connection.target.nodeId == nodeId

def known : List FieldName :=
  [.plain "id", ⟨"from", "source"⟩, ⟨"to", "target"⟩]

def read (fields : List (String × Value)) : Checked Connection :=
  ofId <$> FieldName.required (.plain "id") .filled fields
    <*> FieldName.required ⟨"from", "source"⟩ PortRef.check fields
    <*> FieldName.required ⟨"to", "target"⟩ PortRef.check fields

def check : Check Connection := Check.record known read

def dump (connection : Connection) : List (String × Value) :=
  [("id", .str connection.id), ("from", .dict connection.source.dump),
    ("to", .dict connection.target.dump)]

end Connection

end StoryGraph
