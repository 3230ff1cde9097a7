import StoryGraph.Json.Writer
import StoryGraph.Node.Properties
import StoryGraph.Timestamp
import StoryGraph.Value.Comparison

/-!
# Compiled graphs

A compiled graph is what the runtime executes: for each node its kind, its
data and the nodes that follow each output port, together with the triggers
where activations may start.

`CompiledGraph`, `CompiledNode`, `CompiledEntrypoint` and
`CompiledGraphMetadata` are embedded here, with `to_document` as `document` and
`canonical_json` as `canonicalText`.
-/

namespace StoryGraph

structure CompiledNode where
  kind : Kind
  data : Table Value
  /-- Following nodes for each output port, in the order of their
  connections. -/
  outputs : List (List String)
  deriving DecidableEq

structure Entrypoint where
  nodeId : String
  triggerType : String
  condition : String
  deriving DecidableEq

structure Metadata where
  compiledAt : Timestamp
  version : String
  warnings : List String
  deriving DecidableEq

structure CompiledGraph where
  id : String
  name : String
  startNode : Option String
  entrypoints : List Entrypoint
  nodes : Table CompiledNode
  metadata : Metadata
  deriving DecidableEq

namespace CompiledNode

/-- The nodes after an output port; a missing port has none. -/
def targets (node : CompiledNode) (port : Int) : List String :=
  if port < 0 then [] else node.outputs[port.toNat]?.getD []

def known : List FieldName := [.plain "type", .plain "data", .plain "outputs"]

def read (fields : List (String × Value)) : Checked CompiledNode :=
  mk <$> FieldName.required (.plain "type") (.word Kind.ofWord?) fields
    <*> FieldName.withDefault (.plain "data") (.table .any) .empty fields
    <*> FieldName.withDefault (.plain "outputs")
      (.tuple (.tuple .text)) [] fields

def check : Check CompiledNode := Check.record known read

def dump (node : CompiledNode) : Value :=
  .dict [("type", .str node.kind.word),
    ("data", .dict (node.data.map Value.toData).entries), ("outputs",
      .list (node.outputs.map fun targets => .list (targets.map Value.str)))]

/-- Whether the data can be written. -/
def isWritable (node : CompiledNode) : Bool :=
  node.data.entries.all fun entry => entry.2.isWritable

/-- Equality as values. -/
def equal (left right : CompiledNode) : Bool :=
  left.kind == right.kind && left.outputs == right.outputs &&
    Value.equal (.dict left.data.entries) (.dict right.data.entries)

end CompiledNode

namespace Entrypoint

def known : List FieldName :=
  [⟨"nodeId", "node_id"⟩, ⟨"triggerType", "trigger_type"⟩, .plain "condition"]

def read (fields : List (String × Value)) : Checked Entrypoint :=
  mk <$> FieldName.required ⟨"nodeId", "node_id"⟩ .text fields
    <*> FieldName.required ⟨"triggerType", "trigger_type"⟩ .text fields
    <*> FieldName.required (.plain "condition") .text fields

def check : Check Entrypoint := Check.record known read

def dump (entry : Entrypoint) : Value :=
  .dict [("nodeId", .str entry.nodeId), ("triggerType", .str entry.triggerType),
    ("condition", .str entry.condition)]

end Entrypoint

namespace Metadata

def known : List FieldName :=
  [⟨"compiledAt", "compiled_at"⟩, .plain "version", .plain "warnings"]

def read (fields : List (String × Value)) : Checked Metadata :=
  mk <$> FieldName.required ⟨"compiledAt", "compiled_at"⟩ Timestamp.check fields
    <*> FieldName.required (.plain "version") .text fields
    <*> FieldName.withDefault (.plain "warnings") (.tuple .text) [] fields

def check : Check Metadata := Check.record known read

/-- The fields, with or without the time of compilation. -/
def dump (withTime : Bool) (metadata : Metadata) : Value :=
  let rest := [("version", .str metadata.version),
    ("warnings", .list (metadata.warnings.map Value.str))]
  .dict (if withTime then
    ("compiledAt", .str metadata.compiledAt.toText) :: rest else rest)

end Metadata

namespace CompiledGraph

/-- The first entrypoint at a node. -/
def entrypoint? (compiled : CompiledGraph)
    (nodeId : String) : Option Entrypoint :=
  compiled.entrypoints.find? (·.nodeId == nodeId)

/-- The entrypoints for a type of trigger. -/
def entrypointsFor (compiled : CompiledGraph)
    (triggerType : String) : List Entrypoint :=
  compiled.entrypoints.filter (·.triggerType == triggerType)

def known : List FieldName :=
  [.plain "id", .plain "name", ⟨"startNode", "start_node"⟩,
    .plain "entrypoints", .plain "nodes", .plain "metadata"]

def read (fields : List (String × Value)) : Checked CompiledGraph :=
  mk <$> FieldName.required (.plain "id") .text fields
    <*> FieldName.withDefault (.plain "name") .text "" fields
    <*> FieldName.withDefault ⟨"startNode", "start_node"⟩
      .optionalText none fields
    <*> FieldName.withDefault (.plain "entrypoints")
      (.tuple Entrypoint.check) [] fields
    <*> FieldName.withDefault (.plain "nodes") (.table CompiledNode.check)
      .empty fields
    <*> FieldName.required (.plain "metadata") Metadata.check fields

def check : Check CompiledGraph := Check.record known read

def documentWith (withTime : Bool) (compiled : CompiledGraph) : Value :=
  .dict [("id", .str compiled.id), ("name", .str compiled.name),
    ("startNode", (compiled.startNode.map Value.str).getD .null),
    ("entrypoints", .list (compiled.entrypoints.map Entrypoint.dump)),
    ("nodes", .dict (compiled.nodes.map CompiledNode.dump).entries),
    ("metadata", compiled.metadata.dump withTime)]

/-- Whether the data of all nodes can be written. -/
def isWritable (compiled : CompiledGraph) : Bool :=
  compiled.nodes.entries.all fun entry => entry.2.isWritable

/-- The compiled graph as a document. -/
def document (compiled : CompiledGraph) : Except WriteError Value :=
  if compiled.isWritable then .ok (compiled.documentWith true)
  else .error .tooDeep

/-- A text that is equal for equal compiled graphs.  Leaving the time out makes
it equal for every compilation of the same content. -/
def canonicalText (compiled : CompiledGraph)
    (withTime : Bool) : Except WriteError String :=
  if compiled.isWritable then
    .ok (Json.write .canonical (Json.sortKeys (compiled.documentWith withTime)))
  else .error .tooDeep

/-- The text under which a compiled graph is stored. -/
def storedText (compiled : CompiledGraph) : Except WriteError String :=
  if compiled.isWritable then
    .ok (Json.write .stored (compiled.documentWith true))
  else .error .storedTooDeep

/-- Equality as values: of nodes in any order, with the data of each node
compared by what they denote. -/
def equal (left right : CompiledGraph) : Bool :=
  left.id == right.id && left.name == right.name &&
    left.startNode == right.startNode &&
    left.entrypoints == right.entrypoints && left.metadata == right.metadata &&
    left.nodes.size == right.nodes.size &&
    left.nodes.entries.all fun entry =>
      (right.nodes.find? entry.1).any fun node => entry.2.equal node

end CompiledGraph

end StoryGraph
