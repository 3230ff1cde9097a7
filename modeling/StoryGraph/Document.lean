import StoryGraph.Compiled
import StoryGraph.Condition
import StoryGraph.Graph.Canonical
import StoryGraph.Json.Encoding
import StoryGraph.Settings
import StoryGraph.Version.Specifier

/-!
# Documents

Graphs and compiled graphs as texts.  A graph document lists its nodes with
their ids, its connections, and the variables and flags of a context.  Nodes
are written together with the ids of the connections at their ports; these
are derived, and reading ignores them.  A document is read as a whole or not
at all.

This embeds `PersistenceCodec` and its `GraphDocument`: `encodeGraph`,
`decodeGraph`, `decodeCompiled` and, in `CompiledGraph.storedText`, its
`encode_compiled`.  A source is either the text or the bytes that `_load_json`
is given.
-/

namespace StoryGraph

/-- Why a document is refused.  The errors without a code are no persistence
errors: they come from what a document is read with, and nothing turns them into
one. -/
inductive DocumentError where
  | malformed (reason : String)
  /-- An integer or a number of the version has too many digits, or a number of
  the supported versions has. -/
  | numeral (fault : Numeral.Fault)
  /-- A text in the document is none of ours: what becomes of it is left
  open. -/
  | loneSurrogate
  | notObject (kind : String)
  | unsupportedDocument (version supported : String)
  | unsupportedCompiled (version supported : String)
  /-- Nothing can be said about the version, not even in a message. -/
  | undecidedVersion
  | invalid (issues : List Issue)
  | otherId (entryId nodeId : String)
  | refused (error : AuthoringError)
  deriving DecidableEq

namespace DocumentError

def code : DocumentError → String
  | malformed _ => "MALFORMED_JSON"
  | unsupportedDocument .. | unsupportedCompiled .. => "UNSUPPORTED_VERSION"
  | notObject _ | invalid _ | otherId .. | refused _ => "INVALID_DOCUMENT"
  | numeral _ | loneSurrogate | undecidedVersion => ""

def message : DocumentError → String
  | malformed reason => reason
  | numeral fault => fault.message
  | loneSurrogate => ""
  | notObject kind => "Expected a JSON object, got " ++ kind ++ "."
  | unsupportedDocument version supported =>
    "Document version '" ++ version ++ "' does not satisfy '" ++
      supported ++ "'."
  | unsupportedCompiled version supported =>
    "Compiled version '" ++ version ++ "' does not satisfy '" ++
      supported ++ "'."
  | undecidedVersion => ""
  | invalid _ => issuesMark
  | otherId entryId nodeId =>
    "Node entry '" ++ entryId ++ "' carries id '" ++ nodeId ++ "'."
  | refused error => error.message

/-- The message with its code in front, if there is one. -/
def text (error : DocumentError) : String :=
  if error.code = "" then error.message else error.code ++ ": " ++ error.message

end DocumentError

/-- A graph document whose nodes are not checked yet. -/
structure GraphDocument where
  version : String
  id : FilledText
  name : String
  nodes : List (String × Table Value)
  connections : List Connection
  values : List (String × Value)
  flags : List (String × Bool)
  deriving DecidableEq

namespace GraphDocument

def known : List FieldName :=
  [.plain "version", .plain "id", .plain "name", .plain "nodes",
    .plain "connections", .plain "variables", .plain "flags"]

def read (fields : List (String × Value)) : Checked GraphDocument :=
  mk <$> FieldName.withDefault (.plain "version") .text "1.0" fields
    <*> FieldName.required (.plain "id") .filled fields
    <*> FieldName.withDefault (.plain "name") .text "" fields
    <*> FieldName.withDefault (.plain "nodes")
      (.list (.pair .text (.table .any))) [] fields
    <*> FieldName.withDefault (.plain "connections")
      (.list Connection.check) [] fields
    <*> FieldName.withDefault (.plain "variables")
      (.list (.pair .text .any)) [] fields
    <*> FieldName.withDefault (.plain "flags")
      (.list (.pair .text .boolean)) [] fields

def check : Check GraphDocument := Check.record known read

/-- Keys of a node that are derived from the connections. -/
def derivedKeys : List String := ["inputs", "outputs"]

/-- The object of a node entry: without derived keys, and with the id of the
entry unless it has its own. -/
def nodeFields (entryId : String)
    (fields : List (String × Value)) : List (String × Value) :=
  let payload := fields.filter fun field => !derivedKeys.contains field.1
  if (payload.lookup "id").isSome then payload
  else payload ++ [("id", .str entryId)]

def readNode (entryId : String)
    (fields : List (String × Value)) : Except DocumentError Node :=
  match Node.check (.dict (nodeFields entryId fields)) with
  | .rejected issues => .error (.invalid issues)
  | .accepted node =>
    if node.id = entryId then .ok node else .error (.otherId entryId node.id)

/-- The nodes of all entries; the first bad entry is the error. -/
def readNodes : List (String × Table Value) → Except DocumentError (List Node)
  | [] => .ok []
  | (entryId, fields) :: rest =>
    match readNode entryId fields.entries with
    | .error error => .error error
    | .ok node => (readNodes rest).map (node :: ·)

def addNodes (graph : Graph) : List Node → Except AuthoringError Graph
  | [] => .ok graph
  | node :: rest =>
    match graph.addNode node with
    | .error error => .error error
    | .ok graph => addNodes graph rest

/-- The graph of a document. -/
def toGraph (document : GraphDocument)
    (registry : Registry) : Except DocumentError Graph :=
  match readNodes document.nodes with
  | .error error => .error error
  | .ok nodes =>
    let start :=
      Graph.empty document.id.val document.name registry document.id.property
    match addNodes start nodes with
    | .error error => .error (.refused error)
    | .ok graph => (graph.addConnections document.connections).mapError .refused

/-- The context of a document; a repeated name has its last value. -/
def toContext (document : GraphDocument) : Context :=
  ⟨Table.ofList document.values, Table.ofList document.flags, .empty⟩

end GraphDocument

/-- What a failure to read a source is reported as. -/
def DocumentError.ofRead : Json.ReadError → DocumentError
  | .malformed reason => .malformed reason
  | .oversizedInteger digits => .numeral (.oversized digits)
  | .loneSurrogate => .loneSurrogate

/-- Reads a source that has to hold an object. -/
def readObject (source : Json.Source) :
    Except DocumentError (List (String × Value)) :=
  match source.read with
  | .error error => .error (.ofRead error)
  | .ok (.dict fields) => .ok fields
  | .ok value => .error (.notObject value.kindWord)

/-- The version that a document claims; without one it is the first. -/
def claimedVersion (fields : List (String × Value)) : String :=
  ((fields.lookup "version").map Value.plainText).getD "1.0"

/-- Reads a graph document. -/
def decodeGraph (settings : Settings) (registry : Registry)
    (source : Json.Source) : Except DocumentError (Graph × Context) :=
  match readObject source with
  | .error error => .error error
  | .ok fields =>
    let version := claimedVersion fields
    match supportOf version settings.supportedDocumentVersions with
    | .undecided => .error .undecidedVersion
    | .faulty fault => .error (.numeral fault)
    | .unsatisfied =>
      .error (.unsupportedDocument version settings.supportedDocumentVersions)
    | .satisfied =>
      match GraphDocument.check (.dict fields) with
      | .rejected issues => .error (.invalid issues)
      | .accepted document =>
        (document.toGraph registry).map fun graph => (graph, document.toContext)

/-- A node with the ids of the connections at its ports. -/
def nodeObject (graph : Graph) (node : Node) : Value :=
  let inputs := (graph.inputSlots node).map fun slot =>
    match slot with
    | some connection => Value.str connection.id
    | none => .null
  let outputs := (graph.outputSlots node).map fun slot =>
    Value.list (slot.map fun connection => .str connection.id)
  .dict (node.dump ++ [("inputs", .list inputs), ("outputs", .list outputs)])

/-- A table as pairs in the order of the names. -/
def sortedPairs (entries : List (String × Value)) : Value :=
  .list ((entries.mergeSort (·.1 ≤ ·.1)).map fun entry =>
    .list [.str entry.1, entry.2])

/-- The document of a graph and a context. -/
def graphDocument (version : String) (graph : Graph)
    (context : Context) : Value :=
  .dict [("version", .str version), ("id", .str graph.id),
    ("name", .str graph.name),
    ("nodes", .list (graph.canonicalNodes.map fun node =>
      .list [.str node.id, nodeObject graph node])),
    ("connections",
      .list (graph.connections.map fun connection => .dict connection.dump)),
    ("variables", sortedPairs context.values.entries),
    ("flags", sortedPairs (context.flags.map Value.bool).entries)]

/-- Writes a graph document.  What the variables hold may be nested to any
depth, but it may not be a location. -/
def encodeGraph (settings : Settings) (graph : Graph) (context : Context) :
    Except WriteError String :=
  match graph.written
    (graphDocument settings.documentVersion graph context) with
  | .error error => .error error
  | .ok document =>
    match document.locationKind? with
    | some kind => .error (.location kind)
    | none => .ok (Json.write .document document)

/-- Keys under which an object spells out that there is no number. -/
def ownNumbers (keys : List String) (object : Value) : List String :=
  keys.filter fun key =>
    match object with
    | .dict fields =>
      match fields.lookup key with
      | some (.str text) => Numeral.realNumber? text == some .nan
      | _ => false
    | _ => false

/-- Fields of a node's object that hold a number of their own. -/
def ownFields (object : Value) : List String :=
  match object with
  | .dict fields =>
    let properties :=
      ownNumbers ["x", "y", "z"] ((fields.lookup "properties").getD .null)
    let position :=
      ownNumbers ["x", "y"] ((fields.lookup "position").getD .null)
    if position.isEmpty then properties else "position" :: properties
  | _ => []

/-- What is no number equals nothing but itself.  A document has one such value
for all places, except that a place where it is spelled as a text has its own.
These are the places, each a node's id and a field. -/
def ownPlaces (source : Json.Source) : List (String × String) :=
  match readObject source with
  | .ok fields =>
    match fields.lookup "nodes" with
    | some (.list entries) => entries.flatMap fun entry =>
      match entry with
      | .list [.str id, object] => (ownFields object).map fun key => (id, key)
      | _ => []
    | _ => []
  | .error _ => []

/-- The version that the metadata of a compiled graph claims, or nothing. -/
def claimedCompiledVersion (fields : List (String × Value)) : String :=
  match fields.lookup "metadata" with
  | some (.dict metadata) =>
    ((metadata.lookup "version").map Value.plainText).getD ""
  | _ => ""

/-- Reads a stored compiled graph. -/
def decodeCompiled (settings : Settings) (source : Json.Source) :
    Except DocumentError CompiledGraph :=
  match readObject source with
  | .error error => .error error
  | .ok fields =>
    let version := claimedCompiledVersion fields
    match supportOf version settings.supportedCompiledVersions with
    | .undecided => .error .undecidedVersion
    | .faulty fault => .error (.numeral fault)
    | .unsatisfied =>
      .error (.unsupportedCompiled version settings.supportedCompiledVersions)
    | .satisfied =>
      match CompiledGraph.check (.dict fields) with
      | .rejected issues => .error (.invalid issues)
      | .accepted compiled => .ok compiled

end StoryGraph
