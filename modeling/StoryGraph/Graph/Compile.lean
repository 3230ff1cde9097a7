import StoryGraph.Compiled
import StoryGraph.Graph.Canonical
import StoryGraph.Graph.Validation

/-!
# Compilation

A graph without blocking findings is flattened: its nodes in canonical order,
each with the targets of its output ports, and its triggers as entrypoints.
In single-entry mode only the first trigger remains one.

This embeds `GraphCompiler`; the time that its clock shows is an argument.
-/

namespace StoryGraph

inductive CompileError where
  | invalid (findings : List Finding)
  | authoring (error : AuthoringError)
  | unwritable (error : WriteError)
  deriving DecidableEq

namespace Graph

/-- What the runtime needs to know about a node. -/
def compileNode (graph : Graph) (node : Node) : CompiledNode :=
  ⟨node.kind, Table.ofList node.properties.dump,
    (graph.outputSlots node).map fun slot => slot.map (·.target.nodeId)⟩

/-- A trigger as an entrypoint. -/
def entrypointOf? (node : Node) : Option Entrypoint :=
  match node.properties with
  | .trigger properties =>
    some ⟨node.id, properties.triggerType.val, properties.condition⟩
  | _ => none

/-- The entrypoints of nodes, or only the first of them. -/
def entrypointsOf (singleEntry : Bool) (nodes : List Node) : List Entrypoint :=
  let entrypoints := nodes.filterMap entrypointOf?
  if singleEntry then entrypoints.take 1 else entrypoints

def warningTexts (findings : List Finding) : List String :=
  (findings.map Finding.warningText).mergeSort (· ≤ ·)

/-- A graph in canonical order as a compiled graph. -/
def flatten (graph : Graph) (singleEntry : Bool)
    (metadata : Metadata) : CompiledGraph :=
  let entrypoints := entrypointsOf singleEntry graph.nodes
  ⟨graph.id, graph.name, entrypoints.head?.map Entrypoint.nodeId, entrypoints,
    Table.ofList (graph.nodes.map fun node =>
      (node.id, graph.compileNode node)), metadata⟩

/-- Compiles a graph that has no blocking findings and whose nodes can be
written. -/
def compile (graph : Graph) (version : String) (singleEntry : Bool)
    (time : Timestamp) : Except CompileError CompiledGraph :=
  match graph.ensureValid singleEntry with
  | .error findings => .error (.invalid findings)
  | .ok findings =>
    match graph.canonicalize with
    | .error error => .error (.authoring error)
    | .ok canonical =>
      (canonical.written
        (canonical.flatten singleEntry
          ⟨time, version, warningTexts findings⟩)).mapError .unwritable

end Graph

end StoryGraph
