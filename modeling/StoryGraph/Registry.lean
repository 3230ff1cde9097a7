import StoryGraph.Node.Kind
import StoryGraph.Value.Literal

/-!
# Registries of node kinds

A registry declares how many input and output ports the nodes of a kind have
and how the output ports are labelled.

This embeds `NodeTypeRegistry` and `NodeTypeSpec`.
-/

namespace StoryGraph

structure NodeSpec where
  kind : Kind
  inputs : Nat
  outputs : Nat
  labels : List String
  deriving DecidableEq

namespace NodeSpec

/-- The label of an output port, or its number when there is none.  A negative
number counts from the last label, and `none` is beyond the first one. -/
def outputLabel? (spec : NodeSpec) (port : Int) : Option String :=
  if 0 ≤ port then some (spec.labels[port.toNat]?.getD (toString port))
  else
    let position := port + spec.labels.length
    if position < 0 then none else spec.labels[position.toNat]?

end NodeSpec

/-- Specs in the order in which their kinds were first registered. -/
structure Registry where
  specs : List NodeSpec
  deriving DecidableEq

inductive RegisterError where
  | alreadyRegistered (kind : Kind)
  | negativePorts (kind : Kind)
  deriving DecidableEq

def RegisterError.message : RegisterError → String
  | alreadyRegistered kind =>
    "Node type '" ++ kind.word ++
      "' already registered. Use override=True to replace."
  | negativePorts kind =>
    "Node type '" ++ kind.word ++ "' declares a negative port count."

namespace Registry

def empty : Registry := ⟨[]⟩

def find? (registry : Registry) (kind : Kind) : Option NodeSpec :=
  registry.specs.find? (·.kind == kind)

/-- The spec of the kind that a value names. -/
def get? (registry : Registry) : Value → Option NodeSpec
  | .str word => (Kind.ofWord? word).bind registry.find?
  | _ => none

def kinds (registry : Registry) : List Kind := registry.specs.map NodeSpec.kind

/-- Number of input ports of a kind; an unregistered one has none. -/
def inputs (registry : Registry) (kind : Kind) : Nat :=
  ((registry.find? kind).map NodeSpec.inputs).getD 0

/-- Number of output ports of a kind; an unregistered one has none. -/
def outputs (registry : Registry) (kind : Kind) : Nat :=
  ((registry.find? kind).map NodeSpec.outputs).getD 0

/-- Replaces the spec of the same kind, or appends a new one. -/
def put (spec : NodeSpec) : List NodeSpec → List NodeSpec
  | [] => [spec]
  | first :: rest =>
    if first.kind = spec.kind then spec :: rest else first :: put spec rest

/-- Registers a kind.  A registered kind is only replaced on request. -/
def register (registry : Registry) (kind : Kind) (inputs outputs : Int)
    (labels : List String) (replace : Bool) :
    Except RegisterError (Registry × NodeSpec) :=
  if (registry.find? kind).isSome && !replace then
    .error (.alreadyRegistered kind)
  else if inputs < 0 || outputs < 0 then .error (.negativePorts kind)
  else
    let spec := ⟨kind, inputs.toNat, outputs.toNat, labels⟩
    .ok (⟨put spec registry.specs⟩, spec)

/-- The six kinds with their usual ports. -/
def standard : Registry :=
  ⟨[⟨.trigger, 0, 1, ["next"]⟩,
    ⟨.condition, 1, 2, ["true", "false"]⟩,
    ⟨.action, 1, 1, ["next"]⟩,
    ⟨.dialogue, 1, 1, ["next"]⟩,
    ⟨.encounter, 1, 2, ["resolved", "battle"]⟩,
    ⟨.teleport, 1, 1, ["next"]⟩]⟩

end Registry

end StoryGraph
