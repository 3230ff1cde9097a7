import StoryGraph.Play.Activation

/-!
# Visits

What happens when an activation visits a node.  A visit chooses an output port,
ends the activation, calls the host, or fails; the four actions on the context
change it on the way.  A visit that fails leaves the context as it was.

A visit is `GraphRuntime._execute` up to where the host is called, with
`_apply_context_action` as `change`.
-/

namespace StoryGraph

/-- How an activation goes on after the visit of a node. -/
inductive Move where
  | follow (port : Nat)
  | stop
  | call (call : Call)
  deriving DecidableEq

namespace ActionProperties

/-- The amount of an increment: the value, or one when it is null or empty.
Texts have to be numerals, and truth values are no amounts. -/
def amount? (properties : ActionProperties) : Option Value :=
  match properties.value with
  | .null => some (.int 1)
  | .int number => some (.int number)
  | .float number => some (.float number)
  | .str text =>
    if text = "" then some (.int 1)
    else (Number.ofText? text).map Number.toValue
  | _ => none

/-- Words that set a flag to false. -/
def denials : List String := ["false", "no", "off", "0"]

/-- Whether a flag is set to true: always for null, never for a word of
denial, and otherwise when the value counts as true or is a text. -/
def flagTruth (properties : ActionProperties) : Bool :=
  match properties.value with
  | .null => true
  | .str text => !denials.contains (Text.lowerLatin (Text.trim text))
  | value => value.isTruthy

/-- The context after an action on it. -/
def change (properties : ActionProperties) (action : ContextAction)
    (context : Context) : Except Failure Context :=
  if properties.target = "" then .error (.needsTarget action)
  else
    match action with
    | .setVariable =>
      .ok (context.setVariable properties.target properties.value)
    | .incrementVariable =>
      match properties.amount? with
      | none =>
        if properties.value.isSpellable then
          .error (.amountNotNumeric properties.value)
        else .error .unspellableAmount
      | some amount =>
        match context.increment properties.target amount with
        | .ok (changed, _) => .ok changed
        | .error error => .error (.increment error)
    | .setFlag => .ok (context.setFlag properties.target properties.flagTruth)
    | .clearFlag => .ok (context.clearFlag properties.target)

end ActionProperties

namespace Properties

/-- The visit of a node with the given properties. -/
def visit (properties : Properties) (context : Context) :
    Except Failure (Move × Context) :=
  match properties with
  | .trigger properties =>
    match Trigger.evaluate properties.condition context with
    | .ok passed => .ok (if passed then .follow 0 else .stop, context)
    | .error error => .error (.condition error)
  | .condition properties =>
    match Condition.evaluate properties.conditionType properties.operator
      properties.value properties.key context with
    | .ok passed => .ok (.follow (if passed then 0 else 1), context)
    | .error error => .error (.condition error)
  | .action properties =>
    match ActionKind.ofWord? properties.actionType with
    | none => .error (.unknownAction properties.actionType)
    | some (.onContext change) =>
      (properties.change change context).map fun changed => (.follow 0, changed)
    | some (.delegated request) =>
      .ok (.call (.performAction request properties.target properties.value),
        context)
  | .dialogue properties => .ok (.call (.presentDialogue properties), context)
  | .encounter properties => .ok (.call (.resolveEncounter properties), context)
  | .teleport properties => .ok (.call (.performTeleport properties), context)

end Properties

namespace CompiledNode

/-- The data of a node as the properties of its kind. -/
def properties (node : CompiledNode) : Checked Properties :=
  Properties.check node.kind (.dict node.data.entries)

/-- The visit of a compiled node; its data are checked every time. -/
def visit (node : CompiledNode) (context : Context) :
    Except Failure (Move × Context) :=
  match node.properties with
  | .accepted properties => properties.visit context
  | .rejected issues => .error (.invalidData issues)

/-- The node that is followed from an output port: the first target. -/
def next? (node : CompiledNode) (port : Nat) : Option String :=
  (node.targets port).head?

end CompiledNode

end StoryGraph
