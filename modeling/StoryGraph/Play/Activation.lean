import StoryGraph.Compiled
import StoryGraph.Condition
import StoryGraph.Play.Call

/-!
# Activations

An activation is one run of a compiled graph from one of its entrypoints.  It
is live until it completes, is cancelled, or aborts with a diagnostic.

This embeds `Activation`, `ActivationState` and `RuntimeDiagnostic`.  A
`Failure` is the reason of a `_StepFailure` or of another abortion, from which
the code and the message follow.
-/

namespace StoryGraph

/-- Why an activation aborts. -/
inductive Failure where
  | missingTarget
  | missingSuspended
  | stepLimit (limit : Nat)
  | invalidData (issues : List Issue)
  | unknownAction (word : String)
  | needsTarget (action : ContextAction)
  | amountNotNumeric (amount : Value)
  /-- What an increment has instead of an amount cannot be shown. -/
  | unspellableAmount
  | increment (error : Context.IncrementError)
  | condition (error : ConditionError)
  | invalidReport (issues : List Issue)
  | host (kind text : String)
  deriving DecidableEq

namespace Failure

/-- The code of a failure.  A sum that is too large and a value that cannot be
shown are reported like a failure of the host. -/
def code : Failure → String
  | missingTarget => "MISSING_TARGET_NODE"
  | missingSuspended => "MISSING_TARGET_NODE"
  | stepLimit _ => "STEP_LIMIT_EXCEEDED"
  | invalidData _ => "INVALID_NODE_DATA"
  | unknownAction _ => "UNKNOWN_ACTION_TYPE"
  | needsTarget _ => "INVALID_ACTION"
  | amountNotNumeric _ => "INVALID_ACTION"
  | unspellableAmount => "COLLABORATOR_FAILURE"
  | increment .tooLarge | increment .unspellable => "COLLABORATOR_FAILURE"
  | increment _ => "INVALID_ACTION"
  | condition .unspellable => "COLLABORATOR_FAILURE"
  | condition _ => "INVALID_CONDITION"
  | invalidReport _ => "INVALID_RESUME_RESULT"
  | host .. => "COLLABORATOR_FAILURE"

/-- The message for a failure at a node. -/
def message (nodeId : String) : Failure → String
  | missingTarget => "Node '" ++ nodeId ++ "' is not in the graph."
  | missingSuspended => "Suspended node '" ++ nodeId ++ "' is missing."
  | stepLimit limit => "Activation exceeded " ++ toString limit ++ " steps."
  | invalidData _ => "Node '" ++ nodeId ++ "' has invalid data: " ++ issuesMark
  | unknownAction word => "Action type '" ++ word ++ "' is not supported."
  | needsTarget action => "Action '" ++ action.word ++ "' needs a target."
  | amountNotNumeric amount =>
    "Increment amount " ++ Literal.ofValue amount ++ " is not a number."
  | increment .tooLarge =>
    "OverflowError: " ++ Context.IncrementError.tooLarge.message
  | unspellableAmount | increment .unspellable | condition .unspellable =>
    "ValueError: " ++ Numeral.Fault.unspellable.message
  | increment error => error.message
  | condition error => error.message
  | invalidReport _ => "Invalid encounter result: " ++ issuesMark
  | host kind text => kind ++ ": " ++ text

/-- The issues behind a failure, where a message refers to them. -/
def issues? : Failure → Option (List Issue)
  | invalidData issues => some issues
  | invalidReport issues => some issues
  | _ => none

end Failure

/-- A failure and the node where it happened. -/
structure Diagnostic where
  nodeId : String
  failure : Failure
  deriving DecidableEq

namespace Diagnostic

def code (diagnostic : Diagnostic) : String := diagnostic.failure.code

def message (diagnostic : Diagnostic) : String :=
  diagnostic.failure.message diagnostic.nodeId

end Diagnostic

/-- Where an activation stands in its life. -/
inductive ActivationState where
  | pending
  | running
  /-- Waits for a report that the host has put off. -/
  | suspended
  | completed
  | aborted (diagnostic : Diagnostic)
  | cancelled
  deriving DecidableEq

namespace ActivationState

def word : ActivationState → String
  | pending => "pending"
  | running => "running"
  | suspended => "suspended"
  | completed => "completed"
  | aborted _ => "aborted"
  | cancelled => "cancelled"

def words : List String :=
  ["pending", "running", "suspended", "completed", "aborted", "cancelled"]

/-- The message for a word that is not one of `words`. -/
def unknownWordMessage (word : String) : String :=
  Literal.ofText word ++ " is not a valid ActivationState"

/-- Whether the activation may still go on. -/
def isLive : ActivationState → Bool
  | pending | running | suspended => true
  | completed | aborted _ | cancelled => false

def diagnostic? : ActivationState → Option Diagnostic
  | aborted diagnostic => some diagnostic
  | _ => none

end ActivationState

structure Activation where
  id : String
  graph : CompiledGraph
  /-- The entrypoint where it started. -/
  entry : String
  state : ActivationState
  /-- The node that was visited last. -/
  cursor : Option String
  /-- Number of visits so far. -/
  steps : Nat
  /-- The visited nodes, in order. -/
  visited : Array String
  deriving DecidableEq

namespace Activation

/-- An activation before its first visit. -/
def start (id : String) (graph : CompiledGraph) (entry : String) : Activation :=
  ⟨id, graph, entry, .pending, none, 0, #[]⟩

def isLive (activation : Activation) : Bool := activation.state.isLive

def withState (activation : Activation)
    (state : ActivationState) : Activation :=
  { activation with state := state }

/-- Records the visit of a node. -/
def enter (activation : Activation) (nodeId : String) : Activation :=
  { activation with
    cursor := some nodeId
    steps := activation.steps + 1
    visited := activation.visited.push nodeId }

end Activation

end StoryGraph
