import StoryGraph.IdSupply
import StoryGraph.Play.Turn
import StoryGraph.Version.Specifier

/-!
# Stages

A stage holds the context and the activations that share it.  The host acts on
a stage by events; an event ends with a response, which may be a call that the
host has to answer later.  Until then the work that made the call stays on the
stage as a task, so that the host may send other events while it handles the
call.

A `Stage` is a `GraphRuntime` with its `RuntimeContext`.  The events are its
methods `activate`, `fire_trigger`, `resume`, `cancel` and `prune_finished`, the
return of an awaited method of the `EventCollaborator`, and an edit of the
context by the host.
-/

namespace StoryGraph

/-- Why no activation is started. -/
inductive StartError where
  | unsupportedVersion (version supported : String)
  /-- Nothing can be said about the version: comparing it fails. -/
  | undecidedVersion
  | notEntrypoint (entry : Option String) (graphId : String)
  deriving DecidableEq

def StartError.message : StartError → String
  | unsupportedVersion version supported =>
    "Compiled graph version '" ++ version ++ "' does not satisfy '" ++
      supported ++ "'."
  | undecidedVersion => ""
  | notEntrypoint entry graphId =>
    "'" ++ entry.getD "None" ++ "' is not an entrypoint of graph '" ++
      graphId ++ "'."

/-- Entrypoints of a graph that are started one after the other: the ids of the
activations so far, and the entrypoints that are left. -/
structure Firing where
  graph : CompiledGraph
  started : List String
  left : List Entrypoint
  deriving DecidableEq

/-- Work that waits for the answer to a call of an activation. -/
structure Task where
  activationId : String
  /-- The firing that goes on afterwards, if the activation is part of one. -/
  firing? : Option Firing
  deriving DecidableEq

structure Stage where
  /-- The limit on the number of visits of an activation. -/
  limit : Nat
  /-- The format versions that compiled graphs may have. -/
  supported : String
  context : Context
  /-- All activations ever started, in that order. -/
  activations : List Activation
  /-- Ids of activations that have been forgotten after their end. -/
  forgotten : List String
  supply : IdSupply
  tasks : List Task
  deriving DecidableEq

/-- What the host does. -/
inductive Event where
  | activate (graph : CompiledGraph) (entry : Option String)
  | fire (graph : CompiledGraph) (triggerType : String)
  | resume (id : String) (report : Report)
  | cancel (id : String)
  | prune
  /-- Answers the call that an activation waits for. -/
  | answer (id : String) (answer : Answer)
  /-- Replaces the content of the shared context. -/
  | write (context : Context)
  deriving DecidableEq

/-- How an event ends. -/
inductive Response where
  /-- An activation calls the host. -/
  | called (id : String) (call : Call)
  /-- The event is over, with these activations as its result. -/
  | returned (ids : List String)
  | refused (error : StartError)
  | unknownActivation (id : String)
  /-- The event is over because its task was cancelled. -/
  | interrupted (text : String)
  | pruned (count : Nat)
  | written
  deriving DecidableEq

namespace Stage

/-- A stage on which nothing has happened. -/
def initial (limit : Nat) (supported : String) (context : Context) : Stage :=
  ⟨limit, supported, context, [], [], ⟨1⟩, []⟩

/-- An activation that was started at any time. -/
def started? (stage : Stage) (id : String) : Option Activation :=
  stage.activations.find? (·.id == id)

/-- The activations that have not been forgotten. -/
def registered (stage : Stage) : List Activation :=
  stage.activations.filter fun activation =>
    !stage.forgotten.contains activation.id

/-- A registered activation. -/
def activation? (stage : Stage) (id : String) : Option Activation :=
  stage.registered.find? (·.id == id)

/-- The registered activations whose state has the given word, if it is the word
of a state. -/
def inState? (stage : Stage) (word : String) : Option (List Activation) :=
  if ActivationState.words.contains word then
    some (stage.registered.filter (·.state.word == word))
  else none

/-- Puts a changed activation in the place of the one with its id. -/
def replace (stage : Stage) (activation : Activation) : Stage :=
  { stage with
    activations := stage.activations.map fun old =>
      if old.id = activation.id then activation else old }

/-- Lets an activation take a turn on the context. -/
def play (stage : Stage) (activation : Activation)
    (turn : Turn → Turn × Option Call) : Stage × Option Call :=
  let (turn, call) := turn ⟨stage.context, activation⟩
  ({ stage with context := turn.context }.replace turn.activation, call)

/-- Keeps the work that made a call as a task until the host answers. -/
def await (firing? : Option Firing) (id : String) (call : Call)
    (stage : Stage) : Stage × Response :=
  ({ stage with tasks := ⟨id, firing?⟩ :: stage.tasks }, .called id call)

def checkVersion (stage : Stage)
    (graph : CompiledGraph) : Except StartError Unit :=
  match supportOf graph.metadata.version stage.supported with
  | .satisfied => .ok ()
  | .unsatisfied =>
    .error (.unsupportedVersion graph.metadata.version stage.supported)
  | .undecided | .faulty _ => .error .undecidedVersion

/-- The node where an activation starts: the given one, or else the start node
of the graph.  It has to be an entrypoint. -/
def entryOf (graph : CompiledGraph)
    (entry : Option String) : Except StartError String :=
  let chosen := (entry.filter (· ≠ "")).or graph.startNode
  match chosen with
  | some nodeId =>
    if (graph.entrypoint? nodeId).isSome then .ok nodeId
    else .error (.notEntrypoint chosen graph.id)
  | none => .error (.notEntrypoint chosen graph.id)

/-- Adds a new activation, which is active from now on. -/
def enroll (stage : Stage) (graph : CompiledGraph)
    (entry : String) : Stage × Activation :=
  let (id, supply) := stage.supply.take "act"
  let activation := Activation.start id.val graph entry
  ({ stage with
      context := stage.context.activate activation.id
      activations := stage.activations ++ [activation]
      supply := supply }, activation)

/-- Starts an activation and lets it run; answers its id and its call, if it
made one. -/
def start (stage : Stage) (graph : CompiledGraph) (entry : Option String) :
    Except StartError (Stage × String × Option Call) :=
  match stage.checkVersion graph, entryOf graph entry with
  | .error error, _ => .error error
  | _, .error error => .error error
  | .ok _, .ok nodeId =>
    let (stage, activation) := stage.enroll graph nodeId
    let (stage, call) :=
      stage.play activation (Turn.continueAt stage.limit nodeId)
    .ok (stage, activation.id, call)

/-- Starts the entrypoints of a firing in turn. -/
def fireAll (graph : CompiledGraph) :
    List Entrypoint → List String → Stage → Stage × Response
  | [], started, stage => (stage, .returned started)
  | entry :: left, started, stage =>
    match stage.start graph (some entry.nodeId) with
    | .error error => (stage, .refused error)
    | .ok (stage, id, some call) =>
      stage.await (some ⟨graph, started ++ [id], left⟩) id call
    | .ok (stage, id, none) => fireAll graph left (started ++ [id]) stage

/-- What follows the turn of an activation: its call, the rest of its firing, or
the end of the event. -/
def settle (firing? : Option Firing) (id : String) (call? : Option Call)
    (stage : Stage) : Stage × Response :=
  match call?, firing? with
  | some call, _ => stage.await firing? id call
  | none, some firing => stage.fireAll firing.graph firing.left firing.started
  | none, none => (stage, .returned [id])

def activate (stage : Stage) (graph : CompiledGraph)
    (entry : Option String) : Stage × Response :=
  match stage.start graph entry with
  | .error error => (stage, .refused error)
  | .ok (stage, id, call?) => stage.settle none id call?

def fire (stage : Stage) (graph : CompiledGraph)
    (triggerType : String) : Stage × Response :=
  match stage.checkVersion graph with
  | .error error => (stage, .refused error)
  | .ok _ => stage.fireAll graph (graph.entrypointsFor triggerType) []

def resume (stage : Stage) (id : String) (report : Report) : Stage × Response :=
  match stage.activation? id with
  | none => (stage, .unknownActivation id)
  | some activation =>
    let (stage, call?) := stage.play activation (Turn.resume stage.limit report)
    stage.settle none id call?

def cancel (stage : Stage) (id : String) : Stage × Response :=
  match stage.activation? id with
  | none => (stage, .unknownActivation id)
  | some activation =>
    ((stage.play activation fun turn => (turn.cancel, none)).1, .returned [id])

/-- Forgets the registered activations that have ended. -/
def prune (stage : Stage) : Stage × Response :=
  let ended :=
    (stage.registered.filter fun activation => !activation.isLive).map
      Activation.id
  ({ stage with forgotten := stage.forgotten ++ ended }, .pruned ended.length)

/-- Gives the answer to the call of an activation, which may have been cancelled
or forgotten meanwhile. -/
def answer (stage : Stage) (id : String) (answer : Answer) : Stage × Response :=
  match stage.tasks.find? (·.activationId == id), stage.started? id with
  | some task, some activation =>
    let stage := { stage with tasks := stage.tasks.erase task }
    let (stage, call?) :=
      stage.play activation (Turn.receive stage.limit answer)
    match answer with
    | .interrupted text => (stage, .interrupted text)
    | _ => stage.settle task.firing? id call?
  | _, _ => (stage, .unknownActivation id)

/-- The stage after an event, and the response. -/
def step (stage : Stage) : Event → Stage × Response
  | .activate graph entry => stage.activate graph entry
  | .fire graph triggerType => stage.fire graph triggerType
  | .resume id report => stage.resume id report
  | .cancel id => stage.cancel id
  | .prune => stage.prune
  | .answer id answer => stage.answer id answer
  | .write context => ({ stage with context := context }, .written)

end Stage

end StoryGraph
