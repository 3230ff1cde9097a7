import StoryGraph.Proofs.Graph.Editing
import StoryGraph.Proofs.Play.Hosted
import StoryGraph.Proofs.Play.Visit

/-!
# The meaning of a compiled graph

An activation of a compiled graph does what a walk over the authoring graph
does: it visits the same nodes, makes the same calls, changes the variables and
flags in the same way and ends in the same state.  The two are compared visit
by visit, and then move by move.
-/

namespace StoryGraph

/-- The turn of an activation that has come as far as a walk. -/
structure Walk.Mirrors (compiled : CompiledGraph) (walk : Walk)
    (turn : Turn) : Prop where
  context : turn.context = { walk.context with
    activeEvents := turn.context.activeEvents }
  graph : turn.activation.graph = compiled
  state : turn.activation.state = walk.state
  visited : turn.activation.visited.toList = walk.visited
  steps : turn.activation.steps = walk.visited.length
  cursor : turn.activation.cursor = walk.visited.getLast?

namespace Walk.Mirrors

variable {compiled : CompiledGraph} {walk : Walk} {turn : Turn}

theorem values (hmirrors : walk.Mirrors compiled turn) :
    turn.context.values = walk.context.values := by
  have hvalues := congrArg Context.values hmirrors.context
  exact hvalues

theorem flags (hmirrors : walk.Mirrors compiled turn) :
    turn.context.flags = walk.context.flags := by
  have hflags := congrArg Context.flags hmirrors.context
  exact hflags

theorem finish (hmirrors : walk.Mirrors compiled turn)
    (state : ActivationState) :
    (walk.finish state).Mirrors compiled (turn.finish state) where
  context := by
    rw [Turn.finish, hmirrors.context]
    rfl
  graph := hmirrors.graph
  state := rfl
  visited := hmirrors.visited
  steps := hmirrors.steps
  cursor := hmirrors.cursor

theorem withState (hmirrors : walk.Mirrors compiled turn)
    (state : ActivationState) :
    (walk.finish state).Mirrors compiled
      { turn with activation := turn.activation.withState state } where
  context := hmirrors.context
  graph := hmirrors.graph
  state := rfl
  visited := hmirrors.visited
  steps := hmirrors.steps
  cursor := hmirrors.cursor

theorem enter (hmirrors : walk.Mirrors compiled turn) (nodeId : String) :
    (walk.enter nodeId).Mirrors compiled (turn.enter nodeId) where
  context := hmirrors.context
  graph := hmirrors.graph
  state := hmirrors.state
  visited := by
    simp [Walk.enter, Turn.enter, Activation.enter, hmirrors.visited]
  steps := by simp [Walk.enter, Turn.enter, Activation.enter, hmirrors.steps]
  cursor := by simp [Walk.enter, Turn.enter, Activation.enter]

theorem write (hmirrors : walk.Mirrors compiled turn) (context : Context)
    (events : IdSet) :
    ({ walk with context := context } : Walk).Mirrors compiled
      { turn with context := { context with activeEvents := events } } where
  context := rfl
  graph := hmirrors.graph
  state := hmirrors.state
  visited := hmirrors.visited
  steps := hmirrors.steps
  cursor := hmirrors.cursor

end Walk.Mirrors

namespace Graph

/-- A turn and its call on a compiled graph, compared with a walk and its
call. -/
def Tracks (compiled : CompiledGraph) (walked : Walk × Option Call)
    (turned : Turn × Option Call) : Prop :=
  walked.1.Mirrors compiled turned.1 ∧ turned.2 = walked.2.map Call.settled

namespace Agrees

variable {graph : Graph} {compiled : CompiledGraph} {walk : Walk} {turn : Turn}

/-- The visit of a compiled node is the visit of the node itself. -/
theorem visit_compileNode (hagrees : graph.Agrees compiled)
    (hmirrors : walk.Mirrors compiled turn) {node : Node}
    (hmem : node ∈ graph.nodes) :
    (graph.canonicalForm.compileNode node).visit turn.context =
      (node.properties.visit walk.context).map fun result =>
        (result.1.settled,
          { result.2 with activeEvents := turn.context.activeEvents }) := by
  rw [CompiledNode.visit, hagrees.properties node hmem, hmirrors.context]
  simp only [Properties.visit_activeEvents, Properties.visit_settled]
  cases node.properties.visit walk.context <;> rfl

theorem visitNode_mirrors (hagrees : graph.Agrees compiled)
    (hmirrors : walk.Mirrors compiled turn) {node : Node}
    (hmem : node ∈ graph.nodes) :
    (graph.visitNode node walk).1.Mirrors compiled
        (turn.visitNode node.id (graph.canonicalForm.compileNode node)).1 ∧
      (turn.visitNode node.id (graph.canonicalForm.compileNode node)).2 =
        (graph.visitNode node walk).2.settled := by
  have hvisit := hagrees.visit_compileNode hmirrors hmem
  have henter := hmirrors.enter node.id
  have hturn : (turn.enter node.id).context = turn.context := rfl
  have hwalk : (walk.enter node.id).context = walk.context := rfl
  simp only [Turn.visitNode, visitNode, hturn, hwalk, hvisit]
  cases node.properties.visit walk.context with
  | error failure => exact ⟨henter.finish _, rfl⟩
  | ok result =>
    obtain ⟨move, context⟩ := result
    have hwrite := henter.write context turn.context.activeEvents
    cases move with
    | stop => exact ⟨hwrite.finish _, rfl⟩
    | call call => exact ⟨hwrite, rfl⟩
    | follow port =>
      simp only [Except.map, Move.settled, hagrees.next node hmem port]
      cases graph.firstTarget? node.id port with
      | none => exact ⟨hwrite.finish _, rfl⟩
      | some next => exact ⟨hwrite, rfl⟩

/-- Turns on the compiled graph track walks over the authoring graph. -/
theorem run_tracks (hagrees : graph.Agrees compiled) (limit left : Nat)
    (nodeId : String) (hmirrors : walk.Mirrors compiled turn) :
    Tracks compiled (graph.walkFrom limit left nodeId walk)
      (Turn.run limit left nodeId turn) := by
  induction left generalizing nodeId walk turn with
  | zero =>
    rw [walkFrom, Turn.run, hmirrors.graph, hagrees.nodes]
    cases graph.getNode? nodeId with
    | none => exact ⟨hmirrors.finish _, rfl⟩
    | some node => exact ⟨hmirrors.finish _, rfl⟩
  | succ left ih =>
    rw [walkFrom, Turn.run, hmirrors.graph, hagrees.nodes]
    cases hnode : graph.getNode? nodeId with
    | none => exact ⟨hmirrors.finish _, rfl⟩
    | some node =>
      obtain ⟨hnext, hdestination⟩ :=
        hagrees.visitNode_mirrors hmirrors (mem_of_getNode? hnode)
      rw [id_of_getNode? hnode] at hnext hdestination
      simp only [Option.map_some]
      generalize turn.visitNode nodeId (graph.canonicalForm.compileNode node) =
        turned
        at hnext hdestination
      generalize graph.visitNode node walk = walked at hnext hdestination
      obtain ⟨later, destination⟩ := walked
      obtain ⟨laterTurn, laterDestination⟩ := turned
      simp only at hnext hdestination
      subst hdestination
      cases destination with
      | nowhere => exact ⟨hnext, rfl⟩
      | host call => exact ⟨hnext, rfl⟩
      | node next => exact ih next hnext

/-- An activation goes on in the same way as a walk. -/
theorem follow_tracks (hagrees : graph.Agrees compiled) (limit : Nat)
    (hmirrors : walk.Mirrors compiled turn) {node : Node}
    (hmem : node ∈ graph.nodes) (report : Report) :
    Tracks compiled (graph.walkAfter limit node report walk)
      (match report.port node.kind with
        | .rejected issues => (turn.abort node.id (.invalidReport issues), none)
        | .accepted port =>
          turn.follow limit (graph.canonicalForm.compileNode node) port) := by
  rw [walkAfter]
  cases report.port node.kind with
  | rejected issues => exact ⟨hmirrors.finish _, rfl⟩
  | accepted port =>
    simp only [Turn.follow, hagrees.next node hmem port]
    cases graph.firstTarget? node.id port with
    | none => exact ⟨hmirrors.finish _, rfl⟩
    | some next =>
      simp only [Turn.continueAt, hmirrors.steps]
      exact hagrees.run_tracks limit _ next (hmirrors.withState .running)

/-- An activation stands at the node that the walk has visited last. -/
theorem lastVisited?_of_standsAt (hagrees : graph.Agrees compiled)
    (hmirrors : walk.Mirrors compiled turn) {nodeId : String}
    {compiledNode : CompiledNode}
    (hstands : turn.activation.StandsAt nodeId compiledNode) :
    ∃ node ∈ graph.nodes, graph.lastVisited? walk = some node ∧
      node.id = nodeId ∧
      graph.canonicalForm.compileNode node = compiledNode := by
  have hfound := hstands.2
  rw [hmirrors.graph, hagrees.nodes] at hfound
  obtain ⟨node, hnode, hcompiled⟩ := Option.map_eq_some_iff.mp hfound
  refine ⟨node, mem_of_getNode? hnode, ?_, id_of_getNode? hnode, hcompiled⟩
  rw [lastVisited?, ← hmirrors.cursor, hstands.1]
  exact hnode

/-! ## Moves of the host -/

theorem receive_tracks (hagrees : graph.Agrees compiled) (limit : Nat)
    (answer : Answer) (hmirrors : walk.Mirrors compiled turn)
    (hcalling : turn.activation.IsCalling) :
    Tracks compiled (graph.walkOn limit (.answer answer) walk)
      (turn.receive limit answer) := by
  obtain ⟨hrunning, nodeId, compiledNode, hstands⟩ := hcalling
  obtain ⟨node, hmem, hlast, rfl, rfl⟩ :=
    hagrees.lastVisited?_of_standsAt hmirrors hstands
  have hwalking : walk.state = .running := hmirrors.state.symm.trans hrunning
  rw [Turn.receive_of_calling _ _ hrunning hstands]
  simp only [walkOn, hlast, hwalking, if_true]
  cases answer with
  | reported report => exact hagrees.follow_tracks limit hmirrors hmem report
  | deferred => exact ⟨hmirrors.withState _, rfl⟩
  | failed kind text => exact ⟨hmirrors.finish _, rfl⟩
  | interrupted text => exact ⟨hmirrors.finish _, rfl⟩

theorem resume_tracks (hagrees : graph.Agrees compiled) (limit : Nat)
    (report : Report) (hmirrors : walk.Mirrors compiled turn)
    (hsuspended : turn.activation.state = .suspended) {nodeId : String}
    {compiledNode : CompiledNode}
    (hstands : turn.activation.StandsAt nodeId compiledNode) :
    Tracks compiled (graph.walkOn limit (.resume report) walk)
      (turn.resume limit report) := by
  obtain ⟨node, hmem, hlast, rfl, rfl⟩ :=
    hagrees.lastVisited?_of_standsAt hmirrors hstands
  have hwaiting : walk.state = .suspended :=
    hmirrors.state.symm.trans hsuspended
  rw [Turn.resume_of_suspended _ _ hsuspended hstands]
  simp only [walkOn, hlast, hwaiting, if_true]
  exact hagrees.follow_tracks limit hmirrors hmem report

end Agrees

end Graph

namespace Graph

open Stage

variable {graph : Graph} {compiled : CompiledGraph} {walk : Walk} {turn : Turn}
variable {call? : Option Call}

/-- A move of the host takes the activation as far as the walk. -/
theorem Agrees.heed_tracks (hagrees : graph.Agrees compiled) (limit : Nat)
    (hmirrors : walk.Mirrors compiled turn) (hpauses : turn.Pauses call?)
    (move : HostMove) :
    Tracks compiled (graph.walkOn limit move walk)
      ((Turn.heed limit move (turn, call?)).1,
      (Turn.response move (turn, call?)
        (Turn.heed limit move (turn, call?)).2).call?) := by
  cases move with
  | answer answer =>
    cases call? with
    | none =>
      rw [walkOn_answer_of_not_running]
      · cases answer <;> exact ⟨hmirrors, rfl⟩
      · rw [← hmirrors.state]
        exact hpauses.not_running
    | some call =>
      have htracks :=
        hagrees.receive_tracks limit answer hmirrors hpauses.calling
      refine ⟨htracks.1, ?_⟩
      rw [← htracks.2]
      cases answer with
      | interrupted text => exact (Turn.receive_interrupted_call _ _ _).symm
      | reported report => exact call?_respond _ _
      | deferred => exact call?_respond _ _
      | failed kind text => exact call?_respond _ _
  | resume report =>
    by_cases hsuspended : turn.activation.state = .suspended
    · obtain ⟨rfl, nodeId, node, hstands⟩ := hpauses.suspended hsuspended
      have htracks :=
        hagrees.resume_tracks limit report hmirrors hsuspended hstands
      simp only [Turn.heed, Turn.response, hsuspended, if_true]
      exact ⟨htracks.1, (call?_respond _ _).trans htracks.2⟩
    · simp only [Turn.heed, Turn.response, hsuspended, if_false]
      rw [walkOn_resume_of_not_suspended]
      · exact ⟨hmirrors, rfl⟩
      · rw [← hmirrors.state]
        exact hsuspended

/-- Any number of moves takes the activation as far as the walk. -/
theorem Agrees.heedAll_tracks (hagrees : graph.Agrees compiled) (limit : Nat)
    (hmirrors : walk.Mirrors compiled turn) (hpauses : turn.Pauses call?)
    (moves : List HostMove) :
    (graph.walkAll limit moves walk).1.Mirrors compiled
        (Turn.heedAll limit moves (turn, call?)).1.1 ∧
      calls (Turn.heedAll limit moves (turn, call?)).2 =
        (graph.walkAll limit moves walk).2.map Call.settled := by
  induction moves generalizing walk turn call? with
  | nil => exact ⟨hmirrors, rfl⟩
  | cons move moves ih =>
    obtain ⟨hnext, hcall⟩ := hagrees.heed_tracks limit hmirrors hpauses move
    obtain ⟨hlast, hcalls⟩ := ih hnext (Turn.heed_pauses move limit hpauses)
    refine ⟨hlast, ?_⟩
    simp only at hcall
    rw [Turn.heedAll_cons, calls_cons, hcalls, hcall, Option.toList_map,
      ← List.map_append]
    rfl

/-- On a stage, any number of moves takes the activation as far as the walk. -/
theorem Agrees.session_tracks (hagrees : graph.Agrees compiled) (limit : Nat)
    (supported : String) (hmirrors : walk.Mirrors compiled turn)
    (hpauses : turn.Pauses call?) (moves : List HostMove) :
    ∃ later laterCall?,
      (session (moves.map (HostMove.event turn.activation.id))
        (solo limit supported turn call?)).1 =
          solo limit supported later laterCall? ∧
      (graph.walkAll limit moves walk).1.Mirrors compiled later ∧
      calls (session (moves.map (HostMove.event turn.activation.id))
        (solo limit supported turn call?)).2 =
          (graph.walkAll limit moves walk).2.map Call.settled := by
  have hsession := @session_heedAll limit supported (turn, call?) moves hpauses
  obtain ⟨hwalk, hcalls⟩ := hagrees.heedAll_tracks limit hmirrors hpauses moves
  refine ⟨_, _, congrArg Prod.fst hsession, hwalk, ?_⟩
  rw [← hcalls]
  exact congrArg (fun played => calls played.2) hsession

/-! ## Activations of compiled graphs -/

theorem entryOf_of_mem {entry : Entrypoint}
    (hentry : entry ∈ compiled.entrypoints) (hnamed : entry.nodeId ≠ "") :
    entryOf compiled (some entry.nodeId) = .ok entry.nodeId := by
  have hfound : (compiled.entrypoint? entry.nodeId).isSome = true := by
    rw [CompiledGraph.entrypoint?, List.find?_isSome]
    exact ⟨entry, hentry, beq_self_eq_true _⟩
  simp [entryOf, Option.filter, hnamed, hfound]

theorem mirrors_start (context : Context) (id nodeId : String) :
    (Walk.mk context .running []).Mirrors compiled
      ⟨context.activate id,
        (Activation.start id compiled nodeId).withState .running⟩ where
  context := rfl
  graph := rfl
  state := rfl
  visited := rfl
  steps := rfl
  cursor := rfl

/-- The first turn of an activation takes it as far as the first part of a
walk. -/
theorem Agrees.opening_tracks (hagrees : graph.Agrees compiled) (limit : Nat)
    (context : Context) (nodeId : String) :
    Tracks compiled (graph.walkFrom limit limit nodeId ⟨context, .running, []⟩)
      (opening limit context compiled nodeId) :=
  hagrees.run_tracks limit limit nodeId (mirrors_start context firstId nodeId)

/-- Compilation preserves meaning: whatever the host does, an activation of the
compiled graph visits the nodes that a walk over the authoring graph visits,
makes its calls, and ends in its state and with its variables and flags.  Only
coordinates that were left out of a call are written as zeros. -/
theorem compile_preserves_meaning {version : String} {singleEntry : Bool}
    {time : Timestamp}
    (hcompile : graph.compile version singleEntry time = .ok compiled)
    (hplain : ∀ node ∈ graph.nodes, ∀ value ∈ node.properties.freeValues,
      value.isPlainData = true)
    {entry : Entrypoint} (hentry : entry ∈ compiled.entrypoints) (limit : Nat)
    {supported : String}
    (hsupported : supportOf compiled.metadata.version supported = .satisfied)
    (context : Context) (moves : List HostMove) :
    let played := session (.activate compiled (some entry.nodeId) ::
      moves.map (HostMove.event firstId)) (initial limit supported context)
    let walked := graph.walk limit entry.nodeId context moves
    ∃ activation, played.1.activations = [activation] ∧
      activation.visited.toList = walked.1.visited ∧
      activation.state = walked.1.state ∧
      played.1.context.values = walked.1.context.values ∧
      played.1.context.flags = walked.1.context.flags ∧
      calls played.2 = walked.2.map Call.settled ∧
      ∀ call ∈ walked.2, call.Same call.settled := by
  intro played walked
  have hagrees := agrees_of_compile hcompile hplain
  have hversion :
      (initial limit supported context).checkVersion compiled = .ok () := by
    simp [checkVersion, initial, hsupported]
  have hnode :=
    entryOf_of_mem hentry (nodeId_ne_empty_of_compile hcompile hentry)
  have hactivate := activate_initial hversion hnode
  have hopening := hagrees.opening_tracks limit context entry.nodeId
  have hpauses : (opening limit context compiled entry.nodeId).1.Pauses
      (opening limit context compiled entry.nodeId).2 :=
    .inl (Turn.continueAt_rests limit entry.nodeId _)
  obtain ⟨last, lastCall?, hlast, hmirrors, hcalls⟩ :=
    hagrees.session_tracks limit supported hopening.1 hpauses moves
  rw [opening_id] at hlast hcalls
  have hstage : played.1 = solo limit supported last lastCall? := by
    rw [← hlast]
    simp only [played, session_cons, step, hactivate]
  have hmade : calls played.2 = walked.2.map Call.settled := by
    have hplayed :
        calls played.2 =
          (opening limit context compiled entry.nodeId).2.toList ++
            calls (session (moves.map (HostMove.event firstId))
              (solo limit supported
                (opening limit context compiled entry.nodeId).1
                (opening limit context compiled entry.nodeId).2)).2 := by
      simp only [played, session_cons, step, hactivate, calls_cons,
        call?_respond]
    rw [hplayed, hcalls, hopening.2, Option.toList_map, ← List.map_append]
    rfl
  refine ⟨last.activation, ?_, hmirrors.visited, hmirrors.state, ?_, ?_, hmade,
    fun call _ => call.same_settled⟩
  · rw [hstage]
    rfl
  · rw [hstage]
    exact hmirrors.values
  · rw [hstage]
    exact hmirrors.flags

/-- Builds a trigger that sets a flag and then leads to a dialogue and away. -/
def greetingEdits : List Edit :=
  [.createNode (.str "trigger") .null .null (some "entry"),
    .createNode (.str "action") .null
      (.dict [("actionType", .str "set_flag"), ("target", .str "met")])
      (some "mark"),
    .createNode (.str "dialogue") .null .null (some "guard"),
    .createNode (.str "teleport") .null (.dict [("targetMap", .str "town")])
      (some "gate"),
    .connect (.tuple [.str "entry", .int 0]) (.tuple [.str "mark", .int 0]),
    .connect (.tuple [.str "mark", .int 0]) (.tuple [.str "guard", .int 0]),
    .connect (.tuple [.str "guard", .int 0]) (.tuple [.str "gate", .int 0])]

def greeting : Graph :=
  ((Desk.fresh ⟨"greeting", by decide⟩ "" .standard ⟨1⟩).editAll
    greetingEdits).graph

/-- The dialogue is put off, and the other call is answered at once. -/
def greetingMoves : List HostMove :=
  [.answer .deferred, .resume (.value .null),
    .answer (.reported (.value .null))]

theorem greeting_sound : greeting.Sound :=
  ((Desk.fresh_orderly _ _ _ _).editAll greetingEdits).sound

theorem greeting_meaning :
    ∃ compiled, greeting.compile "1.0" false noon = .ok compiled ∧ ∃ activation,
      (session (.activate compiled (some "entry") ::
        greetingMoves.map (HostMove.event firstId))
        (initial 256 ">=1.0" .empty)).1.activations = [activation] ∧
      activation.visited.toList = ["entry", "mark", "guard", "gate"] ∧
      activation.state = .completed := by
  have htrigger : ∃ node ∈ greeting.nodes, node.kind = .trigger := by
    decide +kernel
  have hwritable : greeting.isWritable = true := by decide +kernel
  have hplain : ∀ node ∈ greeting.nodes, ∀ value ∈ node.properties.freeValues,
      value.isPlainData = true := by decide +kernel
  have hentry :
      ∃ node ∈ greeting.nodes,
        entrypointOf? node = some ⟨"entry", "player_enter", "always"⟩ := by
    decide +kernel
  have hsupported : supportOf "1.0" ">=1.0" = .satisfied := by decide +kernel
  have hcompile := greeting_sound.compile_of_trigger htrigger "1.0" false noon
  rw [if_pos hwritable] at hcompile
  obtain ⟨node, hmem, hnode⟩ := hentry
  have hmeaning := compile_preserves_meaning hcompile hplain
    (mem_entrypoints_of_mem hmem hnode _) 256 hsupported .empty greetingMoves
  obtain ⟨activation, hactivation, hvisited, hstate, -⟩ := hmeaning
  have hwalk : (greeting.walk 256 "entry" .empty greetingMoves).1.visited =
      ["entry", "mark", "guard", "gate"] := by decide +kernel
  have hend : (greeting.walk 256 "entry" .empty greetingMoves).1.state =
      .completed := by
    decide +kernel
  exact ⟨_, hcompile, activation, hactivation, hvisited.trans hwalk,
    hstate.trans hend⟩

end Graph

end StoryGraph
