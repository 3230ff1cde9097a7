import StoryGraph.Proofs.Play.Response
import StoryGraph.Proofs.Play.Visit

/-!
# What visits do

The visit of a node either calls the host, acts on the variables and flags, or
does neither, and the data of the node tell which.  A turn makes exactly the
call of the nodes that it visits, and changes variables and flags exactly as
these nodes do, each of them once and in the order of the visits.  A step that
fails changes nothing.
-/

namespace StoryGraph

/-! ## Variables and flags -/

namespace Context

/-- The variables and flags, without the active events. -/
def content (context : Context) : Table Value × Table Bool :=
  (context.values, context.flags)

/-- Contexts with the same content differ in their active events only. -/
theorem eq_of_content {context other : Context}
    (hcontent : context.content = other.content) :
    other = { context with activeEvents := other.activeEvents } := by
  simp only [content, Prod.mk.injEq] at hcontent
  obtain ⟨hvalues, hflags⟩ := hcontent
  cases context
  cases other
  simp_all

end Context

/-! ## Calls and effects of nodes -/

/-- The call with which a visit ends, if it ends with one. -/
def Move.call? : Move → Option Call
  | .call made => some made
  | _ => none

/-- The call to which the visit of a node leads. -/
def Destination.call? : Destination → Option Call
  | .host call => some call
  | _ => none

namespace Properties

/-- The call of the host that a record stands for, with its own values as
arguments. -/
def call? : Properties → Option Call
  | .action properties =>
    match ActionKind.ofWord? properties.actionType with
    | some (.delegated request) =>
      some (.performAction request properties.target properties.value)
    | _ => none
  | .dialogue properties => some (.presentDialogue properties)
  | .encounter properties => some (.resolveEncounter properties)
  | .teleport properties => some (.performTeleport properties)
  | _ => none

/-- The action on the context that a record stands for. -/
def contextAction? : Properties → Option (ContextAction × ActionProperties)
  | .action properties =>
    match ActionKind.ofWord? properties.actionType with
    | some (.onContext change) => some (change, properties)
    | _ => none
  | _ => none

/-- What a record makes of a context: its action is applied, unless it fails. -/
def effect (properties : Properties) (context : Context) : Context :=
  match properties.contextAction? with
  | some (change, details) =>
    match details.change change context with
    | .ok changed => changed
    | .error _ => context
  | none => context

/-- The visit of a record applies its effect and makes its call, if it has
one. -/
theorem visit_ok {properties : Properties} {context after : Context}
    {move : Move} (hvisit : properties.visit context = .ok (move, after)) :
    after = properties.effect context ∧ properties.call? = move.call? := by
  cases properties with
  | trigger properties =>
    simp only [visit] at hvisit
    split at hvisit
    · next passed _ =>
      cases hvisit
      cases passed <;> exact ⟨rfl, rfl⟩
    · cases hvisit
  | condition properties =>
    simp only [visit] at hvisit
    split at hvisit
    · cases hvisit
      exact ⟨rfl, rfl⟩
    · cases hvisit
  | action properties =>
    simp only [visit] at hvisit
    split at hvisit
    · cases hvisit
    · next change hknown =>
      cases hchange : properties.change change context with
      | error failure =>
        rw [hchange] at hvisit
        cases hvisit
      | ok changed =>
        rw [hchange] at hvisit
        cases hvisit
        simp [effect, contextAction?, call?, hknown, hchange, Move.call?]
    · next request hknown =>
      cases hvisit
      simp [effect, contextAction?, call?, hknown, Move.call?]
  | dialogue properties => cases hvisit; exact ⟨rfl, rfl⟩
  | encounter properties => cases hvisit; exact ⟨rfl, rfl⟩
  | teleport properties => cases hvisit; exact ⟨rfl, rfl⟩

/-- A visit that fails has no effect and makes no call. -/
theorem visit_failed {properties : Properties} {context : Context}
    {failure : Failure} (hvisit : properties.visit context = .error failure) :
    properties.effect context = context ∧ properties.call? = none := by
  cases properties with
  | trigger properties => exact ⟨rfl, rfl⟩
  | condition properties => exact ⟨rfl, rfl⟩
  | action properties =>
    simp only [visit] at hvisit
    split at hvisit
    · next hunknown => simp [effect, contextAction?, call?, hunknown]
    · next change hknown =>
      cases hchange : properties.change change context with
      | error error => simp [effect, contextAction?, call?, hknown, hchange]
      | ok changed =>
        rw [hchange] at hvisit
        cases hvisit
    · cases hvisit
  | dialogue properties => cases hvisit
  | encounter properties => cases hvisit
  | teleport properties => cases hvisit

/-- The effect on variables and flags does not depend on the active events. -/
theorem content_effect (properties : Properties) {context other : Context}
    (hcontent : context.content = other.content) :
    (properties.effect context).content =
      (properties.effect other).content := by
  rw [Context.eq_of_content hcontent, effect, effect]
  split
  · next change details _ =>
    have hchange :=
      change_activeEvents details change context other.activeEvents
    rw [hchange]
    cases details.change change context <;> rfl
  · rfl

end Properties

namespace CompiledNode

/-- The call that a node makes whenever it is visited; one with invalid data
makes none. -/
def call? (node : CompiledNode) : Option Call :=
  match node.properties with
  | .accepted properties => properties.call?
  | .rejected _ => none

/-- What a node makes of a context; one with invalid data leaves it as it is. -/
def effect (node : CompiledNode) (context : Context) : Context :=
  match node.properties with
  | .accepted properties => properties.effect context
  | .rejected _ => context

theorem visit_ok {node : CompiledNode} {context after : Context} {move : Move}
    (hvisit : node.visit context = .ok (move, after)) :
    after = node.effect context ∧ node.call? = move.call? := by
  rw [visit] at hvisit
  rw [effect, call?]
  cases hproperties : node.properties with
  | accepted properties =>
    rw [hproperties] at hvisit
    exact Properties.visit_ok hvisit
  | rejected issues =>
    rw [hproperties] at hvisit
    cases hvisit

theorem visit_failed {node : CompiledNode} {context : Context}
    {failure : Failure} (hvisit : node.visit context = .error failure) :
    node.effect context = context ∧ node.call? = none := by
  rw [visit] at hvisit
  rw [effect, call?]
  cases hproperties : node.properties with
  | accepted properties =>
    rw [hproperties] at hvisit
    exact Properties.visit_failed hvisit
  | rejected issues => exact ⟨rfl, rfl⟩

theorem content_effect (node : CompiledNode) {context other : Context}
    (hcontent : context.content = other.content) :
    (node.effect context).content = (node.effect other).content := by
  rw [effect, effect]
  split
  · exact Properties.content_effect _ hcontent
  · exact hcontent

end CompiledNode

namespace CompiledGraph

/-- The call that the visit of a node makes. -/
def callAt? (graph : CompiledGraph) (nodeId : String) : Option Call :=
  (graph.nodes.find? nodeId).bind CompiledNode.call?

/-- What the visit of a node makes of a context. -/
def effectAt (graph : CompiledGraph) (nodeId : String)
    (context : Context) : Context :=
  match graph.nodes.find? nodeId with
  | some node => node.effect context
  | none => context

/-- What the visits of some nodes, one after the other, make of a context. -/
def replay (graph : CompiledGraph) (nodeIds : List String)
    (context : Context) : Context :=
  nodeIds.foldl (fun context nodeId => graph.effectAt nodeId context) context

theorem callAt?_of_find? {graph : CompiledGraph} {nodeId : String}
    {node : CompiledNode} (hnode : graph.nodes.find? nodeId = some node) :
    graph.callAt? nodeId = node.call? := by
  rw [callAt?, hnode, Option.bind_some]

theorem effectAt_of_find? {graph : CompiledGraph} {nodeId : String}
    {node : CompiledNode} (hnode : graph.nodes.find? nodeId = some node)
    (context : Context) :
    graph.effectAt nodeId context = node.effect context := by
  rw [effectAt, hnode]

theorem content_effectAt (graph : CompiledGraph) (nodeId : String)
    {context other : Context} (hcontent : context.content = other.content) :
    (graph.effectAt nodeId context).content =
      (graph.effectAt nodeId other).content := by
  rw [effectAt, effectAt]
  split
  · exact CompiledNode.content_effect _ hcontent
  · exact hcontent

theorem replay_cons (graph : CompiledGraph) (nodeId : String)
    (nodeIds : List String) (context : Context) :
    graph.replay (nodeId :: nodeIds) context =
      graph.replay nodeIds (graph.effectAt nodeId context) :=
  rfl

theorem replay_append (graph : CompiledGraph) (first second : List String)
    (context : Context) :
    graph.replay (first ++ second) context =
      graph.replay second (graph.replay first context) :=
  List.foldl_append

theorem content_replay (graph : CompiledGraph) (nodeIds : List String)
    {context other : Context} (hcontent : context.content = other.content) :
    (graph.replay nodeIds context).content =
      (graph.replay nodeIds other).content := by
  induction nodeIds generalizing context other with
  | nil => exact hcontent
  | cons nodeId nodeIds ih => exact ih (graph.content_effectAt nodeId hcontent)

end CompiledGraph

/-! ## Steps that fail -/

namespace Failure

/-- No node is visited in the step that fails: there is none, or the limit is
reached. -/
def beforeVisit : Failure → Bool
  | missingTarget | missingSuspended | stepLimit _ => true
  | _ => false

end Failure

namespace CompiledGraph

/-- The variables and flags are what the visits before the step that failed have
made of them.  These are all visits but the one of that step, if it is a visit
itself. -/
def FailedAt (graph : CompiledGraph) (fresh : List String)
    (start last : Context) (diagnostic : Diagnostic) : Prop :=
  ∃ completed, last.content = (graph.replay completed start).content ∧
    (fresh = completed ∧ diagnostic.failure.beforeVisit = true ∨
      fresh = completed ++ [diagnostic.nodeId])

/-- More visits come first. -/
theorem FailedAt.after {graph : CompiledGraph} {visits fresh : List String}
    {start middle last : Context} {diagnostic : Diagnostic}
    (hfailed : graph.FailedAt fresh middle last diagnostic)
    (hmiddle : middle.content = (graph.replay visits start).content) :
    graph.FailedAt (visits ++ fresh) start last diagnostic := by
  obtain ⟨completed, hcontent, hfresh⟩ := hfailed
  refine ⟨visits ++ completed, ?_, ?_⟩
  · rw [hcontent, replay_append]
    exact content_replay _ _ hmiddle
  · rcases hfresh with ⟨rfl, hbefore⟩ | rfl
    · exact .inl ⟨rfl, hbefore⟩
    · exact .inr (List.append_assoc ..).symm

end CompiledGraph

/-! ## Turns -/

namespace Turn

open Activation

/-- Between two points of a turn the activation has visited some nodes.  They
account for the change of the variables and flags and for the call at the
end. -/
structure Performs (turn later : Turn) (call? : Option Call)
    (fresh : List String) : Prop where
  graph : later.activation.graph = turn.activation.graph
  visited : later.activation.visited.toList =
    turn.activation.visited.toList ++ fresh
  content : later.context.content =
    (turn.activation.graph.replay fresh turn.context).content
  calls : fresh.filterMap turn.activation.graph.callAt? = call?.toList

/-- Nothing has been visited. -/
theorem performs_nothing {turn later : Turn}
    (hgraph : later.activation.graph = turn.activation.graph)
    (hvisited : later.activation.visited = turn.activation.visited)
    (hcontent : later.context.content = turn.context.content) :
    turn.Performs later none [] where
  graph := hgraph
  visited := by rw [hvisited, List.append_nil]
  content := hcontent
  calls := rfl

theorem Performs.refl (turn : Turn) :
    turn.Performs turn none [] := performs_nothing rfl rfl rfl

theorem Performs.trans {first second third : Turn} {call? : Option Call}
    {visits more : List String} (hfirst : first.Performs second none visits)
    (hsecond : second.Performs third call? more) :
    first.Performs third call? (visits ++ more) where
  graph := hsecond.graph.trans hfirst.graph
  visited := by rw [hsecond.visited, hfirst.visited, List.append_assoc]
  content := by
    rw [hsecond.content, hfirst.graph, CompiledGraph.replay_append]
    exact CompiledGraph.content_replay _ _ hfirst.content
  calls := by
    rw [List.filterMap_append, hfirst.calls, ← hfirst.graph, hsecond.calls]
    rfl

theorem performs_finish (turn : Turn) (state : ActivationState) :
    turn.Performs (turn.finish state) none [] := performs_nothing rfl rfl rfl

theorem performs_abort (turn : Turn) (nodeId : String) (failure : Failure) :
    turn.Performs (turn.abort nodeId failure) none [] := turn.performs_finish _

/-- The end of an activation adds nothing to what has been done before. -/
theorem Performs.finish {turn later : Turn} {fresh : List String}
    (hperforms : turn.Performs later none fresh) (state : ActivationState) :
    turn.Performs (later.finish state) none fresh where
  graph := hperforms.graph
  visited := hperforms.visited
  content := hperforms.content
  calls := hperforms.calls

/-- A change of state at the beginning is no visit. -/
theorem Performs.of_withState {turn later : Turn} {state : ActivationState}
    {call? : Option Call} {fresh : List String}
    (hperforms : Performs ⟨turn.context, turn.activation.withState state⟩ later
      call? fresh) : turn.Performs later call? fresh where
  graph := hperforms.graph
  visited := hperforms.visited
  content := hperforms.content
  calls := hperforms.calls

/-- A call comes from a visit. -/
theorem Performs.visited_size_lt {turn later : Turn} {call? : Option Call}
    {fresh : List String} (hperforms : turn.Performs later call? fresh)
    {call : Call} (hcall : call? = some call) :
    turn.activation.visited.size < later.activation.visited.size := by
  have hsome : fresh ≠ [] := by
    rintro rfl
    have hcalls := hperforms.calls
    rw [hcall] at hcalls
    cases hcalls
  have hlength := congrArg List.length hperforms.visited
  rw [List.length_append, Array.length_toList, Array.length_toList] at hlength
  have hpositive := List.length_pos_of_ne_nil hsome
  omega

/-- The visit of one node. -/
theorem Visited.performs {turn later : Turn} {nodeId : String}
    {node : CompiledNode} {destination : Destination}
    (hvisited : Visited turn nodeId node later destination)
    (hnode : turn.activation.graph.nodes.find? nodeId = some node) :
    turn.Performs later destination.call? [nodeId] := by
  have henter :
      ∀ context, context = node.effect turn.context → ∀ call?,
        node.call? = call? →
          turn.Performs ⟨context, turn.activation.enter nodeId⟩ call?
            [nodeId] := by
    intro context hcontext call? hcall
    refine ⟨rfl, Array.toList_push, ?_, ?_⟩
    · rw [hcontext, CompiledGraph.replay_cons,
        CompiledGraph.effectAt_of_find? hnode]
      rfl
    · rw [List.filterMap_cons, CompiledGraph.callAt?_of_find? hnode, hcall]
      cases call? <;> rfl
  cases hvisited with
  | failed hvisit =>
    obtain ⟨heffect, hcall⟩ := CompiledNode.visit_failed hvisit
    exact (henter _ heffect.symm none hcall).finish _
  | stopped hvisit =>
    obtain ⟨heffect, hcall⟩ := CompiledNode.visit_ok hvisit
    exact (henter _ heffect none hcall).finish _
  | called hvisit =>
    obtain ⟨heffect, hcall⟩ := CompiledNode.visit_ok hvisit
    exact henter _ heffect _ hcall
  | closed hvisit =>
    obtain ⟨heffect, hcall⟩ := CompiledNode.visit_ok hvisit
    exact (henter _ heffect none hcall).finish _
  | followed hvisit =>
    obtain ⟨heffect, hcall⟩ := CompiledNode.visit_ok hvisit
    exact henter _ heffect none hcall

/-! ## Whole turns -/

/-- A turn performs some visits.  If it aborts the activation, this is because
one of their steps has failed, or because of what the host has said about the
node where the activation stood before. -/
structure Confined (turn later : Turn) (call? : Option Call)
    (fresh : List String) : Prop
    extends turn.Performs later call? fresh where
  failed : ∀ diagnostic, later.activation.state = .aborted diagnostic →
    turn.activation.graph.FailedAt fresh turn.context later.context diagnostic ∨
      fresh = [] ∧ turn.activation.cursor = some diagnostic.nodeId

theorem Performs.confined {turn later : Turn} {call? : Option Call}
    {fresh : List String} (hperforms : turn.Performs later call? fresh)
    (hstate : later.activation.state.diagnostic? = none) :
    turn.Confined later call? fresh where
  toPerforms := hperforms
  failed := by
    intro diagnostic haborted
    rw [haborted] at hstate
    cases hstate

theorem confined_abort_before (turn : Turn) (nodeId : String)
    {failure : Failure} (hbefore : failure.beforeVisit = true) :
    turn.Confined (turn.abort nodeId failure) none [] where
  toPerforms := performs_abort _ _ _
  failed := by
    intro diagnostic haborted
    cases haborted
    exact .inl ⟨[], rfl, .inl ⟨rfl, hbefore⟩⟩

/-- The host has failed, or what it has reported cannot be read. -/
theorem confined_abort_at {turn : Turn} {nodeId : String}
    (hcursor : turn.activation.cursor = some nodeId) (failure : Failure) :
    turn.Confined (turn.abort nodeId failure) none [] where
  toPerforms := performs_abort _ _ _
  failed := by
    intro diagnostic haborted
    cases haborted
    exact .inr ⟨rfl, hcursor⟩

section Turns

variable {limit : Nat} {turn later : Turn} {call? : Option Call}

theorem Walks.failed {nodeId : String}
    (hwalks : Walks limit turn nodeId later call?) :
    ∃ fresh, turn.Performs later call? fresh ∧
      ∀ diagnostic, later.activation.state = .aborted diagnostic →
        turn.activation.graph.FailedAt fresh turn.context later.context
          diagnostic := by
  induction hwalks with
  | missing =>
    refine ⟨[], performs_abort _ _ _, fun diagnostic haborted => ?_⟩
    cases haborted
    exact ⟨[], rfl, .inl ⟨rfl, rfl⟩⟩
  | exhausted =>
    refine ⟨[], performs_abort _ _ _, fun diagnostic haborted => ?_⟩
    cases haborted
    exact ⟨[], rfl, .inl ⟨rfl, rfl⟩⟩
  | @ended _ _ nodeId _ hnode _ hvisited =>
    refine ⟨[nodeId], hvisited.performs hnode, fun diagnostic haborted => ?_⟩
    cases hvisited with
    | failed =>
      cases haborted
      exact ⟨[], rfl, .inr rfl⟩
    | stopped => cases haborted
    | closed => cases haborted
  | @called _ _ nodeId _ _ hnode _ hrunning hvisited =>
    refine ⟨[nodeId], hvisited.performs hnode, fun diagnostic haborted => ?_⟩
    cases hrunning.symm.trans haborted
  | @followed _ _ _ nodeId _ _ _ hnode _ hvisited _ ih =>
    have hperforms := hvisited.performs hnode
    obtain ⟨fresh, hrest, hfailed⟩ := ih
    refine ⟨nodeId :: fresh, hperforms.trans hrest,
      fun diagnostic haborted => ?_⟩
    have hafter := hfailed diagnostic haborted
    rw [hperforms.graph] at hafter
    exact @CompiledGraph.FailedAt.after _ [nodeId] _ _ _ _ _ hafter
      hperforms.content

theorem Walks.confined {nodeId : String}
    (hwalks : Walks limit ⟨turn.context, turn.activation.withState .running⟩
      nodeId later call?) : ∃ fresh, turn.Confined later call? fresh := by
  obtain ⟨fresh, hperforms, hfailed⟩ := hwalks.failed
  exact ⟨fresh, hperforms.of_withState, fun diagnostic haborted =>
    .inl (hfailed diagnostic haborted)⟩

theorem Walks.performs {nodeId : String}
    (hwalks : Walks limit ⟨turn.context, turn.activation.withState .running⟩
      nodeId later call?) : ∃ fresh, turn.Performs later call? fresh :=
  hwalks.confined.imp fun _ hconfined => hconfined.toPerforms

theorem Responds.performs {prompt : Prompt}
    (hresponds : Responds limit turn prompt later call?) :
    ∃ fresh, turn.Performs later call? fresh := by
  cases hresponds with
  | ignored => exact ⟨[], .refl _⟩
  | continued _ _ _ _ _ hwalks => exact hwalks.performs
  | suspended => exact ⟨[], performs_nothing rfl rfl rfl⟩
  | _ => exact ⟨[], performs_finish _ _⟩

theorem Responds.confined {prompt : Prompt}
    (hresponds : Responds limit turn prompt later call?)
    (hacts : turn.ActsOn prompt) :
    ∃ fresh, turn.Confined later call? fresh := by
  cases hresponds with
  | ignored hignores => exact absurd hacts hignores
  | lost => exact ⟨[], confined_abort_before _ _ rfl⟩
  | unreadable _ _ hstands => exact ⟨[], confined_abort_at hstands.1 _⟩
  | closed => exact ⟨[], (performs_finish _ _).confined rfl⟩
  | continued _ _ _ _ _ hwalks => exact hwalks.confined
  | suspended =>
    exact ⟨[], Performs.confined (performs_nothing rfl rfl rfl) rfl⟩
  | failed _ hstands => exact ⟨[], confined_abort_at hstands.1 _⟩
  | interrupted => exact ⟨[], (performs_finish _ _).confined rfl⟩
  | cancelled => exact ⟨[], (performs_finish _ _).confined rfl⟩

end Turns

end Turn

end StoryGraph
