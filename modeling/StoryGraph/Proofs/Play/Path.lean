import Mathlib.Data.List.Chain
import StoryGraph.Proofs.Play.Cause
import StoryGraph.Proofs.Play.Route

/-!
# Traces are paths

The visits of an activation make up a path through its graph: each node but the
first is the first target of a port of the node before it, and the port is one
that the kind of this node chooses from.  The path may be walked in several
turns, since a report of the host chooses a port as well.  A completed
activation has come to a node that leads no further: a trigger whose condition
was false, or a node without targets at the chosen port.
-/

namespace StoryGraph

/-! ## Ports that are chosen -/

/-- The output ports from which a node of the kind chooses. -/
def Kind.choices : Kind → List Nat
  | condition | encounter => [0, 1]
  | trigger | action | dialogue | teleport => [0]

theorem Kind.zero_mem_choices (kind : Kind) : 0 ∈ kind.choices := by
  cases kind <;> exact List.mem_cons_self

theorem Properties.mem_choices_of_visit {properties : Properties}
    {context after : Context} {port : Nat}
    (hvisit : properties.visit context = .ok (.follow port, after)) :
    port ∈ properties.kind.choices := by
  cases properties with
  | trigger properties =>
    simp only [visit] at hvisit
    split at hvisit
    · next passed _ =>
      cases passed with
      | true =>
        cases hvisit
        exact Kind.zero_mem_choices _
      | false => cases hvisit
    · cases hvisit
  | condition properties =>
    simp only [visit] at hvisit
    split at hvisit
    · next passed _ =>
      cases hvisit
      cases passed <;> simp [kind, Kind.choices]
    · cases hvisit
  | action properties =>
    simp only [visit] at hvisit
    split at hvisit
    · cases hvisit
    · next change _ =>
      cases hchange : properties.change change context with
      | error failure =>
        rw [hchange] at hvisit
        cases hvisit
      | ok changed =>
        rw [hchange] at hvisit
        cases hvisit
        exact Kind.zero_mem_choices _
    · cases hvisit
  | dialogue properties => cases hvisit
  | encounter properties => cases hvisit
  | teleport properties => cases hvisit

/-- Only a trigger stops an activation, when its condition is false. -/
theorem Properties.refused_of_visit {properties : Properties}
    {context after : Context}
    (hvisit : properties.visit context = .ok (.stop, after)) :
    ∃ trigger, properties = .trigger trigger ∧
      Trigger.evaluate trigger.condition context = .ok false := by
  cases properties with
  | trigger properties =>
    simp only [visit] at hvisit
    split at hvisit
    · next passed hevaluate =>
      cases passed with
      | true => cases hvisit
      | false => exact ⟨properties, rfl, hevaluate⟩
    · cases hvisit
  | condition properties =>
    simp only [visit] at hvisit
    split at hvisit <;> cases hvisit
  | action properties =>
    simp only [visit] at hvisit
    split at hvisit
    · cases hvisit
    · next change _ =>
      cases hchange : properties.change change context with
      | error failure =>
        rw [hchange] at hvisit
        cases hvisit
      | ok changed =>
        rw [hchange] at hvisit
        cases hvisit
    · cases hvisit
  | dialogue properties => cases hvisit
  | encounter properties => cases hvisit
  | teleport properties => cases hvisit

namespace CompiledNode

theorem mem_choices_of_visit {node : CompiledNode} {context after : Context}
    {port : Nat}
    (hvisit : node.visit context = .ok (.follow port, after)) :
    port ∈ node.kind.choices := by
  rw [visit] at hvisit
  split at hvisit
  · next hproperties =>
    rw [← Properties.kind_of_check hproperties]
    exact Properties.mem_choices_of_visit hvisit
  · cases hvisit

theorem refused_of_visit {node : CompiledNode} {context after : Context}
    (hvisit : node.visit context = .ok (.stop, after)) :
    ∃ trigger, node.properties = .accepted (.trigger trigger) ∧
      Trigger.evaluate trigger.condition context = .ok false := by
  rw [visit] at hvisit
  split at hvisit
  · next hproperties =>
    obtain ⟨trigger, rfl, hrefused⟩ := Properties.refused_of_visit hvisit
    exact ⟨trigger, hproperties, hrefused⟩
  · cases hvisit

theorem targets_eq_nil {node : CompiledNode} {port : Nat}
    (hclosed : node.next? port = none) : node.targets port = [] :=
  List.head?_eq_none_iff.mp hclosed

end CompiledNode

theorem Report.mem_choices_of_port {report : Report} {kind : Kind} {port : Nat}
    (hport : report.port kind = .accepted port) : port ∈ kind.choices := by
  unfold Report.port at hport
  split at hport
  · next hencounter =>
    subst hencounter
    cases hresult : report.toEncounter with
    | rejected issues =>
      rw [hresult] at hport
      cases hport
    | accepted result =>
      rw [hresult] at hport
      cases hport
      unfold EncounterResult.port
      split <;> simp [Kind.choices]
  · cases hport
    exact kind.zero_mem_choices

/-! ## Activations on a path -/

/-- A node is followed by the first target of one of the ports from which its
kind chooses. -/
def CompiledGraph.Passes (graph : CompiledGraph)
    (nodeId next : String) : Prop :=
  ∃ node, graph.nodes.find? nodeId = some node ∧
    ∃ port ∈ node.kind.choices, (node.targets port).head? = some next

/-- A route begins at its entry. -/
theorem CompiledGraph.Route.head? {graph : CompiledGraph} {entry last : String}
    {passed : List String} (hroute : graph.Route entry passed last) :
    (passed ++ [last]).head? = some entry := by
  induction hroute with
  | start => rfl
  | step _ _ ih => rw [List.head?_append, ih, Option.some_or]

namespace Activation

/-- The visits are a path, and the cursor is at its end. -/
structure OnPath (activation : Activation) : Prop where
  cursor : activation.cursor = activation.visited.toList.getLast?
  path : List.IsChain activation.graph.Passes activation.visited.toList

/-- The path may go on with a node. -/
def MayEnter (activation : Activation) (nodeId : String) : Prop :=
  ∀ last ∈ activation.cursor, activation.graph.Passes last nodeId

section OnPath

variable {activation : Activation} (hpath : activation.OnPath)

include hpath

theorem OnPath.withState (state : ActivationState) :
    (activation.withState state).OnPath :=
  ⟨hpath.cursor, hpath.path⟩

theorem OnPath.enter {nodeId : String} (hmay : activation.MayEnter nodeId) :
    (activation.enter nodeId).OnPath where
  cursor := by simp [Activation.enter]
  path := by
    simp only [Activation.enter, Array.toList_push]
    refine hpath.path.append (List.isChain_singleton _) ?_
    intro last hlast next hnext
    cases hnext
    exact hmay last (hpath.cursor ▸ hlast)

end OnPath

theorem StandsAt.mayEnter {activation : Activation} {nodeId next : String}
    {node : CompiledNode} {port : Nat}
    (hstands : activation.StandsAt nodeId node)
    (hchoice : port ∈ node.kind.choices)
    (hnext : node.next? port = some next) : activation.MayEnter next := by
  intro last hlast
  rw [hstands.1] at hlast
  cases hlast
  exact ⟨node, hstands.2, port, hchoice, hnext⟩

theorem onPath_start (id : String) (graph : CompiledGraph) (entry : String) :
    (start id graph entry).OnPath := ⟨rfl, List.isChain_nil⟩

end Activation

/-! ## Turns keep to the path -/

namespace Turn

open Activation

section OnPath

variable {limit : Nat} {turn later : Turn} {call? : Option Call}
variable (hpath : turn.activation.OnPath)

include hpath

theorem Walks.onPath {nodeId : String}
    (hwalks : Walks limit turn nodeId later call?)
    (hmay : turn.activation.MayEnter nodeId) : later.activation.OnPath := by
  induction hwalks with
  | missing => exact hpath.withState _
  | exhausted => exact hpath.withState _
  | ended _ _ hvisited =>
    have henter := hpath.enter hmay
    cases hvisited with
    | failed => exact henter.withState _
    | stopped => exact henter.withState _
    | closed => exact henter.withState _
  | called _ _ _ hvisited =>
    cases hvisited with
    | called => exact hpath.enter hmay
  | @followed turn _ _ nodeId _ node _ hnode _ hvisited _ ih =>
    cases hvisited with
    | followed hfollow hnext =>
      have hstands : (turn.activation.enter nodeId).StandsAt nodeId node :=
        ⟨rfl, hnode⟩
      exact ih (hpath.enter hmay)
        (hstands.mayEnter (CompiledNode.mem_choices_of_visit hfollow) hnext)

theorem Responds.onPath {prompt : Prompt}
    (hresponds : Responds limit turn prompt later call?) :
    later.activation.OnPath := by
  cases hresponds with
  | ignored => exact hpath
  | continued _ _ hstands hport hnext hwalks =>
    exact Walks.onPath (hpath.withState .running) hwalks
      (hstands.mayEnter (Report.mem_choices_of_port hport) hnext)
  | _ => exact hpath.withState _

end OnPath

end Turn

namespace Stage

open Activation Deed

theorem onPath_keptByTurns (limit : Nat) : KeptByTurns limit OnPath where
  begins {_ _ id nodeId _ _ _} _ hwalks :=
    Turn.Walks.onPath ((onPath_start id _ nodeId).withState _) hwalks
      (by simp [MayEnter, Activation.start, Activation.withState])
  responds _ hresponds hpath := hresponds.onPath hpath

/-! ## Where a path ends -/

/-- Why a completed activation has gone no further than to a node.  At its last
visit, in the context to which the earlier deeds of the session led, the
condition of the trigger was false, or the visit chose a port without targets;
or the host reported on the node later, and the report chose such a port. -/
inductive Completes (start : Stage) (events : List Event)
    (activation : Activation) (nodeId : String)
    (node : CompiledNode) : Prop where
  | refused {earlier : List Deed} {trigger : TriggerProperties}
    (hlast : LastVisit (chronicle events start) earlier activation nodeId)
    (htrigger : node.properties = .accepted (.trigger trigger))
    (hrefused : Trigger.evaluate trigger.condition
      (replay earlier start.context) = .ok false) :
    Completes start events activation nodeId node
  | visited {earlier : List Deed} {port : Nat} {after : Context}
    (hlast : LastVisit (chronicle events start) earlier activation nodeId)
    (hvisit : node.visit (replay earlier start.context) =
      .ok (.follow port, after)) (hclosed : node.targets port = []) :
    Completes start events activation nodeId node
  | reported {before rest : List Event} {event : Event} {report : Report}
    {earlier : Activation} {port : Nat}
    (hevents : events = before ++ event :: rest)
    (hstarted : (session before start).1.started? earlier.id = some earlier)
    (hstands : earlier.StandsAt nodeId node)
    (hhears : earlier.Hears event report)
    (hport : report.port node.kind = .accepted port)
    (hclosed : node.targets port = [])
    (hcompleted : activation = earlier.withState .completed) :
    Completes start events activation nodeId node

theorem Cause.completes {start : Stage} {events : List Event}
    {activation : Activation}
    (hcause : start.Cause events (chronicle events start) activation)
    (hpath : activation.OnPath) (hcompleted : activation.state = .completed) :
    ∃ nodeId node, activation.StandsAt nodeId node ∧
      start.Completes events activation nodeId node := by
  cases hcause with
  | @visit earlier nodeId node hlast hnode hends =>
    have hstands : activation.StandsAt nodeId node :=
      ⟨by rw [hpath.cursor, hlast.visited, List.getLast?_concat], hnode⟩
    rw [hcompleted] at hends
    refine ⟨nodeId, node, hstands, ?_⟩
    cases hends with
    | stopped hvisit =>
      obtain ⟨trigger, htrigger, hrefused⟩ :=
        CompiledNode.refused_of_visit hvisit
      exact .refused hlast htrigger hrefused
    | closed hvisit hclosed =>
      exact .visited hlast hvisit (CompiledNode.targets_eq_nil hclosed)
  | blocked hbefore hstate => cases hcompleted.symm.trans hstate
  | host hevents hstarted hopen hended =>
    cases hended with
    | closed hhears hlive hstands hport hclosed =>
      exact ⟨_, _, hstands, .reported hevents hstarted hstands hhears hport
        (CompiledNode.targets_eq_nil hclosed) rfl⟩
    | unreadable => cases hcompleted
    | failed => cases hcompleted
    | cancelled => cases hcompleted
    | interrupted => cases hcompleted

/-- In every session the visits of an activation are a path through its graph,
from its entrypoint and no longer than the limit, and its cursor is where the
path ends.  A completed activation has come to the end of its way. -/
theorem traces_are_paths (limit : Nat) (supported : String) (context : Context)
    (events : List Event) {activation : Activation}
    (hmem : activation ∈
      (session events (initial limit supported context)).1.activations) :
    activation.steps = activation.visited.size ∧ activation.steps ≤ limit ∧
    activation.cursor = activation.visited.toList.getLast? ∧
    (∀ nodeId ∈ activation.visited.toList,
      (activation.graph.nodes.find? nodeId).isSome) ∧
    (∀ first ∈ activation.visited.toList.head?, first = activation.entry) ∧
    List.IsChain activation.graph.Passes activation.visited.toList ∧
    (activation.state = .completed →
      ∃ nodeId node, activation.StandsAt nodeId node ∧
      (initial limit supported context).Completes events activation
        nodeId node) := by
  have hreachable :
      (session events (initial limit supported context)).1.Reachable :=
    ⟨limit, supported, context, events, rfl⟩
  have hlimit :
      (session events (initial limit supported context)).1.limit = limit :=
    (session_reaches events _).limit
  have htravels := (hreachable.travels hmem).1
  have hpath :=
    hreachable.forall_activations (onPath_keptByTurns _) activation hmem
  refine ⟨htravels.steps, ?_, hpath.cursor, htravels.found, ?_, hpath.path, ?_⟩
  · rw [htravels.steps, ← hlimit]
    exact hreachable.visited_size_le hmem
  · intro first hfirst
    rcases List.eq_nil_or_concat' activation.visited.toList with
      hnone | ⟨passed, last, hvisited⟩
    · rw [hnone] at hfirst
      cases hfirst
    · rw [hvisited, (htravels.route passed last hvisited).head?] at hfirst
      exact (Option.some.inj hfirst).symm
  · intro hcompleted
    have hended : activation.isLive = false := by rw [isLive, hcompleted]; rfl
    exact ((session_explains limit supported context events).causes
      activation hmem hended).completes hpath hcompleted

/-- A watchman who meets something wild each night.  Ports that the kinds do not
have, and targets that are not the first, lead to a node that does not exist. -/
def patrol : CompiledGraph :=
  ⟨"patrol", "", some "entry", [⟨"entry", "player_enter", "always"⟩],
    ⟨[("entry", ⟨.trigger, .empty, [["watch", "ghost"], ["ghost"]]⟩),
      ("watch", ⟨.condition,
        ⟨[("conditionType", .str "flag"), ("key", .str "night"),
          ("operator", .str "truthy")], by decide⟩, [["wild"]]⟩),
      ("wild", ⟨.encounter, .empty, [[], ["watch"], ["ghost"]]⟩)],
      by decide⟩,
    ambush.metadata⟩

/-- The first encounter ends in a battle, and the second one is put off until
the creature is caught. -/
def patrolling : List Event :=
  [.activate patrol none,
    .answer "act_1" (.reported (.encounter ⟨false, false⟩)),
    .answer "act_1" .deferred, .resume "act_1" (.encounter ⟨true, false⟩)]

/-- A stage at night. -/
def night : Stage := initial 256 ">=1.0" (Context.empty.setFlag "night" true)

theorem patrol_is_path :
    ∃ activation ∈ (session patrolling night).1.activations,
      activation.visited = #["entry", "watch", "wild", "watch", "wild"] ∧
      List.IsChain patrol.Passes activation.visited.toList ∧
      ∃ nodeId node, activation.StandsAt nodeId node ∧
        night.Completes patrolling activation nodeId node := by
  have hends : ∃ activation ∈ (session patrolling night).1.activations,
      activation.graph = patrol ∧ activation.state = .completed ∧
      activation.visited = #["entry", "watch", "wild", "watch", "wild"] := by
    decide +kernel
  obtain ⟨activation, hmem, hgraph, hcompleted, hvisited⟩ := hends
  obtain ⟨-, -, -, -, -, hpath, hcompletes⟩ := traces_are_paths 256 ">=1.0"
    (Context.empty.setFlag "night" true) patrolling hmem
  rw [hgraph] at hpath
  exact ⟨activation, hmem, hvisited, hpath, hcompletes hcompleted⟩

end Stage

end StoryGraph
