import StoryGraph.Proofs.Play.Session
import StoryGraph.Proofs.Play.Visit

/-!
# Routes through compiled graphs

An activation visits its entrypoint first and goes on from a node to where one
of its output ports leads.  So the nodes that it has visited lie on a route
through its graph, and the limit on its steps stops it only at the next node of
that route.
-/

namespace StoryGraph

namespace CompiledGraph

/-- One node is followed by another one from an output port. -/
def Leads (graph : CompiledGraph) (nodeId next : String) : Prop :=
  ∃ node port, graph.nodes.find? nodeId = some node ∧
    node.next? port = some next

/-- A way from an entry to a node: the nodes passed on the way, in order, and
the node that comes after them. -/
inductive Route (graph : CompiledGraph) (entry : String) :
    List String → String → Prop where
  | start : Route graph entry [] entry
  | step {passed : List String} {last next : String}
    (hroute : Route graph entry passed last) (hleads : graph.Leads last next) :
    Route graph entry (passed ++ [last]) next

end CompiledGraph

/-! ## Failures of a visit -/

/-- The visit of a node does not fail for the number of steps. -/
theorem CompiledNode.code_of_visit_error {node : CompiledNode}
    {context : Context} {failure : Failure}
    (hvisit : node.visit context = .error failure) :
    failure.code ≠ "STEP_LIMIT_EXCEEDED" := by
  rw [visit] at hvisit
  split at hvisit
  · rcases Properties.visit_error hvisit with ⟨word, -, rfl⟩ | ⟨-, hcode⟩
    · simp [Failure.code]
    · rintro heq
      simp [heq] at hcode
  · cases hvisit
    simp [Failure.code]

/-! ## Activations on a route -/

namespace Activation

/-- The next node of the route, after those that the activation has visited. -/
def ComesTo (activation : Activation) (nodeId : String) : Prop :=
  activation.graph.Route activation.entry activation.visited.toList nodeId

/-- The activation has visited the nodes of a route, each a node of its
graph. -/
structure OnRoute (activation : Activation) : Prop where
  steps : activation.steps = activation.visited.size
  cursor : activation.cursor = activation.visited.toList.getLast?
  found : ∀ nodeId ∈ activation.visited.toList,
    (activation.graph.nodes.find? nodeId).isSome
  route : ∀ passed last, activation.visited.toList = passed ++ [last] →
    activation.graph.Route activation.entry passed last

/-- The state of the activation is not that the limit has stopped it. -/
def Unlimited (state : ActivationState) : Prop :=
  ∀ diagnostic, state = .aborted diagnostic →
    diagnostic.code ≠ "STEP_LIMIT_EXCEEDED"

/-- The activation is on a route, and the limit has stopped it only when it was
reached, at the next node. -/
structure Travels (limit : Nat) (activation : Activation) :
    Prop extends OnRoute activation where
  limited : ∀ diagnostic, activation.state = .aborted diagnostic →
    diagnostic.code = "STEP_LIMIT_EXCEEDED" → limit ≤ activation.steps ∧
      activation.ComesTo diagnostic.nodeId ∧
      (activation.graph.nodes.find? diagnostic.nodeId).isSome

theorem unlimited_of_diagnostic? {state : ActivationState}
    (hnone : state.diagnostic? = none) : Unlimited state := by
  rintro diagnostic rfl
  cases hnone

theorem unlimited_of_code {nodeId : String} {failure : Failure}
    (hcode : failure.code ≠ "STEP_LIMIT_EXCEEDED") :
    Unlimited (.aborted ⟨nodeId, failure⟩) := by
  intro diagnostic hstate
  cases hstate
  exact hcode

namespace OnRoute

variable {activation : Activation}

theorem withState (hroute : activation.OnRoute) (state : ActivationState) :
    (activation.withState state).OnRoute :=
  ⟨hroute.steps, hroute.cursor, hroute.found, hroute.route⟩

theorem enter (hroute : activation.OnRoute) {nodeId : String}
    (hcomes : activation.ComesTo nodeId)
    (hfound : (activation.graph.nodes.find? nodeId).isSome) :
    (activation.enter nodeId).OnRoute where
  steps := by simp [Activation.enter, hroute.steps]
  cursor := by simp [Activation.enter]
  found := by
    intro other hmem
    simp only [Activation.enter, Array.toList_push, List.mem_append,
      List.mem_singleton] at hmem
    rcases hmem with hold | rfl
    · exact hroute.found other hold
    · exact hfound
  route := by
    intro passed last hvisited
    simp only [Activation.enter, Array.toList_push] at hvisited
    obtain ⟨rfl, hlast⟩ := List.append_inj' hvisited rfl
    cases hlast
    exact hcomes

theorem travels (hroute : activation.OnRoute)
    (hunlimited : Unlimited activation.state)
    (limit : Nat) : activation.Travels limit :=
  ⟨hroute, fun diagnostic hstate hcode =>
    absurd hcode (hunlimited diagnostic hstate)⟩

/-- The activation goes on from the node where it stands. -/
theorem comesTo (hroute : activation.OnRoute) {nodeId next : String}
    {node : CompiledNode} (hstands : activation.StandsAt nodeId node)
    {port : Nat}
    (hnext : node.next? port = some next) : activation.ComesTo next := by
  have hlast : activation.visited.toList.getLast? = some nodeId :=
    hroute.cursor.symm.trans hstands.1
  obtain ⟨passed, hvisited⟩ := List.getLast?_eq_some_iff.mp hlast
  rw [ComesTo, hvisited]
  exact (hroute.route passed nodeId hvisited).step
    ⟨node, port, hstands.2, hnext⟩

end OnRoute

theorem onRoute_start (id : String) (graph : CompiledGraph) (entry : String) :
    (start id graph entry).OnRoute where
  steps := rfl
  cursor := rfl
  found := by simp [start]
  route := by simp [start]

end Activation

/-! ## Turns keep to the route -/

namespace Turn

open Activation

section Travels

variable {limit : Nat} {turn later : Turn} {call? : Option Call}

theorem Walks.travels {nodeId : String}
    (hwalks : Walks limit turn nodeId later call?)
    (hroute : turn.activation.OnRoute)
    (hcomes : turn.activation.ComesTo nodeId) :
    later.activation.Travels limit := by
  induction hwalks with
  | missing =>
    exact (hroute.withState _).travels
      (unlimited_of_code (by simp [Failure.code])) _
  | exhausted hnode hsteps =>
    refine ⟨hroute.withState _, ?_⟩
    intro diagnostic hstate _
    cases hstate
    exact ⟨hsteps, hcomes, Option.isSome_iff_exists.mpr ⟨_, hnode⟩⟩
  | ended hnode _ hvisited =>
    have henter := hroute.enter hcomes (by simp [hnode])
    cases hvisited with
    | failed hfailed =>
      exact (henter.withState _).travels
        (unlimited_of_code (CompiledNode.code_of_visit_error hfailed)) _
    | stopped =>
      exact (henter.withState _).travels (unlimited_of_diagnostic? rfl) _
    | closed =>
      exact (henter.withState _).travels (unlimited_of_diagnostic? rfl) _
  | called hnode _ hrunning hvisited =>
    have henter := hroute.enter hcomes (by simp [hnode])
    have hnone := congrArg ActivationState.diagnostic? hrunning
    cases hvisited with
    | called => exact henter.travels (unlimited_of_diagnostic? hnone) _
  | followed hnode _ hvisited _ ih =>
    have henter := hroute.enter hcomes (by simp [hnode])
    cases hvisited with
    | followed _ hnext => exact ih henter (henter.comesTo ⟨rfl, hnode⟩ hnext)

theorem abort_travels (limit : Nat) (hroute : turn.activation.OnRoute)
    (nodeId : String) {failure : Failure}
    (hcode : failure.code ≠ "STEP_LIMIT_EXCEEDED") :
    (turn.abort nodeId failure).activation.Travels limit :=
  (hroute.withState _).travels (unlimited_of_code hcode) _

theorem Responds.travels {prompt : Prompt}
    (hresponds : Responds limit turn prompt later call?)
    (htravels : turn.activation.Travels limit) :
    later.activation.Travels limit := by
  have hroute := htravels.toOnRoute
  cases hresponds with
  | ignored => exact htravels
  | lost => exact abort_travels limit hroute _ (by simp [Failure.code])
  | unreadable => exact abort_travels limit hroute _ (by simp [Failure.code])
  | continued _ _ hstands _ hnext hwalks =>
    exact hwalks.travels (hroute.withState _) (hroute.comesTo hstands hnext)
  | failed => exact abort_travels limit hroute _ (by simp [Failure.code])
  | closed =>
    exact (hroute.withState _).travels (unlimited_of_diagnostic? rfl) _
  | suspended =>
    exact (hroute.withState _).travels (unlimited_of_diagnostic? rfl) _
  | interrupted =>
    exact (hroute.withState _).travels (unlimited_of_diagnostic? rfl) _
  | cancelled =>
    exact (hroute.withState _).travels (unlimited_of_diagnostic? rfl) _

end Travels

end Turn

/-! ## Activations on a stage -/

namespace Stage

theorem entrypoint_of_entryOf {graph : CompiledGraph} {entry : Option String}
    {nodeId : String} (hentry : entryOf graph entry = .ok nodeId) :
    (graph.entrypoint? nodeId).isSome := by
  unfold entryOf at hentry
  simp only at hentry
  split at hentry
  · split at hentry
    · cases hentry
      assumption
    · cases hentry
  · cases hentry

/-- Turns keep an activation on its route, which begins at an entrypoint. -/
theorem travels_keptByTurns (limit : Nat) :
    KeptByTurns limit fun activation => activation.Travels limit ∧
      (activation.graph.entrypoint? activation.entry).isSome where
  begins := by
    intro graph entry id nodeId context later call? hentry hwalks
    refine ⟨hwalks.travels
      ((Activation.onRoute_start id graph nodeId).withState _) .start, ?_⟩
    rw [hwalks.grows.graph, hwalks.grows.entry]
    exact entrypoint_of_entryOf hentry
  responds := by
    intro turn later prompt call? _ hresponds ⟨htravels, hentry⟩
    refine ⟨hresponds.travels htravels, ?_⟩
    rw [hresponds.grows.graph, hresponds.grows.entry]
    exact hentry

theorem Reachable.travels {stage : Stage} (hreachable : stage.Reachable)
    {activation : Activation} (hmem : activation ∈ stage.activations) :
    activation.Travels stage.limit ∧
      (activation.graph.entrypoint? activation.entry).isSome :=
  hreachable.forall_activations (travels_keptByTurns stage.limit)
    activation hmem

end Stage

/-! ## The limit on visits -/

namespace Turn

section Limit

variable {limit : Nat} {turn later : Turn} {call? : Option Call}

theorem Walks.steps_le {nodeId : String}
    (hwalks : Walks limit turn nodeId later call?)
    (hsteps : turn.activation.steps ≤ limit) :
    later.activation.steps ≤ limit := by
  induction hwalks with
  | missing => exact hsteps
  | exhausted => exact hsteps
  | ended _ hless hvisited => exact hvisited.steps ▸ hless
  | called _ hless _ hvisited => exact hvisited.steps ▸ hless
  | followed _ hless hvisited _ ih => exact ih (hvisited.steps ▸ hless)

theorem Responds.steps_le {prompt : Prompt}
    (hresponds : Responds limit turn prompt later call?)
    (hsteps : turn.activation.steps ≤ limit) :
    later.activation.steps ≤ limit := by
  cases hresponds with
  | continued _ _ _ _ _ hwalks => exact hwalks.steps_le hsteps
  | _ => exact hsteps

end Limit

end Turn

namespace Stage

theorem steps_keptByTurns (limit : Nat) :
    KeptByTurns limit fun activation => activation.steps ≤ limit where
  begins _ hwalks := hwalks.steps_le (Nat.zero_le limit)
  responds _ hresponds := hresponds.steps_le

/-- No activation visits more nodes than the limit allows. -/
theorem Reachable.visited_size_le {stage : Stage} (hreachable : stage.Reachable)
    {activation : Activation} (hmem : activation ∈ stage.activations) :
    activation.visited.size ≤ stage.limit := by
  rw [← (hreachable.travels hmem).1.steps]
  exact hreachable.forall_activations (steps_keptByTurns stage.limit)
    activation hmem

end Stage

end StoryGraph
