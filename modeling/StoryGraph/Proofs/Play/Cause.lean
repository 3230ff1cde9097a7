import Mathlib.Data.List.Induction
import StoryGraph.Proofs.Play.Chronicle

/-!
# Why activations end

An activation ends for one of three causes: its last visit fails or leads
nowhere; the step after its visits finds no node or no visits left; or the host
says something about the node where it stands, or cancels it.  Every activation
of a session that has ended has such a cause in the chronicle or among the
events of the session, and the cause says in which context its last visit was
made.
-/

namespace StoryGraph

/-! ## Visits that end an activation -/

namespace CompiledNode

/-- The visit of the node in a context ends an activation in a state. -/
inductive Ends (node : CompiledNode) (nodeId : String) (context : Context) :
    ActivationState → Prop where
  | failed {failure : Failure} (hvisit : node.visit context = .error failure) :
    Ends node nodeId context (.aborted ⟨nodeId, failure⟩)
  | stopped {after : Context}
    (hvisit : node.visit context = .ok (.stop, after)) :
    Ends node nodeId context .completed
  | closed {port : Nat} {after : Context}
    (hvisit : node.visit context = .ok (.follow port, after))
    (hclosed : node.next? port = none) : Ends node nodeId context .completed

/-- A visit does not depend on the activations that are under way. -/
theorem visit_of_content (node : CompiledNode) {context other : Context}
    (hcontent : context.content = other.content) :
    node.visit other = (node.visit context).map fun result =>
      (result.1, { result.2 with activeEvents := other.activeEvents }) := by
  rw [Context.eq_of_content hcontent, visit, visit]
  cases node.properties with
  | accepted properties =>
    exact properties.visit_activeEvents context other.activeEvents
  | rejected issues => rfl

theorem failed_of_content {node : CompiledNode} {context other : Context}
    {failure : Failure} (hfailed : node.visit context = .error failure)
    (hcontent : context.content = other.content) :
    node.visit other = .error failure := by
  rw [node.visit_of_content hcontent, hfailed]
  rfl

theorem Ends.of_content {node : CompiledNode} {nodeId : String}
    {context other : Context} {state : ActivationState}
    (hends : node.Ends nodeId context state)
    (hcontent : context.content = other.content) :
    node.Ends nodeId other state := by
  have hsame := node.visit_of_content hcontent
  cases hends with
  | failed hvisit => exact .failed (failed_of_content hvisit hcontent)
  | stopped hvisit =>
    rw [hvisit] at hsame
    exact .stopped hsame
  | closed hvisit hclosed =>
    rw [hvisit] at hsame
    exact .closed hsame hclosed

end CompiledNode

namespace Turn

open Activation

/-- The visits of a turn, or the step after them, end its activation in a
state. -/
inductive Exhausts (turn : Turn) : List String → ActivationState → Prop where
  | visit {earlier : List String} {nodeId : String} {node : CompiledNode}
    {state : ActivationState}
    (hnode : turn.activation.graph.nodes.find? nodeId = some node)
    (hends : node.Ends nodeId
      (turn.activation.graph.replay earlier turn.context) state) :
    Exhausts turn (earlier ++ [nodeId]) state
  | blocked {fresh : List String} {nodeId : String} {failure : Failure}
    (hbefore : failure.beforeVisit = true) :
    Exhausts turn fresh (.aborted ⟨nodeId, failure⟩)

/-- More visits come first. -/
theorem Exhausts.after {turn later : Turn} {visits fresh : List String}
    {state : ActivationState} (hexhausts : later.Exhausts fresh state)
    (hperforms : turn.Performs later none visits) :
    turn.Exhausts (visits ++ fresh) state := by
  cases hexhausts with
  | visit hnode hends =>
    rw [hperforms.graph] at hnode hends
    rw [← List.append_assoc]
    refine .visit hnode (hends.of_content ?_)
    rw [CompiledGraph.replay_append]
    exact CompiledGraph.content_replay _ _ hperforms.content
  | blocked hbefore => exact .blocked hbefore

/-- The visit of one node, if it ends the activation. -/
theorem Visited.exhausts {turn later : Turn} {nodeId : String}
    {node : CompiledNode} (hvisited : Visited turn nodeId node later .nowhere)
    (hnode : turn.activation.graph.nodes.find? nodeId = some node) :
    turn.Exhausts [nodeId] later.activation.state := by
  have hends : node.Ends nodeId (turn.activation.graph.replay [] turn.context)
      later.activation.state := by
    cases hvisited with
    | failed hvisit => exact .failed hvisit
    | stopped hvisit => exact .stopped hvisit
    | closed hvisit hclosed => exact .closed hvisit hclosed
  exact .visit hnode hends

/-- If one of the visits fails, its failure is the end of the activation. -/
def Surfaces (turn : Turn) (fresh : List String)
    (state : ActivationState) : Prop :=
  ∀ before nodeId rest node failure, fresh = before ++ nodeId :: rest →
    turn.activation.graph.nodes.find? nodeId = some node →
    node.visit (turn.activation.graph.replay before turn.context) =
      .error failure →
    state = .aborted ⟨nodeId, failure⟩

theorem surfaces_nothing (turn : Turn)
    (state : ActivationState) : turn.Surfaces [] state := by
  intro before nodeId rest node failure hnone
  simp at hnone

/-- The visit of one node, whether it fails or not. -/
theorem Visited.surfaces {turn later : Turn} {nodeId : String}
    {node : CompiledNode} {destination : Destination}
    (hvisited : Visited turn nodeId node later destination)
    (hnode : turn.activation.graph.nodes.find? nodeId = some node) :
    turn.Surfaces [nodeId] later.activation.state := by
  intro before failing rest found failure hfresh hfound hfailed
  cases before with
  | cons other before => simp at hfresh
  | nil =>
    obtain ⟨rfl, -⟩ := List.cons.inj hfresh
    rw [hnode] at hfound
    cases hfound
    have hfailed : node.visit turn.context = .error failure := hfailed
    cases hvisited with
    | failed hvisit =>
      cases hvisit.symm.trans hfailed
      rfl
    | stopped hvisit => cases hvisit.symm.trans hfailed
    | called hvisit => cases hvisit.symm.trans hfailed
    | closed hvisit => cases hvisit.symm.trans hfailed
    | followed hvisit => cases hvisit.symm.trans hfailed

/-- A visit that is followed by others does not fail. -/
theorem Surfaces.cons {turn later : Turn} {nodeId next : String}
    {node : CompiledNode} {fresh : List String} {state : ActivationState}
    (hsurfaces : later.Surfaces fresh state)
    (hvisited : Visited turn nodeId node later (.node next))
    (hnode : turn.activation.graph.nodes.find? nodeId = some node) :
    turn.Surfaces (nodeId :: fresh) state := by
  have hperforms := hvisited.performs hnode
  intro before failing rest found failure hfresh hfound hfailed
  cases before with
  | nil =>
    obtain ⟨rfl, -⟩ := List.cons.inj hfresh
    rw [hnode] at hfound
    cases hfound
    cases hvisited with
    | followed hvisit => cases hvisit.symm.trans hfailed
  | cons first before =>
    obtain ⟨rfl, hrest⟩ := List.cons.inj hfresh
    rw [← hperforms.graph] at hfound
    apply hsurfaces before failing rest found failure hrest hfound
    rw [hperforms.graph]
    exact CompiledNode.failed_of_content hfailed
      (CompiledGraph.content_replay _ before hperforms.content.symm)

/-- A turn performs some visits.  If the activation has ended afterwards, they
have ended it, and if one of them has failed, this is why. -/
structure Concludes (turn later : Turn) (call? : Option Call)
    (fresh : List String) : Prop
    extends turn.Performs later call? fresh where
  exhausts : later.activation.isLive = false →
    turn.Exhausts fresh later.activation.state
  surfaces : turn.Surfaces fresh later.activation.state

theorem concludes_abort (turn : Turn) (nodeId : String) {failure : Failure}
    (hbefore : failure.beforeVisit = true) :
    turn.Concludes (turn.abort nodeId failure) none [] where
  toPerforms := performs_abort _ _ _
  exhausts _ := .blocked hbefore
  surfaces := turn.surfaces_nothing _

section Concludes

variable {limit : Nat} {turn later : Turn} {nodeId : String}
  {call? : Option Call}

theorem Walks.concludes (hwalks : Walks limit turn nodeId later call?) :
    ∃ fresh, turn.Concludes later call? fresh := by
  induction hwalks with
  | missing => exact ⟨[], concludes_abort _ _ rfl⟩
  | exhausted => exact ⟨[], concludes_abort _ _ rfl⟩
  | @ended _ _ nodeId _ hnode _ hvisited =>
    exact ⟨[nodeId], hvisited.performs hnode, fun _ => hvisited.exhausts hnode,
      hvisited.surfaces hnode⟩
  | @called _ _ nodeId _ _ hnode _ hrunning hvisited =>
    refine ⟨[nodeId], hvisited.performs hnode, fun hended => ?_,
      hvisited.surfaces hnode⟩
    rw [isLive, hrunning] at hended
    cases hended
  | @followed _ _ _ nodeId _ _ _ hnode _ hvisited _ ih =>
    have hperforms := hvisited.performs hnode
    obtain ⟨fresh, hrest⟩ := ih
    exact ⟨nodeId :: fresh, hperforms.trans hrest.toPerforms, fun hended =>
      (hrest.exhausts hended).after hperforms,
        hrest.surfaces.cons hvisited hnode⟩

/-- The activation goes on from the state in which it was. -/
theorem Walks.concludes_of_running
    (hwalks : Walks limit ⟨turn.context, turn.activation.withState .running⟩
      nodeId later call?) : ∃ fresh, turn.Concludes later call? fresh := by
  have hrunning :
      turn.Performs ⟨turn.context, turn.activation.withState .running⟩ none
        [] :=
    performs_nothing rfl rfl rfl
  obtain ⟨fresh, hconcludes⟩ := hwalks.concludes
  exact ⟨fresh, hrunning.trans hconcludes.toPerforms,
    fun hended => (hconcludes.exhausts hended).after hrunning,
      hconcludes.surfaces⟩

end Concludes

end Turn

/-! ## What the host says -/

namespace Activation

/-- An event reports on the node where the activation stands. -/
inductive Hears (activation : Activation) : Event → Report → Prop where
  | answer {report : Report}
    (hstate : activation.state = .running ∨ activation.state = .cancelled) :
    Hears activation (.answer activation.id (.reported report)) report
  | resume {report : Report} (hstate : activation.state = .suspended) :
    Hears activation (.resume activation.id report) report

/-- An event ends the activation, as it says: its report leads to no node or
cannot be read, the host has failed, or the activation or its task is
cancelled. -/
inductive EndedBy (activation : Activation) : Event → Activation → Prop where
  | closed {event : Event} {report : Report} {nodeId : String}
    {node : CompiledNode} {port : Nat} (hhears : activation.Hears event report)
    (hlive : activation.isLive = true)
    (hstands : activation.StandsAt nodeId node)
    (hport : report.port node.kind = .accepted port)
    (hclosed : node.next? port = none) :
    EndedBy activation event (activation.withState .completed)
  | unreadable {event : Event} {report : Report} {nodeId : String}
    {node : CompiledNode} {issues : List Issue}
    (hhears : activation.Hears event report)
    (hstands : activation.StandsAt nodeId node)
    (hport : report.port node.kind = .rejected issues) :
    EndedBy activation event
      (activation.withState (.aborted ⟨nodeId, .invalidReport issues⟩))
  | failed {kind text nodeId : String} {node : CompiledNode}
    (hrunning : activation.state = .running)
    (hstands : activation.StandsAt nodeId node) :
    EndedBy activation (.answer activation.id (.failed kind text))
      (activation.withState (.aborted ⟨nodeId, .host kind text⟩))
  | cancelled (hlive : activation.isLive = true) :
    EndedBy activation (.cancel activation.id) (activation.withState .cancelled)
  | interrupted {text : String} (hlive : activation.isLive = true) :
    EndedBy activation (.answer activation.id (.interrupted text))
      (activation.withState .cancelled)

end Activation

namespace Turn

open Activation

/-- A turn performs some visits.  If the activation has ended afterwards, it had
ended before, or the visits have ended it, or the event has. -/
structure Resolves (turn : Turn) (event : Event) (later : Turn)
    (call? : Option Call) (fresh : List String) :
    Prop extends turn.Performs later call? fresh where
  ended : later.activation.isLive = false → later.activation = turn.activation ∨
    turn.Exhausts fresh later.activation.state ∨
      turn.activation.EndedBy event later.activation
  surfaces : turn.Surfaces fresh later.activation.state

variable {turn : Turn} {event : Event}

theorem resolves_self (event : Event) : turn.Resolves event turn none [] where
  toPerforms := .refl turn
  ended _ := .inl rfl
  surfaces := turn.surfaces_nothing _

theorem Concludes.resolves {later : Turn} {call? : Option Call}
    {fresh : List String} (hconcludes : turn.Concludes later call? fresh)
    (event : Event) : turn.Resolves event later call? fresh where
  toPerforms := hconcludes.toPerforms
  ended hended := .inr (.inl (hconcludes.exhausts hended))
  surfaces := hconcludes.surfaces

/-- The event has ended the activation in a state. -/
theorem resolves_finish {state : ActivationState}
    (hended : turn.activation.EndedBy event (turn.activation.withState state)) :
    turn.Resolves event (turn.finish state) none [] where
  toPerforms := performs_finish _ _
  ended _ := .inr (.inr hended)
  surfaces := turn.surfaces_nothing _

theorem Notices.hears {prompt : Prompt} {report : Report}
    (hnotices : turn.Notices prompt) (hdue : turn.IsDue prompt)
    (hreport : prompt.report? = some report) :
    turn.activation.Hears (prompt.event turn.activation.id) report := by
  cases hnotices with
  | resume hsuspended =>
    cases hreport
    exact .resume hsuspended
  | @answer answer =>
    cases answer with
    | reported told =>
      cases hreport
      exact .answer hdue.1
    | _ => cases hreport

theorem Responds.resolves {limit : Nat} {prompt : Prompt} {later : Turn}
    {call? : Option Call} (hresponds : Responds limit turn prompt later call?)
    (hdue : turn.IsDue prompt) :
    ∃ fresh, turn.Resolves (prompt.event turn.activation.id) later
      call? fresh := by
  cases hresponds with
  | ignored => exact ⟨[], resolves_self _⟩
  | lost => exact ⟨[], (concludes_abort _ _ rfl).resolves _⟩
  | unreadable hnotices hreport hstands hport =>
    exact ⟨[],
      resolves_finish (.unreadable (hnotices.hears hdue hreport) hstands hport)⟩
  | closed hacts hreport hstands hport hclosed =>
    have hhears := (hacts.notices hreport).hears hdue hreport
    exact ⟨[],
      resolves_finish (.closed hhears hacts.isLive hstands hport hclosed)⟩
  | continued _ _ _ _ _ hwalks =>
    exact hwalks.concludes_of_running.imp fun _ hconcludes =>
      hconcludes.resolves _
  | suspended =>
    exact ⟨[], performs_nothing rfl rfl rfl, fun hended => (by cases hended),
      turn.surfaces_nothing _⟩
  | failed hlive hstands =>
    exact ⟨[], resolves_finish (.failed (hdue.running hlive) hstands)⟩
  | interrupted hlive => exact ⟨[], resolves_finish (.interrupted hlive)⟩
  | cancelled hlive => exact ⟨[], resolves_finish (.cancelled hlive)⟩

end Turn

namespace Stage

open Activation Deed

/-! ## Causes in a session -/

/-- An activation has made its last visit after some of the deeds, the earlier
ones. -/
structure LastVisit (deeds earlier : List Deed) (activation : Activation)
    (nodeId : String) : Prop where
  made : ∃ later, deeds = earlier ++
    .visit activation.id activation.graph nodeId :: later
  visited : activation.visited.toList =
    earlier.filterMap (visitBy? activation.id) ++ [nodeId]

theorem LastVisit.extend {deeds earlier : List Deed} {activation : Activation}
    {nodeId : String} (hlast : LastVisit deeds earlier activation nodeId)
    (more : List Deed) :
    LastVisit (deeds ++ more) earlier activation nodeId where
  made := by
    obtain ⟨later, rfl⟩ := hlast.made
    exact ⟨later ++ more, List.append_assoc _ _ _⟩
  visited := hlast.visited

/-- Why an activation has ended, after some events and deeds from the start of a
session: its last visit has ended it, in the context to which the earlier deeds
lead; or the step after its visits could not be made; or one of the events has
ended it, which is the answer to a call only if the activation was awaiting
one. -/
inductive Cause (start : Stage) (events : List Event) (deeds : List Deed)
    (activation : Activation) : Prop where
  | visit {earlier : List Deed} {nodeId : String} {node : CompiledNode}
    (hlast : LastVisit deeds earlier activation nodeId)
    (hnode : activation.graph.nodes.find? nodeId = some node)
    (hends : node.Ends nodeId (replay earlier start.context) activation.state)
  | blocked {nodeId : String} {failure : Failure}
    (hbefore : failure.beforeVisit = true)
    (hstate : activation.state = .aborted ⟨nodeId, failure⟩)
  | host {before rest : List Event} {event : Event} {earlier : Activation}
    (hevents : events = before ++ event :: rest)
    (hstarted : (session before start).1.started? earlier.id = some earlier)
    (hopen : ∀ answer, event = .answer earlier.id answer →
      earlier.id ∈ (session before start).1.tasks.map Task.activationId)
    (hended : earlier.EndedBy event activation)

/-- Later events and deeds do not matter. -/
theorem Cause.extend {start : Stage} {events : List Event} {deeds : List Deed}
    {activation : Activation} (hcause : start.Cause events deeds activation)
    (laterEvents : List Event) (laterDeeds : List Deed) :
    start.Cause (events ++ laterEvents) (deeds ++ laterDeeds) activation := by
  cases hcause with
  | visit hlast hnode hends =>
    exact .visit (hlast.extend laterDeeds) hnode hends
  | blocked hbefore hstate => exact .blocked hbefore hstate
  | host hevents hstarted hopen hended =>
    subst hevents
    exact .host (List.append_assoc _ _ _) hstarted hopen hended

/-- A deed of two stretches of a chronicle stands in the second or in the
first. -/
theorem split_stretches {first second earlier later : List Deed} {deed : Deed}
    (hdeeds : first ++ second = earlier ++ deed :: later) :
    (∃ before, earlier = first ++ before ∧ second = before ++ deed :: later) ∨
      ∃ rest, first = earlier ++ deed :: rest := by
  rcases List.append_eq_append_iff.mp hdeeds with
    ⟨before, hearlier, hsecond⟩ | ⟨rest, hfirst, hsecond⟩
  · exact .inl ⟨before, hearlier, hsecond⟩
  · cases rest with
    | nil =>
      rw [List.append_nil] at hfirst
      exact .inl ⟨[], by rw [hfirst, List.append_nil], hsecond.symm⟩
    | cons other rest =>
      obtain ⟨rfl, -⟩ := List.cons.inj hsecond
      exact .inr ⟨rest, hfirst⟩

/-- The deeds account for everything since the start, every activation that has
ended has a cause, and every visit that has failed is one. -/
structure Explains (start : Stage) (events : List Event) (deeds : List Deed)
    (stage : Stage) : Prop where
  accounts : ∃ made, start.Accounts deeds made stage
  causes : ∀ activation ∈ stage.activations, activation.isLive = false →
    start.Cause events deeds activation
  surfaces : ∀ earlier id graph nodeId later node failure,
    deeds = earlier ++ .visit id graph nodeId :: later →
      graph.nodes.find? nodeId = some node →
    node.visit (replay earlier start.context) = .error failure →
    ∃ activation, stage.started? id = some activation ∧
      activation.state = .aborted ⟨nodeId, failure⟩

section Explains

variable {limit : Nat} {supported : String} {context : Context}
variable {events : List Event} {deeds : List Deed} {stage : Stage}
variable (hexplains : (initial limit supported context).Explains events
  deeds stage)
  (horderly : stage.Orderly)

include hexplains

theorem Explains.extend (later : List Event) :
    (initial limit supported context).Explains (events ++ later)
      deeds stage where
  accounts := hexplains.accounts
  causes activation hmem hended := by
    have hcause := (hexplains.causes activation hmem hended).extend later []
    rwa [List.append_nil] at hcause
  surfaces := hexplains.surfaces

/-- Tasks, ids and what is forgotten do not matter. -/
theorem Explains.of_same {other : Stage}
    (hactivations : other.activations = stage.activations)
    (hcontext : other.context = stage.context) :
    (initial limit supported context).Explains events deeds other where
  accounts := by
    obtain ⟨made, haccounts⟩ := hexplains.accounts
    exact ⟨made, haccounts.of_same hactivations hcontext⟩
  causes := by
    rw [hactivations]
    exact hexplains.causes
  surfaces := by
    simp only [started?, hactivations]
    exact hexplains.surfaces

/-- A visit of a turn that fails aborts the activation. -/
theorem Explains.surfaces_visits {activation : Activation} {fresh : List String}
    {state : ActivationState}
    (hsurfaces : Turn.Surfaces ⟨stage.context, activation⟩ fresh state)
    {before rest : List Deed} {id nodeId : String} {graph : CompiledGraph}
    {node : CompiledNode} {failure : Failure}
    (hvisits : visits activation.id activation.graph fresh = before ++
      .visit id graph nodeId :: rest)
    (hnode : graph.nodes.find? nodeId = some node)
    (hfailed : node.visit (replay (deeds ++ before) context) = .error failure) :
    id = activation.id ∧ state = .aborted ⟨nodeId, failure⟩ := by
  obtain ⟨made, haccounts⟩ := hexplains.accounts
  obtain ⟨visited, others, rfl, rfl, hothers⟩ :=
    List.map_eq_append_iff.mp hvisits
  obtain ⟨failing, more, rfl, hfailing, -⟩ := List.map_eq_cons_iff.mp hothers
  cases hfailing
  refine ⟨rfl, hsurfaces visited nodeId more node failure rfl hnode ?_⟩
  refine CompiledNode.failed_of_content hfailed ?_
  have hvisited : List.map (visit activation.id activation.graph) visited =
      visits activation.id activation.graph visited := rfl
  rw [hvisited, replay_append, replay_visits]
  exact (CompiledGraph.content_replay _ _ haccounts.content).symm

include horderly

/-- Visits that end the activation which makes them are the cause of its end. -/
theorem Explains.cause_of_exhausts {activation : Activation}
    (hmem : activation ∈ stage.activations) {later : Activation}
    {fresh : List String} (hcontinues : activation.Continues later)
    (hvisited : later.visited.toList = activation.visited.toList ++ fresh)
    (hexhausts : Turn.Exhausts ⟨stage.context, activation⟩ fresh later.state) :
    (initial limit supported context).Cause events
      (deeds ++ visits activation.id activation.graph fresh) later := by
  obtain ⟨made, haccounts⟩ := hexplains.accounts
  generalize hstate : later.state = state at hexhausts
  cases hexhausts with
  | @visit earlier nodeId node _ hnode hends =>
    -- The chronicle up to the last visit leads to the context in which it is
    -- made.
    refine @Cause.visit
      _ _ _ _ (deeds ++ visits activation.id activation.graph earlier) nodeId
      node ⟨⟨[], ?_⟩, ?_⟩ ?_ ?_
    · rw [hcontinues.id, hcontinues.graph, List.append_assoc, visits, visits,
        List.map_append]
      rfl
    · rw [hcontinues.id, List.filterMap_append,
        haccounts.visits_of_mem horderly hmem, filterMap_visitBy?_visits,
        if_pos rfl, hvisited, List.append_assoc]
    · rw [hcontinues.graph]
      exact hnode
    · rw [hstate]
      refine hends.of_content ?_
      rw [replay_append, replay_visits]
      exact CompiledGraph.content_replay _ _ haccounts.content
  | blocked hbefore => exact .blocked hbefore hstate

/-- The turn of an activation is explained by its visits. -/
theorem Explains.advance (firing? : Option Firing) {activation : Activation}
    {turn : Turn → Turn × Option Call} {fresh : List String}
    (hstarted : stage.started? activation.id = some activation)
    (hcontinues : activation.Continues
      (turn ⟨stage.context, activation⟩).1.activation)
    (hperforms : Turn.Performs ⟨stage.context, activation⟩
      (turn ⟨stage.context, activation⟩).1
      (turn ⟨stage.context, activation⟩).2 fresh)
    (hended : (turn ⟨stage.context, activation⟩).1.activation.isLive = false →
      (turn ⟨stage.context, activation⟩).1.activation = activation ∨
        Turn.Exhausts ⟨stage.context, activation⟩ fresh
          (turn ⟨stage.context, activation⟩).1.activation.state ∨
          (initial limit supported context).Cause events deeds
            (turn ⟨stage.context, activation⟩).1.activation)
    (hsurfaces : Turn.Surfaces ⟨stage.context, activation⟩ fresh
      (turn ⟨stage.context, activation⟩).1.activation.state)
    (haborted : ∀ diagnostic, activation.state = .aborted diagnostic →
      (turn ⟨stage.context, activation⟩).1.activation = activation) :
    (initial limit supported context).Explains events
      (deeds ++ visits activation.id activation.graph fresh)
      (stage.advance firing? activation turn) where
  accounts := by
    obtain ⟨made, haccounts⟩ := hexplains.accounts
    exact ⟨_,
      haccounts.trans (advance_accounts firing? hstarted hcontinues hperforms)⟩
  causes := by
    have hmem := List.mem_of_find?_eq_some hstarted
    have hextend {other : Activation}
        (hcause : (initial limit supported context).Cause events deeds other) :
        (initial limit supported context).Cause events
          (deeds ++ visits activation.id activation.graph fresh) other := by
      have hmore :=
        hcause.extend [] (visits activation.id activation.graph fresh)
      rwa [List.append_nil] at hmore
    intro other hother hover
    rcases mem_advance firing? activation turn stage hother with rfl | ⟨hold, -⟩
    · rcases hended hover with hsame | hexhausts | hcause
      · rw [hsame] at hover ⊢
        exact hextend (hexplains.causes activation hmem hover)
      · exact hexplains.cause_of_exhausts horderly hmem hcontinues
          hperforms.visited hexhausts
      · exact hextend hcause
    · exact hextend (hexplains.causes other hold hover)
  surfaces := by
    have hself := started?_advance_self firing? hstarted hcontinues
    intro earlier id graph nodeId later node failure hdeeds hnode hfailed
    rcases split_stretches hdeeds with ⟨before, rfl, hvisits⟩ | ⟨rest, hold⟩
    · obtain ⟨rfl, hstate⟩ :=
        hexplains.surfaces_visits hsurfaces hvisits hnode hfailed
      exact ⟨_, hself, hstate⟩
    · obtain ⟨found, hfound, hstate⟩ :=
        hexplains.surfaces earlier id graph nodeId rest node failure hold hnode
          hfailed
      by_cases hid : id = activation.id
      · subst hid
        rw [hstarted] at hfound
        cases hfound
        exact ⟨_, hself, by rw [haborted _ hstate, hstate]⟩
      · exact ⟨found, (started?_advance_other firing? hid hcontinues).trans
          hfound, hstate⟩

/-- A new activation that has ended at once is explained by its visits. -/
theorem Explains.begin (firing? : Option Firing) (graph : CompiledGraph)
    (nodeId : String) :
    ∃ fresh, Turn.Performs
        ⟨(stage.enroll graph nodeId).1.context, (stage.enroll graph nodeId).2⟩
        (stage.firstTurn graph nodeId).1
        (stage.firstTurn graph nodeId).2 fresh ∧
      (initial limit supported context).Explains events
        (deeds ++ visits (stage.enroll graph nodeId).2.id graph fresh)
        (stage.begin firing? graph nodeId) := by
  obtain ⟨fresh, hconcludes⟩ := (Turn.continueAt_walks stage.limit nodeId
    ⟨(stage.enroll graph nodeId).1.context,
      (stage.enroll graph nodeId).2⟩).concludes_of_running
  have henrolled : (initial limit supported context).Explains events deeds
      (stage.enroll graph nodeId).1 := by
    obtain ⟨made, haccounts⟩ := hexplains.accounts
    have hafter := haccounts.trans (enroll_accounts graph nodeId)
    rw [List.append_nil] at hafter
    refine ⟨⟨_, hafter⟩, ?_, ?_⟩
    · intro activation hmem hended
      rcases List.mem_append.mp hmem with hold | hnew
      · exact hexplains.causes activation hold hended
      · rw [List.mem_singleton.mp hnew] at hended
        cases hended
    · intro earlier id visited failing later node failure hdeeds hnode hfailed
      obtain ⟨found, hfound, hstate⟩ :=
        hexplains.surfaces earlier id visited failing later node failure hdeeds
          hnode hfailed
      exact ⟨found, by rw [started?_enroll, hfound, Option.some_or], hstate⟩
  exact ⟨fresh, hconcludes.toPerforms,
    henrolled.advance (horderly.enroll graph nodeId) firing?
    (horderly.started?_enroll_self graph nodeId)
    (continues_firstTurn graph nodeId)
    hconcludes.toPerforms
    (fun hended => .inr (.inl (hconcludes.exhausts hended)))
    hconcludes.surfaces fun _ hpending => by cases hpending⟩

end Explains

/-- The chronicle goes on with the visits of the activations that begin. -/
theorem Explains.beginsMany {limit : Nat} {supported : String}
    {context : Context} {events : List Event} {deeds : List Deed}
    {earlier stage later : Stage}
    (hexplains : (initial limit supported context).Explains events
      (deeds ++ earlier.visitsSince stage) stage) (hearlier : earlier.Orderly)
    (hreaches : Reaches earlier stage) (hbegins : BeginsMany stage later) :
    (initial limit supported context).Explains events
      (deeds ++ earlier.visitsSince later) later := by
  induction hbegins with
  | refl => exact hexplains
  | @tail middle last hmany hbegin ih =>
    have hmiddle := hreaches.trans (BeginsMany.reaches hmany)
    have horderly := hearlier.reaches hmiddle
    cases hbegin with
    | @begin graph entry nodeId firing? hentry =>
      obtain ⟨fresh, hperforms, hbegun⟩ :=
        ih.begin horderly firing? graph nodeId
      have hidle :
          earlier.visitedBy (middle.enroll graph nodeId).2.id = [] := by
        apply visitedBy_of_not_started
        rw [Option.eq_none_iff_forall_ne_some]
        intro found hfound
        obtain ⟨after, hafter, -⟩ := hearlier.reaches_grows hmiddle hfound
        rw [horderly.started?_enroll_id graph nodeId] at hafter
        cases hafter
      rwa [List.append_assoc,
        ← horderly.visitsSince_begin graph nodeId firing? hidle hperforms]
        at hbegun

/-! ## Causes of a whole session -/

theorem chronicle_append (first second : List Event) (stage : Stage) :
    chronicle (first ++ second) stage =
      chronicle first stage ++ chronicle second (session first stage).1 := by
  induction first generalizing stage with
  | nil => rfl
  | cons event first ih =>
    rw [List.cons_append, chronicle, ih, chronicle, session_cons,
      List.append_assoc]

section Session

variable {limit : Nat} {supported : String} {context : Context}
variable {events : List Event} {deeds : List Deed} {stage first : Stage}
  {event : Event}

/-- An event lets an activation of the session take a turn. -/
theorem Explains.takesTurn
    (hexplains : (initial limit supported context).Explains events deeds stage)
    (horderly : stage.Orderly) (firing? : Option Firing)
    {activation : Activation} {turn : Turn → Turn × Option Call}
    {fresh : List String}
    (hsession : (session events (initial limit supported context)).1.started?
      activation.id = some activation)
    (hstarted : stage.started? activation.id = some activation)
    (hcontinues : activation.Continues
      (turn ⟨stage.context, activation⟩).1.activation)
    (hopen : ∀ answer, event = .answer activation.id answer →
      activation.id ∈
        (session events (initial limit supported context)).1.tasks.map
          Task.activationId)
    (hresolves : Turn.Resolves ⟨stage.context, activation⟩ event
      (turn ⟨stage.context, activation⟩).1
      (turn ⟨stage.context, activation⟩).2 fresh)
    (haborted : ∀ diagnostic, activation.state = .aborted diagnostic →
      (turn ⟨stage.context, activation⟩).1.activation = activation) :
    (initial limit supported context).Explains (events ++ [event])
      (deeds ++ stage.visitsSince (stage.advance firing? activation turn))
      (stage.advance firing? activation turn) := by
  rw [horderly.visitsSince_advance firing? hstarted hcontinues
    hresolves.toPerforms]
  refine (hexplains.extend [event]).advance horderly firing? hstarted hcontinues
    hresolves.toPerforms (fun hended => ?_) hresolves.surfaces haborted
  rcases hresolves.ended hended with hsame | hexhausts | hhost
  · exact .inl hsame
  · exact .inr (.inl hexhausts)
  · exact .inr (.inr (.host rfl hsession hopen hhost))

/-- What an event does first is explained by it, or by the visits that it
makes. -/
theorem Explains.opens
    (hexplains : (initial limit supported context).Explains events deeds
      (session events (initial limit supported context)).1)
    (hunwritten : ∀ context, event ≠ .write context)
    (hopens : Opens (session events (initial limit supported context)).1
      event first) :
    (initial limit supported context).Explains (events ++ [event])
      (deeds ++ (session events (initial limit supported context)).1.visitsSince
        first) first := by
  have horderly :
      (session events (initial limit supported context)).1.Orderly :=
    Reachable.orderly ⟨limit, supported, context, events, rfl⟩
  generalize hstage : (session events (initial limit supported context)).1 =
    stage at *
  cases hopens with
  | nothing =>
    rw [horderly.visitsSince_self, List.append_nil]
    exact hexplains.extend [event]
  | @resumes id activation report hregistered =>
    have hstarted := started?_of_activation? hregistered
    obtain rfl := started?_id hstarted
    obtain ⟨fresh, hresolves⟩ := (Turn.resume_responds stage.limit
      ⟨stage.context, activation⟩ report).resolves (by trivial)
    exact hexplains.takesTurn horderly none (hstage ▸ hstarted) hstarted
      (Turn.continues_resume stage.limit report ⟨_, _⟩) (by simp) hresolves
      fun _ hstate => by
        rw [Turn.resume_of_ended _ _ (by rw [isLive, hstate]; rfl)]
  | @cancels id activation hregistered =>
    have hstarted := started?_of_activation? hregistered
    obtain rfl := started?_id hstarted
    obtain ⟨fresh, hresolves⟩ := (Turn.cancel_responds stage.limit
      ⟨stage.context, activation⟩).resolves (by trivial)
    exact @takesTurn _ _ _ _ _ _ _ hexplains horderly none activation
      (fun turn => (turn.cancel, none)) fresh (hstage ▸ hstarted) hstarted
      (Turn.continues_cancel ⟨_, _⟩) (by simp) hresolves
      fun _ hstate => by rw [Turn.cancel_of_ended (by rw [isLive, hstate]; rfl)]
  | prunes =>
    have hnone : stage.visitsSince stage.prune.1 = [] :=
      horderly.visitsSince_self
    rw [hnone, List.append_nil]
    exact (hexplains.extend [Event.prune]).of_same rfl rfl
  | @receives id task activation answer htask hstarted =>
    obtain rfl := started?_id hstarted
    have hawaits := horderly.awaits_of_find? hstarted htask
    obtain ⟨fresh, hresolves⟩ := (Turn.receive_responds stage.limit
      ⟨stage.context, activation⟩ answer).resolves hawaits
    have herased : (initial limit supported context).Explains events deeds
        { stage with tasks := stage.tasks.erase task } :=
      hexplains.of_same rfl rfl
    have hopen : activation.id ∈ stage.tasks.map Task.activationId :=
      List.mem_map.mpr ⟨task,
        List.mem_of_find?_eq_some htask, by simpa using List.find?_some htask⟩
    refine herased.takesTurn (horderly.erase task) task.firing?
      (hstage ▸ hstarted) hstarted
      (Turn.continues_receive stage.limit answer ⟨_, _⟩)
        (fun _ _ => hstage ▸ hopen) hresolves ?_
    intro diagnostic hstate
    rcases hawaits.1 with hrunning | hcancelled
    · cases hrunning.symm.trans hstate
    · cases hcancelled.symm.trans hstate
  | writes written => exact absurd rfl (hunwritten written)

/-- An edit of the context ends no activation. -/
theorem Explains.writes
    (hexplains : (initial limit supported context).Explains events deeds stage)
    (horderly : stage.Orderly) (written : Context) :
    (initial limit supported context).Explains (events ++ [.write written])
      (deeds ++ [.edit written]) { stage with context := written } where
  accounts := by
    obtain ⟨made, haccounts⟩ := hexplains.accounts
    exact ⟨_, haccounts.trans (horderly.step_accounts (.write written))⟩
  causes activation hmem hended :=
    (hexplains.causes activation hmem hended).extend _ _
  surfaces := by
    intro earlier id graph nodeId later node failure hdeeds
    rcases split_stretches hdeeds with ⟨before, rfl, hedit⟩ | ⟨rest, hold⟩
    · simp [List.singleton_eq_append_iff] at hedit
    · exact hexplains.surfaces earlier id graph nodeId rest node failure hold

/-- The chronicle and the events explain why activations end. -/
theorem session_explains (limit : Nat) (supported : String) (context : Context)
    (events : List Event) :
    (initial limit supported context).Explains events
      (chronicle events (initial limit supported context))
      (session events (initial limit supported context)).1 := by
  induction events using List.reverseRecOn with
  | nil => exact ⟨⟨[], .refl _⟩, by simp [initial], by simp [chronicle]⟩
  | append_singleton events event ih =>
    have horderly :
        (session events (initial limit supported context)).1.Orderly :=
      Reachable.orderly ⟨limit, supported, context, events, rfl⟩
    rw [chronicle_append, session_append, chronicle, chronicle, List.append_nil,
      session_cons, session_nil]
    by_cases hwritten : ∃ written, event = .write written
    · obtain ⟨written, rfl⟩ := hwritten
      exact ih.writes horderly written
    · have hunwritten : ∀ written, event ≠ .write written :=
        not_exists.mp hwritten
      obtain ⟨first, hopens, hbegins⟩ := step_opens
        (session events (initial limit supported context)).1 event
      have hdeeds :
          deeds (session events (initial limit supported context)).1 event =
            (session events (initial limit supported context)).1.visitsSince
              ((session events (initial limit supported context)).1.step
                event).1 := by
        cases event with
        | write written => exact absurd rfl (hunwritten written)
        | _ => rfl
      rw [hdeeds]
      exact (ih.opens hunwritten hopens).beginsMany horderly
        hopens.reaches hbegins

end Session

end Stage

end StoryGraph
