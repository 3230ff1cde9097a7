import StoryGraph.Play.Turn

/-!
# What a turn can do

A turn is a walk from node to node, or what an activation makes of a report, of
the answer to its call or of being cancelled, which may let it walk on.  Both
are said here once, with all that they can lead to: whatever else is to be known
of turns follows from these cases.  A turn never changes which activation it
belongs to, and takes back no visit.
-/

namespace StoryGraph

namespace Activation

/-- What stays the same as long as an activation exists. -/
structure Continues (earlier later : Activation) : Prop where
  id : later.id = earlier.id
  graph : later.graph = earlier.graph
  entry : later.entry = earlier.entry

theorem Continues.refl (activation : Activation) :
    activation.Continues activation :=
  ⟨rfl, rfl, rfl⟩

theorem Continues.trans {first second third : Activation}
    (hfirst : first.Continues second)
    (hsecond : second.Continues third) : first.Continues third :=
  ⟨hsecond.id.trans hfirst.id, hsecond.graph.trans hfirst.graph,
    hsecond.entry.trans hfirst.entry⟩

theorem continues_withState (activation : Activation)
    (state : ActivationState) :
    activation.Continues (activation.withState state) :=
  ⟨rfl, rfl, rfl⟩

theorem continues_enter (activation : Activation) (nodeId : String) :
    activation.Continues (activation.enter nodeId) := ⟨rfl, rfl, rfl⟩

/-- The same activation, with all its earlier visits. -/
structure Grows (earlier later : Activation) :
    Prop extends earlier.Continues later where
  visited : earlier.visited.toList ⊆ later.visited.toList

theorem Grows.refl (activation : Activation) : activation.Grows activation :=
  ⟨.refl _, List.Subset.refl _⟩

theorem Grows.trans {first second third : Activation}
    (hfirst : first.Grows second)
    (hsecond : second.Grows third) : first.Grows third :=
  ⟨hfirst.toContinues.trans hsecond.toContinues,
    List.Subset.trans hfirst.visited hsecond.visited⟩

theorem grows_withState (activation : Activation) (state : ActivationState) :
    activation.Grows (activation.withState state) :=
  ⟨continues_withState _ _, List.Subset.refl _⟩

theorem grows_enter (activation : Activation) (nodeId : String) :
    activation.Grows (activation.enter nodeId) := by
  refine ⟨continues_enter _ _, ?_⟩
  rw [enter, Array.toList_push]
  exact List.subset_append_left _ _

theorem mem_visited_self (activation : Activation) (nodeId : String) :
    nodeId ∈ (activation.enter nodeId).visited.toList := by
  simp [enter]

/-- The node that an activation has visited last, if its graph has it. -/
def StandsAt (activation : Activation) (nodeId : String)
    (node : CompiledNode) : Prop :=
  activation.cursor = some nodeId ∧
    activation.graph.nodes.find? nodeId = some node

/-- The activation has called the host from a node of its graph. -/
def IsCalling (activation : Activation) : Prop :=
  activation.state = .running ∧ ∃ nodeId node, activation.StandsAt nodeId node

end Activation

namespace Turn

open Activation

theorem current?_eq_some {turn : Turn} {nodeId : String} {node : CompiledNode} :
    turn.current? = some (nodeId, node) ↔
      turn.activation.StandsAt nodeId node := by
  unfold current? StandsAt
  cases turn.activation.cursor with
  | none => simp
  | some cursor =>
    simp only [Option.bind_some, Option.map_eq_some_iff, Prod.mk.injEq,
      Option.some.injEq]
    constructor
    · rintro ⟨found, hfound, rfl, rfl⟩
      exact ⟨rfl, hfound⟩
    · rintro ⟨rfl, hfound⟩
      exact ⟨node, hfound, rfl, rfl⟩

/-! ## The visit of one node -/

/-- Everything that the visit of a node can lead to. -/
inductive Visited (turn : Turn) (nodeId : String) (node : CompiledNode) :
    Turn → Destination → Prop where
  | failed {failure : Failure}
    (hvisit : node.visit turn.context = .error failure) :
    Visited turn nodeId node ((turn.enter nodeId).abort nodeId failure) .nowhere
  | stopped {context : Context}
    (hvisit : node.visit turn.context = .ok (.stop, context)) :
    Visited turn nodeId node
      ((Turn.mk context (turn.activation.enter nodeId)).finish .completed)
      .nowhere
  | called {call : Call} {context : Context}
    (hvisit : node.visit turn.context = .ok (.call call, context)) :
    Visited turn nodeId node ⟨context, turn.activation.enter nodeId⟩
      (.host call)
  | closed {port : Nat} {context : Context}
    (hvisit : node.visit turn.context = .ok (.follow port, context))
    (hnext : node.next? port = none) :
    Visited turn nodeId node
      ((Turn.mk context (turn.activation.enter nodeId)).finish .completed)
      .nowhere
  | followed {port : Nat} {context : Context} {next : String}
    (hvisit : node.visit turn.context = .ok (.follow port, context))
    (hnext : node.next? port = some next) :
    Visited turn nodeId node ⟨context, turn.activation.enter nodeId⟩
      (.node next)

theorem visitNode_visited (nodeId : String) (node : CompiledNode)
    (turn : Turn) :
    Visited turn nodeId node (turn.visitNode nodeId node).1
      (turn.visitNode nodeId node).2 := by
  simp only [visitNode]
  split
  · next hvisit => exact .failed hvisit
  · next move context hvisit =>
    cases move with
    | stop => exact .stopped hvisit
    | call call => exact .called hvisit
    | follow port =>
      cases hnext : node.next? port with
      | none =>
        simp only [hnext]
        exact .closed hvisit hnext
      | some next =>
        simp only [hnext]
        exact .followed hvisit hnext

theorem visited_of_eq {nodeId : String} {node : CompiledNode}
    {turn later : Turn} {destination : Destination}
    (heq : turn.visitNode nodeId node = (later, destination)) :
    Visited turn nodeId node later destination := by
  have hvisited := visitNode_visited nodeId node turn
  rwa [heq] at hvisited

theorem Visited.eq {turn later : Turn} {nodeId : String} {node : CompiledNode}
    {destination : Destination}
    (hvisited : Visited turn nodeId node later destination) :
    turn.visitNode nodeId node = (later, destination) := by
  cases hvisited with
  | failed hvisit => simp [visitNode, enter, hvisit]
  | stopped hvisit => simp [visitNode, enter, hvisit]
  | called hvisit => simp [visitNode, enter, hvisit]
  | closed hvisit hnext => simp [visitNode, enter, hvisit, hnext]
  | followed hvisit hnext => simp [visitNode, enter, hvisit, hnext]

theorem Visited.grows {turn later : Turn} {nodeId : String}
    {node : CompiledNode} {destination : Destination}
    (hvisited : Visited turn nodeId node later destination) :
    (turn.activation.enter nodeId).Grows later.activation := by
  cases hvisited with
  | failed => exact grows_withState _ _
  | stopped => exact grows_withState _ _
  | called => exact .refl _
  | closed => exact grows_withState _ _
  | followed => exact .refl _

theorem Visited.steps {turn later : Turn} {nodeId : String}
    {node : CompiledNode} {destination : Destination}
    (hvisited : Visited turn nodeId node later destination) :
    later.activation.steps = turn.activation.steps + 1 := by
  cases hvisited <;> rfl

/-! ## The visits of a turn -/

/-- A running activation goes on at a node: it visits this node and those that
follow it, until it has ended or calls the host. -/
inductive Walks (limit : Nat) : Turn → String → Turn → Option Call → Prop where
  | missing {turn : Turn} {nodeId : String}
    (hnode : turn.activation.graph.nodes.find? nodeId = none) :
    Walks limit turn nodeId (turn.abort nodeId .missingTarget) none
  | exhausted {turn : Turn} {nodeId : String} {node : CompiledNode}
    (hnode : turn.activation.graph.nodes.find? nodeId = some node)
    (hsteps : limit ≤ turn.activation.steps) :
    Walks limit turn nodeId (turn.abort nodeId (.stepLimit limit)) none
  | ended {turn later : Turn} {nodeId : String} {node : CompiledNode}
    (hnode : turn.activation.graph.nodes.find? nodeId = some node)
    (hsteps : turn.activation.steps < limit)
    (hvisited : Visited turn nodeId node later .nowhere) :
    Walks limit turn nodeId later none
  | called {turn later : Turn} {nodeId : String} {node : CompiledNode}
    {call : Call} (hnode : turn.activation.graph.nodes.find? nodeId = some node)
    (hsteps : turn.activation.steps < limit)
    (hrunning : later.activation.state = .running)
    (hvisited : Visited turn nodeId node later (.host call)) :
    Walks limit turn nodeId later (some call)
  | followed {turn middle later : Turn} {nodeId next : String}
    {node : CompiledNode} {call? : Option Call}
    (hnode : turn.activation.graph.nodes.find? nodeId = some node)
    (hsteps : turn.activation.steps < limit)
    (hvisited : Visited turn nodeId node middle (.node next))
    (hrest : Walks limit middle next later call?) :
    Walks limit turn nodeId later call?

theorem run_walks {limit left : Nat} {nodeId : String} {turn : Turn}
    (hrunning : turn.activation.state = .running)
    (hleft : left = limit - turn.activation.steps) :
    Walks limit turn nodeId (run limit left nodeId turn).1
      (run limit left nodeId turn).2 := by
  fun_induction run limit left nodeId turn with
  | case1 _ _ _ hnode => exact .missing hnode
  | case2 _ _ _ hnode => exact .exhausted hnode (by omega)
  | case3 _ _ _ hnode _ _ hvisit =>
    exact .ended hnode (by omega) (visited_of_eq hvisit)
  | case4 _ _ _ hnode _ later _ hvisit =>
    have hvisited := visited_of_eq hvisit
    have hstill : later.activation.state = .running := by
      cases hvisited with
      | called => exact hrunning
    exact .called hnode (by omega) hstill hvisited
  | case5 _ _ _ hnode _ _ _ hvisit ih =>
    have hvisited := visited_of_eq hvisit
    refine .followed hnode (by omega) hvisited (ih ?_ ?_)
    · cases hvisited with
      | followed => exact hrunning
    · rw [hvisited.steps]
      omega

theorem Walks.run_eq {limit : Nat} {turn later : Turn} {nodeId : String}
    {call? : Option Call} (hwalks : Walks limit turn nodeId later call?) :
    run limit (limit - turn.activation.steps) nodeId turn = (later, call?) := by
  have hstep {steps : Nat} (hless : steps < limit) :
      limit - steps = (limit - (steps + 1)).succ := by omega
  induction hwalks with
  | missing hnode => rw [run, hnode]
  | exhausted hnode hsteps => rw [run, hnode, Nat.sub_eq_zero_of_le hsteps]
  | ended hnode hsteps hvisited =>
    rw [hstep hsteps, run, hnode]
    simp only [hvisited.eq]
  | called hnode hsteps _ hvisited =>
    rw [hstep hsteps, run, hnode]
    simp only [hvisited.eq]
  | followed hnode hsteps hvisited _ ih =>
    rw [hvisited.steps] at ih
    rw [hstep hsteps, run, hnode]
    simp only [hvisited.eq, ih]

theorem continueAt_walks (limit : Nat) (nodeId : String) (turn : Turn) :
    Walks limit ⟨turn.context, turn.activation.withState .running⟩ nodeId
      (turn.continueAt limit nodeId).1 (turn.continueAt limit nodeId).2 :=
  run_walks rfl rfl

theorem Walks.continueAt_eq {limit : Nat} {turn later : Turn} {nodeId : String}
    {call? : Option Call} (hwalks : Walks limit
      ⟨turn.context, turn.activation.withState .running⟩ nodeId later call?) :
    turn.continueAt limit nodeId = (later, call?) := hwalks.run_eq

/-! ## The response of an activation -/

/-- What an activation is told in the course of its life. -/
inductive Prompt where
  | resume (report : Report)
  | cancel
  | answer (answer : Answer)

/-- The report that a prompt contains. -/
def Prompt.report? : Prompt → Option Report
  | resume report => some report
  | answer (.reported report) => some report
  | _ => none

/-- The activation acts on what it is told: on a report by itself while it is
suspended, and on anything else as long as it is live. -/
def ActsOn (turn : Turn) : Prompt → Prop
  | .resume _ => turn.activation.state = .suspended
  | .cancel => turn.activation.isLive = true
  | .answer _ => turn.activation.isLive = true

/-- The activation looks at what it is told about the node where it stands, at
the answer to its call in any state. -/
inductive Notices (turn : Turn) : Prompt → Prop where
  | resume {report : Report} (hsuspended : turn.activation.state = .suspended) :
    Notices turn (.resume report)
  | answer {answer : Answer} : Notices turn (.answer answer)

theorem ActsOn.isLive {turn : Turn} {prompt : Prompt}
    (hacts : turn.ActsOn prompt) : turn.activation.isLive = true := by
  cases prompt with
  | resume report =>
    have hsuspended : turn.activation.state = .suspended := hacts
    rw [Activation.isLive, hsuspended]
    rfl
  | cancel => exact hacts
  | answer answer => exact hacts

theorem ActsOn.notices {turn : Turn} {prompt : Prompt} {report : Report}
    (hacts : turn.ActsOn prompt) (hreport : prompt.report? = some report) :
    turn.Notices prompt := by
  cases prompt with
  | resume => exact .resume hacts
  | cancel => cases hreport
  | answer => exact .answer

/-- Everything that an activation can do when it is told something. -/
inductive Responds (limit : Nat) (turn : Turn) :
    Prompt → Turn → Option Call → Prop where
  | ignored {prompt : Prompt} (hignores : ¬ turn.ActsOn prompt) :
    Responds limit turn prompt turn none
  | lost {prompt : Prompt} (hnotices : turn.Notices prompt)
    (hlost : turn.current? = none) :
    Responds limit turn prompt turn.abortMissing none
  | unreadable {prompt : Prompt} {report : Report} {nodeId : String}
    {node : CompiledNode} {issues : List Issue} (hnotices : turn.Notices prompt)
    (hreport : prompt.report? = some report)
    (hstands : turn.activation.StandsAt nodeId node)
    (hport : report.port node.kind = .rejected issues) :
    Responds limit turn prompt (turn.abort nodeId (.invalidReport issues)) none
  | closed {prompt : Prompt} {report : Report} {nodeId : String}
    {node : CompiledNode} {port : Nat} (hacts : turn.ActsOn prompt)
    (hreport : prompt.report? = some report)
    (hstands : turn.activation.StandsAt nodeId node)
    (hport : report.port node.kind = .accepted port)
    (hnext : node.next? port = none) :
    Responds limit turn prompt (turn.finish .completed) none
  | continued {prompt : Prompt} {report : Report} {nodeId next : String}
    {node : CompiledNode} {port : Nat} {later : Turn} {call? : Option Call}
    (hacts : turn.ActsOn prompt) (hreport : prompt.report? = some report)
    (hstands : turn.activation.StandsAt nodeId node)
    (hport : report.port node.kind = .accepted port)
    (hnext : node.next? port = some next)
    (hwalks : Walks limit ⟨turn.context, turn.activation.withState .running⟩
      next later call?) : Responds limit turn prompt later call?
  | suspended {nodeId : String} {node : CompiledNode}
    (hlive : turn.activation.isLive = true)
    (hstands : turn.activation.StandsAt nodeId node) :
    Responds limit turn (.answer .deferred)
      { turn with activation := turn.activation.withState .suspended } none
  | failed {kind text nodeId : String} {node : CompiledNode}
    (hlive : turn.activation.isLive = true)
    (hstands : turn.activation.StandsAt nodeId node) :
    Responds limit turn (.answer (.failed kind text))
      (turn.abort nodeId (.host kind text)) none
  | interrupted {text : String} (hlive : turn.activation.isLive = true) :
    Responds limit turn (.answer (.interrupted text))
      (turn.finish .cancelled) none
  | cancelled (hlive : turn.activation.isLive = true) :
    Responds limit turn .cancel (turn.finish .cancelled) none

theorem resume_of_not_suspended (limit : Nat) (report : Report) {turn : Turn}
    (hsuspended : turn.activation.state ≠ .suspended) :
    turn.resume limit report = (turn, none) := if_neg hsuspended

section Responds

variable (limit : Nat) (turn : Turn)

theorem follow_responds {prompt : Prompt} {report : Report} {nodeId : String}
    {node : CompiledNode} {port : Nat} (hacts : turn.ActsOn prompt)
    (hreport : prompt.report? = some report)
    (hstands : turn.activation.StandsAt nodeId node)
    (hport : report.port node.kind = .accepted port) :
    Responds limit turn prompt (turn.follow limit node port).1
      (turn.follow limit node port).2 := by
  unfold follow
  split
  · next hnext => exact .closed hacts hreport hstands hport hnext
  · next next hnext =>
    exact .continued hacts hreport hstands hport hnext
      (continueAt_walks limit next turn)

theorem resume_responds (report : Report) :
    Responds limit turn (.resume report) (turn.resume limit report).1
      (turn.resume limit report).2 := by
  unfold resume
  split
  · next hsuspended =>
    split
    · next hlost => exact .lost (.resume hsuspended) hlost
    · next hcurrent =>
      have hstands := current?_eq_some.mp hcurrent
      split
      · next hport => exact .unreadable (.resume hsuspended) rfl hstands hport
      · next hport =>
          exact follow_responds limit turn hsuspended rfl hstands hport
  · next hignores => exact .ignored hignores

theorem cancel_responds : Responds limit turn .cancel turn.cancel none := by
  unfold cancel
  split
  · next hlive => exact .cancelled hlive
  · next hended => exact .ignored hended

theorem receive_responds (answer : Answer) :
    Responds limit turn (.answer answer) (turn.receive limit answer).1
      (turn.receive limit answer).2 := by
  unfold receive
  split
  · next hlost => exact .lost .answer hlost
  · next hcurrent =>
    have hstands := current?_eq_some.mp hcurrent
    split
    · split
      · next hport => exact .unreadable .answer rfl hstands hport
      · next hport =>
        split
        · next hlive => exact follow_responds limit turn hlive rfl hstands hport
        · next hended => exact .ignored hended
    · split
      · next hlive => exact .suspended hlive hstands
      · next hended => exact .ignored hended
    · split
      · next hlive => exact .failed hlive hstands
      · next hended => exact .ignored hended
    · unfold cancel
      split
      · next hlive => exact .interrupted hlive
      · next hended => exact .ignored hended

end Responds

/-! ## What a turn keeps -/

section Grows

variable {limit : Nat} {turn later : Turn} {call? : Option Call}

theorem Walks.grows {nodeId : String}
    (hwalks : Walks limit turn nodeId later call?) :
    turn.activation.Grows later.activation := by
  induction hwalks with
  | missing => exact grows_withState _ _
  | exhausted => exact grows_withState _ _
  | ended _ _ hvisited => exact (grows_enter _ _).trans hvisited.grows
  | called _ _ _ hvisited => exact (grows_enter _ _).trans hvisited.grows
  | followed _ _ hvisited _ ih =>
    exact ((grows_enter _ _).trans hvisited.grows).trans ih

theorem Responds.grows {prompt : Prompt}
    (hresponds : Responds limit turn prompt later call?) :
    turn.activation.Grows later.activation := by
  cases hresponds with
  | ignored => exact .refl _
  | continued _ _ _ _ _ hwalks =>
    exact (grows_withState turn.activation .running).trans hwalks.grows
  | _ => exact grows_withState _ _

end Grows

theorem grows_continueAt (limit : Nat) (nodeId : String) (turn : Turn) :
    turn.activation.Grows (turn.continueAt limit nodeId).1.activation :=
  (grows_withState turn.activation .running).trans
    (continueAt_walks limit nodeId turn).grows

theorem continues_continueAt (limit : Nat) (nodeId : String) (turn : Turn) :
    turn.activation.Continues (turn.continueAt limit nodeId).1.activation :=
  (grows_continueAt limit nodeId turn).toContinues

theorem continues_resume (limit : Nat) (report : Report) (turn : Turn) :
    turn.activation.Continues (turn.resume limit report).1.activation :=
  (resume_responds limit turn report).grows.toContinues

theorem continues_cancel (turn : Turn) :
    turn.activation.Continues turn.cancel.activation :=
  (cancel_responds 0 turn).grows.toContinues

theorem continues_receive (limit : Nat) (answer : Answer) (turn : Turn) :
    turn.activation.Continues (turn.receive limit answer).1.activation :=
  (receive_responds limit turn answer).grows.toContinues

end Turn

end StoryGraph
