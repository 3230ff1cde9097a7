import Mathlib.Data.List.Sort
import StoryGraph.Proofs.Graph.Complete
import StoryGraph.Proofs.Play.Cancelled
import StoryGraph.Proofs.Play.Loopless
import StoryGraph.Proofs.Play.Meaning
import StoryGraph.Proofs.Play.Path
import StoryGraph.Proofs.Play.Truncated

/-!
# Fired triggers

When a trigger type is fired, an activation begins at each trigger of the type,
in the order of their ids.  The next one begins when the host has answered the
calls of the one before it, which then rests: it is suspended or has ended.
Meanwhile the host does nothing but answer calls and change the shared context.
A firing is therefore the same as to activate the triggers one after the other.
-/

namespace StoryGraph

/-! ## Hosts -/

/-- How the host deals with a call: the shared context as it leaves it, and its
answer. -/
structure Reaction where
  context : Context
  answer : Answer
  deriving DecidableEq

/-- What the host does, at each number of earlier calls, about a call and the
context. -/
abbrev Host := Nat → Call → Context → Reaction

/-- No task of the host is cancelled. -/
def Host.Uncancelled (host : Host) : Prop :=
  ∀ count call context text,
    (host count call context).answer ≠ .interrupted text

/-! ## Activations between turns -/

namespace Turn

open Activation

/-- The activation takes the answer of the host, in the context that the host
has left. -/
def react (limit : Nat) (reaction : Reaction)
    (turn : Turn) : Turn × Option Call :=
  receive limit reaction.answer ⟨reaction.context, turn.activation⟩

theorem grows_react (limit : Nat) (reaction : Reaction) (turn : Turn) :
    turn.activation.Grows (turn.react limit reaction).1.activation :=
  (receive_responds limit ⟨reaction.context, turn.activation⟩
    reaction.answer).grows

/-- The activation rests or waits for the answer to its call, and has kept the
limit. -/
structure Standing (limit : Nat) (turn : Turn)
    (call? : Option Call) : Prop where
  pauses : turn.Pauses call?
  travels : turn.activation.Travels limit
  bounded : turn.activation.steps ≤ limit

section Standing

variable {limit : Nat} {turn : Turn} {call? : Option Call}

theorem Standing.react {call : Call}
    (hstanding : turn.Standing limit (some call)) (reaction : Reaction) :
    (turn.react limit reaction).1.Standing limit
      (turn.react limit reaction).2 where
  pauses :=
    have hcalling :
        (Turn.mk reaction.context turn.activation).activation.IsCalling :=
      hstanding.pauses.calling
    receive_pauses limit reaction.answer hcalling
  travels := (receive_responds _ _ _).travels hstanding.travels
  bounded := (receive_responds _ _ _).steps_le hstanding.bounded

/-- Another call takes another visit. -/
theorem Standing.steps_lt (hstanding : turn.Standing limit call?)
    {reaction : Reaction} {call : Call}
    (hcall : (turn.react limit reaction).2 = some call) :
    turn.activation.steps < (turn.react limit reaction).1.activation.steps := by
  have hresponds :=
    receive_responds limit ⟨reaction.context, turn.activation⟩ reaction.answer
  obtain ⟨fresh, hperforms⟩ := hresponds.performs
  have htravels : (turn.react limit reaction).1.activation.Travels limit :=
    hresponds.travels hstanding.travels
  rw [hstanding.travels.steps, htravels.steps]
  exact hperforms.visited_size_lt hcall

/-- An activation that may still visit a node visits the one at which it goes
on. -/
theorem mem_visited_continueAt {nodeId : String} {node : CompiledNode}
    (hnode : turn.activation.graph.nodes.find? nodeId = some node)
    (hsteps : turn.activation.steps < limit) :
    nodeId ∈ (turn.continueAt limit nodeId).1.activation.visited.toList := by
  obtain ⟨left, hleft⟩ : ∃ left, limit - turn.activation.steps = left + 1 :=
    ⟨limit - turn.activation.steps - 1, by omega⟩
  obtain ⟨rest, hvisited⟩ := @run_enters limit left nodeId
    ⟨turn.context, turn.activation.withState .running⟩ node hnode
  rw [continueAt, hleft, hvisited]
  exact List.mem_append_right _ List.mem_cons_self

/-- The visits of an activation begin with its entry. -/
theorem Standing.head?_visited (hstanding : turn.Standing limit call?)
    {nodeId : String} (hmem : nodeId ∈ turn.activation.visited.toList) :
    turn.activation.visited.toList.head? = some turn.activation.entry := by
  rcases List.eq_nil_or_concat' turn.activation.visited.toList with
    hnone | ⟨passed, last, hvisited⟩
  · rw [hnone] at hmem
    cases hmem
  · rw [hvisited]
    exact (hstanding.travels.route passed last hvisited).head?

theorem Standing.rests (hstanding : turn.Standing limit none) :
    turn.activation.state = .suspended ∨ turn.activation.isLive = false := by
  rcases hstanding.pauses with hended | ⟨-, hsuspended, -⟩
  · exact .inr hended
  · exact .inl hsuspended

end Standing

end Turn

namespace Stage

/-- The host has dealt with the call of an activation. -/
def handle (stage : Stage) (id : String)
    (reaction : Reaction) : Stage × Response :=
  answer { stage with context := reaction.context } id reaction.answer

/-- The host deals with calls, and does nothing else: from one result it comes
to another one, and from the first number of calls to the last. -/
inductive Serves (host : Host) :
    Nat → Stage × Response → Nat → Stage × Response → Prop where
  | refl (count : Nat) (result : Stage × Response) :
      Serves host count result count result
  | call {count last : Nat} {stage : Stage} {id : String} {call : Call}
    {result : Stage × Response}
    (hserves : Serves host (count + 1)
      (stage.handle id (host count call stage.context)) last result) :
    Serves host count (stage, .called id call) last result

theorem Serves.trans {host : Host} {first second third : Nat}
    {start middle result : Stage × Response}
    (hfirst : Serves host first start second middle)
    (hsecond : Serves host second middle third result) :
    Serves host first start third result := by
  induction hfirst with
  | refl => exact hsecond
  | call _ ih => exact .call (ih hsecond)

theorem Reachable.handle {stage : Stage} (hreachable : stage.Reachable)
    (id : String) (reaction : Reaction) :
    (stage.handle id reaction).1.Reachable :=
  (hreachable.step (.write reaction.context)).step (.answer id reaction.answer)

theorem Serves.reachable {host : Host} {first last : Nat}
    {start result : Stage × Response}
    (hserves : Serves host first start last result)
    (hreachable : start.1.Reachable) : result.1.Reachable := by
  induction hserves with
  | refl => exact hreachable
  | call _ ih => exact ih (hreachable.handle _ _)

/-- The answer to the call for which work was kept last. -/
theorem answer_awaited {stage later : Stage} {activation : Activation}
    {call? : Option Call}
    (hstarted : stage.started? activation.id = some activation)
    (firing? : Option Firing) {reply : Answer}
    (hreply : ∀ text, reply ≠ .interrupted text)
    (hplay : stage.play activation (Turn.receive stage.limit reply) =
      (later, call?)) :
    answer { stage with
      tasks := ⟨activation.id, firing?⟩ :: stage.tasks } activation.id reply =
      later.settle firing? activation.id call? := by
  have htask :
      List.find? (·.activationId == activation.id) (⟨activation.id, firing?⟩ ::
        stage.tasks) = some ⟨activation.id, firing?⟩ :=
    List.find?_cons_of_pos (beq_self_eq_true _)
  have hsame :
      started? { stage with tasks := ⟨activation.id, firing?⟩ :: stage.tasks }
        activation.id = some activation :=
    hstarted
  simp only [answer, htask, hsame, List.erase_cons_head, hplay]

/-! ## The last activation of a stage -/

/-- The stage with the activation of a turn behind all others, and the context
that the turn has come to. -/
def seat (stage : Stage) (turn : Turn) : Stage :=
  { stage with
    context := turn.context
    activations := stage.activations ++ [turn.activation] }

section Seat

variable {stage : Stage} {turn : Turn}
  (hfresh : stage.started? turn.activation.id = none)

include hfresh

theorem started?_seat :
    (stage.seat turn).started? turn.activation.id = some turn.activation := by
  rw [started?] at hfresh
  simp [started?, seat, hfresh]

theorem replace_seat {activation : Activation}
    (hid : activation.id = turn.activation.id) :
    (stage.seat turn).replace activation =
      stage.seat ⟨turn.context, activation⟩ := by
  have hothers := replaced_of_find?_eq_none hfresh activation
  simp [replace, seat, hid, hothers]

theorem play_seat {next : Turn → Turn × Option Call}
    (hcontinues : turn.activation.Continues (next turn).1.activation) :
    (stage.seat turn).play turn.activation next =
      (stage.seat (next turn).1, (next turn).2) := by
  have hreplace := replace_seat hfresh hcontinues.id
  exact Prod.ext
    (congrArg (fun later : Stage =>
      { later with context := (next turn).1.context })
    hreplace) rfl

/-- The activation takes the answer to its call, and its firing waits for the
next one. -/
theorem handle_seat (firing? : Option Firing) (call : Call)
    {reaction : Reaction}
    (hanswer : ∀ text, reaction.answer ≠ .interrupted text) :
    ((stage.seat turn).await firing? turn.activation.id call).1.handle
        turn.activation.id reaction =
      (stage.seat (turn.react stage.limit reaction).1).settle firing?
        turn.activation.id (turn.react stage.limit reaction).2 := by
  have hstarted :=
    @started?_seat stage ⟨reaction.context, turn.activation⟩ hfresh
  have hplay := @play_seat stage ⟨reaction.context, turn.activation⟩ hfresh _
    (Turn.continues_receive stage.limit reaction.answer _)
  exact answer_awaited hstarted firing? hanswer hplay

/-- The host deals with one call. -/
theorem serves_react {host : Host} (huncancelled : host.Uncancelled)
    (count : Nat) (firing? : Option Firing) (call : Call) :
    let next := turn.react stage.limit (host count call turn.context)
    Serves host count
      ((stage.seat turn).settle firing? turn.activation.id (some call))
      (count + 1)
      ((stage.seat next.1).settle firing? turn.activation.id next.2) := by
  intro next
  have hhandle :=
    handle_seat hfresh firing? call (huncancelled count call turn.context)
  exact .call (hhandle ▸ .refl _ _)

end Seat

/-! ## One activation after the other -/

/-- Every call takes a visit, so that the calls of an activation come to an end,
and it rests.  What follows then is the rest of its firing, if it is part of
one. -/
theorem serves_seat {host : Host} (huncancelled : host.Uncancelled)
    {stage : Stage} {left : Nat} {count : Nat} {turn : Turn}
    {call? : Option Call} (hfresh : stage.started? turn.activation.id = none)
    (hstanding : turn.Standing stage.limit call?)
    (hlong : ∀ call, call? = some call →
      stage.limit < left + turn.activation.steps) :
    ∃ last later, (∀ firing?, Serves host count
        ((stage.seat turn).settle firing? turn.activation.id call?) last
        ((stage.seat later).settle firing? turn.activation.id none)) ∧
      later.Standing stage.limit none ∧
        turn.activation.Grows later.activation := by
  induction left generalizing count turn call? with
  | zero =>
    cases call? with
    | none => exact ⟨count, turn, fun _ => .refl _ _, hstanding, .refl _⟩
    | some call =>
      -- No visit is left, but the activation has kept the limit.
      have hmore := hlong call rfl
      have hbounded := hstanding.bounded
      omega
  | succ left ih =>
    cases call? with
    | none => exact ⟨count, turn, fun _ => .refl _ _, hstanding, .refl _⟩
    | some call =>
      have hmore := hlong call rfl
      have hserved := serves_react hfresh huncancelled count
      have hnext := hstanding.react (host count call turn.context)
      have hgrows := turn.grows_react stage.limit (host count call turn.context)
      obtain ⟨last, later, hserves, hrests, hgrown⟩ := @ih (count + 1) _ _
        (hgrows.id ▸ hfresh) hnext (by
          intro other hother
          have hvisits := hstanding.steps_lt hother
          omega)
      rw [hgrows.id] at hserves
      exact ⟨last, later,
        fun firing? => (hserved firing? call).trans (hserves firing?), hrests,
        hgrows.trans hgrown⟩

/-- The stage after an id for an activation has been issued. -/
abbrev issued (stage : Stage) : Stage :=
  { stage with supply := (stage.supply.take "act").2 }

theorem Orderly.start_seat {stage : Stage} (horderly : stage.Orderly)
    {graph : CompiledGraph} {entry : Option String} {nodeId : String}
    (hversion : stage.checkVersion graph = .ok ())
    (hentry : entryOf graph entry = .ok nodeId) :
    stage.start graph entry =
      .ok (stage.issued.seat (stage.firstTurn graph nodeId).1,
        (stage.enroll graph nodeId).2.id,
        (stage.firstTurn graph nodeId).2) := by
  have hplay := @play_seat stage.issued
    ⟨(stage.enroll graph nodeId).1.context, (stage.enroll graph nodeId).2⟩
    (horderly.started?_enroll_id graph nodeId) _
    (continues_firstTurn graph nodeId)
  simp only [start, hversion, hentry]
  exact congrArg (fun played : Stage × Option Call =>
    Except.ok (played.1, (stage.enroll graph nodeId).2.id, played.2)) hplay

theorem activate_of_start {stage later : Stage} {graph : CompiledGraph}
    {entry : Option String} {id : String} {call? : Option Call}
    (hstart : stage.start graph entry = .ok (later, id, call?)) :
    stage.activate graph entry = later.settle none id call? := by
  rw [activate, hstart]

theorem fireAll_of_start {stage later : Stage} {graph : CompiledGraph}
    {entry : Entrypoint} {id : String} {call? : Option Call}
    (hstart : stage.start graph (some entry.nodeId) = .ok (later, id, call?))
    (left : List Entrypoint) (started : List String) :
    stage.fireAll graph (entry :: left) started =
      later.settle (some ⟨graph, started ++ [id], left⟩) id call? := by
  rw [fireAll, hstart]
  cases call? <;> rfl

/-- An activation has begun where it starts, behind all others of the stage.
The host has dealt with its calls, and it rests. -/
structure Round (host : Host) (graph : CompiledGraph) (first : Nat)
    (stage : Stage) (activation : Activation) (last : Nat)
    (later : Stage) : Prop where
  serves : Serves host first (stage.activate graph (some activation.entry)) last
    (later, .returned [activation.id])
  activations : later.activations = stage.activations ++ [activation]
  registered : later.registered = stage.registered ++ [activation]
  graph : activation.graph = graph
  head : activation.visited.toList.head? = some activation.entry
  rests : activation.state = .suspended ∨ activation.isLive = false

/-- Each of some activations begins on the stage as the one before it has left
it. -/
inductive Rounds (host : Host) (graph : CompiledGraph) :
    Nat → Stage → List Activation → Nat → Stage → Prop where
  | done (count : Nat) (stage : Stage) :
      Rounds host graph count stage [] count stage
  | next {first second last : Nat} {stage middle later : Stage}
    {activation : Activation} {fired : List Activation}
    (hround : Round host graph first stage activation second middle)
    (hrounds : Rounds host graph second middle fired last later) :
    Rounds host graph first stage (activation :: fired) last later

section Rounds

variable {host : Host} {graph : CompiledGraph} {first last : Nat}
  {stage later : Stage}
variable {fired : List Activation}

theorem Rounds.activations
    (hrounds : Rounds host graph first stage fired last later) :
    later.activations = stage.activations ++ fired := by
  induction hrounds with
  | done => exact (List.append_nil _).symm
  | next hround _ ih =>
    rw [ih, hround.activations, List.append_assoc, List.singleton_append]

theorem Rounds.registered
    (hrounds : Rounds host graph first stage fired last later) :
    later.registered = stage.registered ++ fired := by
  induction hrounds with
  | done => exact (List.append_nil _).symm
  | next hround _ ih =>
    rw [ih, hround.registered, List.append_assoc, List.singleton_append]

/-- Whenever an activation has had its round, it stays as it is. -/
theorem Rounds.each (hrounds : Rounds host graph first stage fired last later)
    {activation : Activation} (hmem : activation ∈ fired) :
    activation.graph = graph ∧
      activation.visited.toList.head? = some activation.entry ∧
      (activation.state = .suspended ∨ activation.isLive = false) := by
  induction hrounds with
  | done => cases hmem
  | next hround _ ih =>
    rcases List.mem_cons.mp hmem with rfl | hrest
    · exact ⟨hround.graph, hround.head, hround.rests⟩
    · exact ih hrest

end Rounds

theorem firstTurn_standing (stage : Stage) (graph : CompiledGraph)
    (nodeId : String) :
    (stage.firstTurn graph nodeId).1.Standing stage.limit
      (stage.firstTurn graph nodeId).2 where
  pauses := .inl (Turn.continueAt_rests _ _ _)
  travels := (Turn.continueAt_walks _ _ _).travels
    ((Activation.onRoute_start _ _ _).withState _) .start
  bounded := (Turn.continueAt_walks _ _ _).steps_le (Nat.zero_le _)

/-- A new activation has not been forgotten. -/
theorem Reachable.registered_seat {stage : Stage} (hreachable : stage.Reachable)
    {turn : Turn} (hfresh : stage.started? turn.activation.id = none) :
    (stage.issued.seat turn).registered = stage.registered ++
      [turn.activation] := by
  have hkept : turn.activation.id ∉ stage.forgotten := by
    intro hforgotten
    obtain ⟨activation, hstarted, -⟩ := hreachable.forgetsEnded _ hforgotten
    rw [hfresh] at hstarted
    cases hstarted
  simp [registered, seat, hkept]

/-- The runtime can start an activation at the entrypoint. -/
structure Startable (graph : CompiledGraph) (entry : Entrypoint) : Prop where
  starts : entryOf graph (some entry.nodeId) = .ok entry.nodeId
  found : (graph.nodes.find? entry.nodeId).isSome

section Firing

variable {host : Host} (huncancelled : host.Uncancelled) {stage : Stage}
variable (hreachable : stage.Reachable) {graph : CompiledGraph}
variable (hversion : stage.checkVersion graph = .ok ())
  (hlimit : 0 < stage.limit)

include huncancelled hreachable hversion hlimit

/-- A firing has a round for its first trigger, and goes on with the triggers
after it. -/
theorem Reachable.round {entry : Entrypoint}
    (hstartable : Startable graph entry) (first : Nat) :
    ∃ last later activation,
      Round host graph first stage activation last later ∧
      activation.entry = entry.nodeId ∧ later.supported = stage.supported ∧
      later.limit = stage.limit ∧ ∀ left started,
        Serves host first (stage.fireAll graph (entry :: left) started) last
          (later.fireAll graph left (started ++ [activation.id])) := by
  have horderly := hreachable.orderly
  have hstart := horderly.start_seat hversion hstartable.starts
  have hcontinues := @continues_firstTurn stage graph entry.nodeId
  have hfresh :
      stage.started? (stage.firstTurn graph entry.nodeId).1.activation.id =
        none :=
    hcontinues.id ▸ horderly.started?_enroll_id graph entry.nodeId
  obtain ⟨last, turn, hserves, hstanding, hgrows⟩ :=
    @serves_seat host huncancelled stage.issued
      (stage.limit + 1) first _ _ hfresh
      (stage.firstTurn_standing graph entry.nodeId)
      (fun _ _ => Nat.lt_add_right _ (Nat.lt_succ_self stage.limit))
  have hentered : turn.activation.entry = entry.nodeId :=
    hgrows.entry.trans hcontinues.entry
  have hid : (stage.enroll graph entry.nodeId).2.id = turn.activation.id :=
    (hgrows.id.trans hcontinues.id).symm
  rw [hgrows.id.symm] at hserves hfresh
  rw [hid] at hstart
  refine ⟨last, stage.issued.seat turn, turn.activation, ⟨?_, rfl,
    hreachable.registered_seat hfresh, hgrows.graph.trans hcontinues.graph, ?_,
    hstanding.rests⟩, hentered, rfl, rfl, ?_⟩
  · rw [hentered, activate_of_start hstart]
    exact hserves none
  · obtain ⟨node, hnode⟩ := Option.isSome_iff_exists.mp hstartable.found
    have hvisits := @Turn.mem_visited_continueAt stage.limit
      ⟨(stage.enroll graph entry.nodeId).1.context,
        (stage.enroll graph entry.nodeId).2⟩
      _ _ hnode hlimit
    exact hstanding.head?_visited (hgrows.visited hvisits)
  · intro left started
    rw [fireAll_of_start hstart]
    exact hserves _

/-- A firing has a round for each of its triggers. -/
theorem Reachable.fireAll_rounds {left : List Entrypoint}
    (hstartable : ∀ entry ∈ left, Startable graph entry) (first : Nat)
    (started : List String) :
    ∃ last later fired, Rounds host graph first stage fired last later ∧
      fired.map Activation.entry = left.map Entrypoint.nodeId ∧
      Serves host first (stage.fireAll graph left started) last
        (later, .returned (started ++ fired.map Activation.id)) := by
  induction left generalizing stage first started with
  | nil =>
    refine ⟨first, stage, [], .done _ _, rfl, ?_⟩
    rw [List.map_nil, List.append_nil]
    exact .refl _ _
  | cons entry left ih =>
    obtain ⟨second, middle, activation, hround, hentry, hsupported, hmiddle,
      hserves⟩ :=
        hreachable.round huncancelled hversion hlimit
          (hstartable entry (List.mem_cons_self ..)) first
    have hreached : middle.Reachable := hround.serves.reachable
      (hreachable.step (.activate graph (some activation.entry)))
    have hagain : middle.checkVersion graph = .ok () := by
      rw [checkVersion, hsupported]
      exact hversion
    obtain ⟨last, later, fired, hrounds, hentries, hrest⟩ :=
      ih hreached hagain (hmiddle ▸ hlimit)
        (fun other hother => hstartable other (List.mem_cons_of_mem _ hother))
        second
        (started ++ [activation.id])
    refine ⟨last, later, activation :: fired, .next hround hrounds, ?_, ?_⟩
    · rw [List.map_cons, List.map_cons, hentry, hentries]
    · rw [List.map_cons, List.append_cons]
      exact (hserves left started).trans hrest

end Firing

end Stage

/-! ## Triggers of a type -/

/-- In increasing order, only the first entrypoint is before all others. -/
theorem mem_take_one_iff {entries : List Entrypoint}
    (hincreasing : (entries.map Entrypoint.nodeId).Pairwise (· < ·))
    {entry : Entrypoint} :
    entry ∈ entries.take 1 ↔
      entry ∈ entries ∧ ∀ other ∈ entries, entry.nodeId ≤ other.nodeId := by
  cases entries with
  | nil => simp
  | cons first rest =>
    rw [List.map_cons, List.pairwise_cons] at hincreasing
    have hfirst : ∀ other ∈ rest, first.nodeId < other.nodeId :=
      fun other hother => hincreasing.1 _ (List.mem_map_of_mem hother)
    rw [List.take_succ_cons, List.take_zero, List.mem_singleton]
    constructor
    · rintro rfl
      refine ⟨List.mem_cons_self, ?_⟩
      intro other hother
      rcases List.mem_cons.mp hother with rfl | hrest
      · exact String.le_refl _
      · exact Std.le_of_lt (hfirst other hrest)
    · rintro ⟨hmem, hleast⟩
      rcases List.mem_cons.mp hmem with rfl | hrest
      · rfl
      · exact absurd (hfirst entry hrest) (hleast first List.mem_cons_self)

namespace Graph

/-- An activation begins at the node when the type is fired: it is a trigger of
the type, and in single-entry mode the first of all triggers. -/
structure Fires (graph : Graph) (singleEntry : Bool)
    (triggerType nodeId : String) : Prop where
  typed : ∃ node ∈ graph.nodes, node.id = nodeId ∧ ∃ properties,
    node.properties = .trigger properties ∧
      properties.triggerType.val = triggerType
  first : singleEntry = true → ∀ other ∈ graph.nodes, other.kind = .trigger →
    nodeId ≤ other.id

section Fires

variable {graph : Graph} {version : String} {singleEntry : Bool}
  {time : Timestamp}
variable {compiled : CompiledGraph}
variable (hcompile : graph.compile version singleEntry time = .ok compiled)

include hcompile

theorem mem_entrypoints_compile {entry : Entrypoint} :
    entry ∈ compiled.entrypoints ↔
      entry ∈ graph.canonicalNodes.filterMap entrypointOf? ∧
      (singleEntry = true → ∀ other ∈ graph.nodes, other.kind = .trigger →
        entry.nodeId ≤ other.id) := by
  obtain ⟨findings, -, rfl⟩ := compile_eq_ok hcompile
  change entry ∈ entrypointsOf singleEntry graph.canonicalNodes ↔ _
  cases singleEntry with
  | false => simp [entrypointsOf]
  | true =>
    simp only [entrypointsOf, if_true, true_imp_iff]
    rw [mem_take_one_iff graph.entrypoints_increasing]
    refine and_congr_right fun _ => ⟨?_, ?_⟩
    · intro hleast other hother hkind
      obtain ⟨found, hfound⟩ := exists_entrypointOf? hkind
      rw [(entrypointOf?_eq_some hfound).1]
      exact hleast found
        (List.mem_filterMap.mpr ⟨other,
          graph.canonicalNodes_perm.mem_iff.mpr hother, hfound⟩)
    · intro hleast other hother
      obtain ⟨node, hnode, hfound⟩ := List.mem_filterMap.mp hother
      obtain ⟨hid, hkind⟩ := entrypointOf?_eq_some hfound
      rw [← hid]
      exact hleast node (graph.canonicalNodes_perm.mem_iff.mp hnode) hkind

/-- The entrypoints for a type are the triggers that it fires. -/
theorem mem_entrypointsFor_compile {triggerType nodeId : String} :
    nodeId ∈ (compiled.entrypointsFor triggerType).map Entrypoint.nodeId ↔
      graph.Fires singleEntry triggerType nodeId := by
  simp only [List.mem_map, CompiledGraph.entrypointsFor, List.mem_filter,
    beq_iff_eq, mem_entrypoints_compile hcompile, mem_entrypoints_iff]
  constructor
  · rintro ⟨_, ⟨⟨⟨node, hnode, properties, hproperties, rfl⟩, hfirst⟩, htype⟩,
      rfl⟩
    exact ⟨⟨node, hnode, rfl, properties, hproperties, htype⟩, hfirst⟩
  · rintro ⟨⟨node, hnode, rfl, properties, hproperties, htype⟩, hfirst⟩
    exact ⟨_, ⟨⟨⟨node, hnode, properties, hproperties, rfl⟩, hfirst⟩, htype⟩,
      rfl⟩

theorem entrypointsFor_increasing (triggerType : String) :
    ((compiled.entrypointsFor triggerType).map Entrypoint.nodeId).Pairwise
      (· < ·) := by
  have hall :
      (compiled.entrypoints.map Entrypoint.nodeId).Pairwise (· < ·) := by
    obtain ⟨findings, -, rfl⟩ := compile_eq_ok hcompile
    change ((entrypointsOf singleEntry graph.canonicalNodes).map
      Entrypoint.nodeId).Pairwise _
    rw [entrypointsOf]
    split
    · exact graph.entrypoints_increasing.sublist ((List.take_sublist _ _).map _)
    · exact graph.entrypoints_increasing
  exact hall.sublist (List.filter_sublist.map _)

theorem startable_of_compile {entry : Entrypoint}
    (hentry : entry ∈ compiled.entrypoints) :
    Stage.Startable compiled entry where
  starts := entryOf_of_mem hentry (nodeId_ne_empty_of_compile hcompile hentry)
  found := by
    obtain ⟨⟨node, hnode, properties, -, rfl⟩, -⟩ :=
      (and_congr_left' mem_entrypoints_iff).mp
        ((mem_entrypoints_compile hcompile).mp hentry)
    obtain ⟨findings, -, rfl⟩ := compile_eq_ok hcompile
    rw [find?_flatten, getNode?_of_mem hnode]
    rfl

end Fires

end Graph

namespace Stage

/-- Every call is put off, and the host remembers that there was one. -/
def procrastinating : Host :=
  fun _ _ context => ⟨context.setFlag "called" true, .deferred⟩

end Stage

end StoryGraph
