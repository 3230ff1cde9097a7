import StoryGraph.Proofs.Play.Counters
import StoryGraph.Proofs.Play.Hosted
import StoryGraph.Proofs.Play.Route

/-!
# What a limit cuts off

Two runs of an activation under different limits, with the same moves of the
host, go the same way until one of them reaches its limit.  A run that comes to
rest before that does not depend on the limit at all, and under a smaller limit
it stops at the first node beyond the limit, having done what the nodes before
it do.
-/

namespace StoryGraph

open Activation

namespace Turn

/-! ## Two limits -/

/-- How what an activation comes to under one limit compares with what it comes
to under another one: it has been stopped by the first limit, or is within the
other limit and has come to the same, or goes on to a node where the other limit
stops it. -/
inductive Cut (limit other : Nat) (full cut : Turn × Option Call) : Prop where
  | limited {nodeId : String}
      (hstate : full.1.activation.state = .aborted ⟨nodeId, .stepLimit limit⟩)
      (hcall : full.2 = none)
  | same (heq : cut = full) (hwithin : full.1.activation.visited.size ≤ other)
  | stopped {nodeId : String} {rest : List String}
      (hstate : cut.1.activation.state = .aborted ⟨nodeId, .stepLimit other⟩)
      (hcall : cut.2 = none) (hsize : cut.1.activation.visited.size = other)
      (hvisited : full.1.activation.visited.toList =
        cut.1.activation.visited.toList ++ nodeId :: rest)

variable {limit other : Nat}

theorem run_of_unknown {left : Nat} {nodeId : String} {turn : Turn}
    (hnode : turn.activation.graph.nodes.find? nodeId = none) :
    run limit left nodeId turn = (turn.abort nodeId .missingTarget, none) := by
  unfold run
  rw [hnode]

theorem run_zero {nodeId : String} {turn : Turn} {node : CompiledNode}
    (hnode : turn.activation.graph.nodes.find? nodeId = some node) :
    run limit 0 nodeId turn = (turn.abort nodeId (.stepLimit limit), none) := by
  unfold run
  rw [hnode]

theorem run_succ {left : Nat} {nodeId : String} {turn : Turn}
    {node : CompiledNode}
    (hnode : turn.activation.graph.nodes.find? nodeId = some node) :
    run limit (left + 1) nodeId turn =
      match turn.visitNode nodeId node with
      | (turn, .nowhere) => (turn, none)
      | (turn, .host call) => (turn, some call)
      | (turn, .node next) => run limit left next turn := by
  cases hvisit : turn.visitNode nodeId node with
  | mk later destination =>
    rw [run]
    cases destination <;> simp only [hnode, hvisit]

theorem run_visited (limit left : Nat) (nodeId : String) (turn : Turn) :
    ∃ rest, (run limit left nodeId turn).1.activation.visited.toList =
      turn.activation.visited.toList ++ rest := by
  fun_induction run limit left nodeId turn with
  | case1 => exact ⟨[], (List.append_nil _).symm⟩
  | case2 => exact ⟨[], (List.append_nil _).symm⟩
  | case3 nodeId turn node hnode _ later hvisit =>
    exact ⟨_, ((visited_of_eq hvisit).performs hnode).visited⟩
  | case4 nodeId turn node hnode _ later call hvisit =>
    exact ⟨_, ((visited_of_eq hvisit).performs hnode).visited⟩
  | case5 nodeId turn node hnode _ later next hvisit ih =>
    obtain ⟨rest, hrest⟩ := ih
    rw [((visited_of_eq hvisit).performs hnode).visited,
      List.append_assoc] at hrest
    exact ⟨_, hrest⟩

/-- Under a limit that allows for a visit, the node is visited first. -/
theorem run_enters {left : Nat} {nodeId : String} {turn : Turn}
    {node : CompiledNode}
    (hnode : turn.activation.graph.nodes.find? nodeId = some node) :
    ∃ rest, (run limit (left + 1) nodeId turn).1.activation.visited.toList =
      turn.activation.visited.toList ++ nodeId :: rest := by
  rw [run_succ hnode]
  have hvisited := visitNode_visited nodeId node turn
  split
  · next later hvisit =>
    rw [hvisit] at hvisited
    exact ⟨[], (hvisited.performs hnode).visited⟩
  · next later call hvisit =>
    rw [hvisit] at hvisited
    exact ⟨[], (hvisited.performs hnode).visited⟩
  · next later next hvisit =>
    rw [hvisit] at hvisited
    obtain ⟨rest, hrest⟩ := run_visited limit left next later
    rw [(hvisited.performs hnode).visited, List.append_assoc] at hrest
    exact ⟨rest, hrest⟩

theorem run_cut (limit left otherLeft : Nat) (nodeId : String) (turn : Turn)
    (hsize : turn.activation.visited.size + otherLeft = other) :
    Cut limit other (run limit left nodeId turn)
      (run other otherLeft nodeId turn) := by
  induction left generalizing otherLeft nodeId turn with
  | zero =>
    cases hnode : turn.activation.graph.nodes.find? nodeId with
    | none =>
      rw [run_of_unknown hnode, run_of_unknown hnode]
      exact .same rfl (by rw [← hsize]; exact Nat.le_add_right _ _)
    | some node =>
      rw [run_zero hnode]
      exact .limited rfl rfl
  | succ left ih =>
    cases hnode : turn.activation.graph.nodes.find? nodeId with
    | none =>
      rw [run_of_unknown hnode, run_of_unknown hnode]
      exact .same rfl (by rw [← hsize]; exact Nat.le_add_right _ _)
    | some node =>
      cases otherLeft with
      | zero =>
        obtain ⟨rest, hrest⟩ := @run_enters limit left _ _ _ hnode
        rw [run_zero hnode]
        exact .stopped rfl rfl hsize hrest
      | succ otherLeft =>
        rw [run_succ hnode, run_succ hnode]
        cases hvisit : turn.visitNode nodeId node with
        | mk later destination =>
          have hlength :=
            congrArg List.length ((visited_of_eq hvisit).performs hnode).visited
          rw [List.length_append, Array.length_toList,
            Array.length_toList] at hlength
          have hmore : later.activation.visited.size + otherLeft = other := by
            rw [hlength, List.length_singleton]
            omega
          cases destination with
          | nowhere => exact .same rfl (by simp only; omega)
          | host call => exact .same rfl (by simp only; omega)
          | node next => exact ih otherLeft next later hmore

section Same

variable {turn : Turn}
  (hsteps : turn.activation.steps = turn.activation.visited.size)
  (hwithin : turn.activation.visited.size ≤ other)

include hsteps hwithin

theorem continueAt_cut (limit : Nat) (nodeId : String) :
    Cut limit other (turn.continueAt limit nodeId)
      (turn.continueAt other nodeId) := by
  apply run_cut
  rw [hsteps]
  exact Nat.add_sub_of_le hwithin

theorem follow_cut (limit : Nat) (node : CompiledNode) (port : Nat) :
    Cut limit other (turn.follow limit node port)
      (turn.follow other node port) := by
  unfold follow
  split
  · exact .same rfl hwithin
  · exact continueAt_cut hsteps hwithin limit _

theorem resume_cut (limit : Nat) (report : Report) :
    Cut limit other (turn.resume limit report) (turn.resume other report) := by
  unfold resume
  split
  · split
    · exact .same rfl hwithin
    · split
      · exact .same rfl hwithin
      · exact follow_cut hsteps hwithin limit _ _
  · exact .same rfl hwithin

theorem receive_cut (limit : Nat) (answer : Answer) :
    Cut limit other (turn.receive limit answer)
      (turn.receive other answer) := by
  unfold receive
  split
  · exact .same rfl hwithin
  · split
    · split
      · exact .same rfl hwithin
      · split
        · exact follow_cut hsteps hwithin limit _ _
        · exact .same rfl hwithin
    · split <;> exact .same rfl hwithin
    · split <;> exact .same rfl hwithin
    · refine .same rfl ?_
      unfold cancel
      split <;> exact hwithin

end Same

/-! ## Moves of the host -/

section Heed

variable {standing : Turn × Option Call}

theorem heed_travels (move : HostMove)
    (htravels : standing.1.activation.Travels limit) :
    (heed limit move standing).1.activation.Travels limit := by
  unfold heed
  split
  · exact (receive_responds limit _ _).travels htravels
  · exact htravels
  · split
    · exact (resume_responds limit _ _).travels htravels
    · exact htravels

theorem heedAll_travels (moves : List HostMove)
    (htravels : standing.1.activation.Travels limit) :
    (heedAll limit moves standing).1.1.activation.Travels limit := by
  induction moves generalizing standing with
  | nil => exact htravels
  | cons move moves ih => exact ih (heed_travels move htravels)

/-- One move of the host changes nothing about how two runs compare. -/
theorem heed_cut (move : HostMove) {full cut : Turn × Option Call}
    (hcut : Cut limit other full cut)
    (htravels : full.1.activation.Travels limit) :
    Cut limit other (heed limit move full) (heed other move cut) := by
  cases hcut with
  | limited hstate hcall =>
    have hover := heed_of_over move limit hcall (by rw [hstate]; simp)
    exact .limited (by rw [hover]; exact hstate) (by rw [hover]; exact hcall)
  | same heq hwithin =>
    subst heq
    unfold heed
    split
    · exact receive_cut htravels.steps hwithin limit _
    · exact .same rfl hwithin
    · split
      · exact resume_cut htravels.steps hwithin limit _
      · exact .same rfl hwithin
  | stopped hstate hcall hsize hvisited =>
    have hover := heed_of_over move other hcall (by rw [hstate]; simp)
    obtain ⟨more, hmore⟩ := heed_visited move limit full
    rw [hvisited, List.append_assoc] at hmore
    rw [hover]
    exact .stopped hstate hcall hsize hmore

/-- Where a run neither reaches its own limit nor the other one, the other run
comes to the same. -/
theorem Cut.eq_of_heedAll {full cut : Turn × Option Call}
    (hcut : Cut limit other full cut) {moves : List HostMove}
    (hunlimited : Unlimited (heedAll limit moves full).1.1.activation.state)
    (hwithin : (heedAll limit moves full).1.1.activation.visited.size ≤ other) :
    cut = full := by
  cases hcut with
  | limited hstate hcall =>
    rw [(heedAll_of_over limit moves hcall (by rw [hstate]; simp)).1,
      hstate] at hunlimited
    exact absurd rfl (hunlimited _ rfl)
  | same heq _ => exact heq
  | stopped hstate hcall hsize hvisited =>
    obtain ⟨rest, hrest⟩ := heedAll_visited limit moves full
    have hlength := congrArg List.length hrest
    rw [hvisited] at hlength
    simp only [List.length_append, List.length_cons,
      Array.length_toList] at hlength
    omega

/-- Any number of moves changes nothing about how two runs compare, and as long
as neither reaches a limit, the responses are the same. -/
theorem heedAll_cut (moves : List HostMove) {full cut : Turn × Option Call}
    (hcut : Cut limit other full cut)
    (htravels : full.1.activation.Travels limit) :
    Cut limit other (heedAll limit moves full).1 (heedAll other moves cut).1 ∧
      (Unlimited (heedAll limit moves full).1.1.activation.state →
        (heedAll limit moves full).1.1.activation.visited.size ≤ other →
        (heedAll other moves cut).2 = (heedAll limit moves full).2) := by
  induction moves generalizing full cut with
  | nil => exact ⟨hcut, fun _ _ => rfl⟩
  | cons move moves ih =>
    have hnext := heed_cut move hcut htravels
    obtain ⟨hlast, hresponses⟩ := ih hnext (heed_travels move htravels)
    refine ⟨hlast, fun hunlimited hwithin => ?_⟩
    rw [heedAll_cons, heedAll_cons, hresponses hunlimited hwithin,
      hnext.eq_of_heedAll hunlimited hwithin,
      hcut.eq_of_heedAll hunlimited hwithin]

end Heed

end Turn

namespace Stage

open Turn Deed

section One

variable {limit : Nat} {supported : String} {context : Context}
  {events : List Event}

theorem calls_eq_map_made (responses : List Response) :
    calls responses = (responses.filterMap Response.made?).map Prod.snd := by
  rw [calls, List.map_filterMap]
  congr 1
  funext response
  cases response <;> rfl

/-- Deeds that are visits of one activation are determined by the nodes that it
visits. -/
theorem eq_visits {deeds : List Deed} {id : String} {graph : CompiledGraph}
    (hvisits : ∀ deed ∈ deeds, ∃ nodeId, deed = .visit id graph nodeId) :
    deeds = visits id graph (deeds.filterMap (visitBy? id)) := by
  induction deeds with
  | nil => rfl
  | cons deed deeds ih =>
    obtain ⟨nodeId, rfl⟩ := hvisits deed List.mem_cons_self
    have hrest :=
      ih fun other hmem => hvisits other (List.mem_cons_of_mem _ hmem)
    simp only [visitBy?, List.filterMap_cons, if_true]
    rw [visits, List.map_cons, ← visits, ← hrest]

/-- If the host does not edit the context, the only activation has done what the
nodes do that it has visited, and nothing else has happened. -/
theorem session_of_one (hunwritten : ∀ written, .write written ∉ events)
    {activation : Activation}
    (hone : (session events (initial limit supported context)).1.activations =
      [activation]) :
    (session events (initial limit supported context)).1.context.content =
        (activation.graph.replay activation.visited.toList context).content ∧
      calls (session events (initial limit supported context)).2 =
        activation.visited.toList.filterMap activation.graph.callAt? := by
  have hstage : (session events (initial limit supported context)).1.Orderly :=
    Reachable.orderly ⟨limit, supported, context, events, rfl⟩
  have haccounts :=
    (initial_orderly limit supported context).session_accounts events
  have hmem : activation ∈
      (session events (initial limit supported context)).1.activations := by
    rw [hone]
    exact List.mem_singleton_self _
  have hdeeds : chronicle events (initial limit supported context) =
      visits activation.id activation.graph activation.visited.toList := by
    rw [← haccounts.visits_of_mem hstage hmem]
    apply eq_visits
    intro deed hdeed
    cases deed with
    | edit written =>
      exact absurd (edit_mem_chronicle hdeed) (hunwritten written)
    | visit id graph nodeId =>
      obtain ⟨visitor, hvisitor, rfl, rfl⟩ := haccounts.visitor hdeed
      rw [hone] at hvisitor
      rw [List.mem_singleton.mp hvisitor]
      exact ⟨nodeId, rfl⟩
  constructor
  · rw [haccounts.content, hdeeds, replay_visits]
    rfl
  · rw [calls_eq_map_made, ← haccounts.calls, hdeeds, filterMap_call?_visits,
      List.map_map]
    exact List.map_id _

end One

theorem not_write_mem_events {graph : CompiledGraph} {entry : Option String}
    {id : String} {moves : List HostMove} (written : Context) :
    Event.write written ∉ Event.activate graph entry ::
      moves.map (HostMove.event id) := by
  intro hmem
  rcases List.mem_cons.mp hmem with heq | hmove
  · cases heq
  · obtain ⟨move, -, heq⟩ := List.mem_map.mp hmove
    cases move <;> cases heq

/-! ## A single activation under a limit -/

section Hosted

variable (limit other : Nat) (context : Context) (graph : CompiledGraph)
  (nodeId : String) (moves : List HostMove)

theorem opening_travels :
    (opening limit context graph nodeId).1.activation.Travels limit :=
  (continueAt_walks limit nodeId _).travels
    ((onRoute_start firstId graph nodeId).withState _) .start

theorem hosted_travels :
    (hosted limit context graph nodeId moves).1.1.activation.Travels limit :=
  heedAll_travels moves (opening_travels limit context graph nodeId)

theorem opening_cut :
    Cut limit other (opening limit context graph nodeId)
      (opening other context graph nodeId) :=
  continueAt_cut rfl (Nat.zero_le other) limit nodeId

theorem hosted_cut : Cut limit other (hosted limit context graph nodeId moves).1
    (hosted other context graph nodeId moves).1 :=
  (heedAll_cut moves (opening_cut limit other context graph nodeId)
    (opening_travels limit context graph nodeId)).1

variable {limit other context graph nodeId moves}

/-- The activation does not depend on a limit that it does not reach. -/
theorem hosted_within
    (hunlimited : Unlimited
      (hosted limit context graph nodeId moves).1.1.activation.state)
    (hwithin : (hosted limit context graph nodeId
      moves).1.1.activation.visited.size ≤ other) :
    opening other context graph nodeId = opening limit context graph nodeId ∧
      hosted other context graph nodeId moves =
        hosted limit context graph nodeId moves := by
  have hfirst := opening_cut limit other context graph nodeId
  have hlast := hosted_cut limit other context graph nodeId moves
  have hresponses :=
    (heedAll_cut moves hfirst (opening_travels limit context graph nodeId)).2
  exact ⟨hfirst.eq_of_heedAll hunlimited hwithin, Prod.ext
    (@Cut.eq_of_heedAll _ _ _ _ hlast [] hunlimited hwithin)
    (hresponses hunlimited hwithin)⟩

end Hosted

/-! ## The limit only cuts off -/

/-- An activation that comes to rest without reaching its limit visits the same
nodes and does the same under every limit that allows for so many visits.  Under
a smaller one it is stopped at the first node beyond the limit, having done what
the nodes before that one do, and nothing happens any more. -/
theorem limit_truncates {graph : CompiledGraph} {entry : Option String}
    {nodeId : String} {supported : String}
    (hsupported : supportOf graph.metadata.version supported = .satisfied)
    (hentry : entryOf graph entry = .ok nodeId) (limit : Nat)
    (context : Context) (moves : List HostMove) :
    let played (limit : Nat) := session (.activate graph entry ::
      moves.map (HostMove.event firstId)) (initial limit supported context)
    ∃ activation, (played limit).1.activations = [activation] ∧
      (Unlimited activation.state → ∀ other,
        (activation.visited.size ≤ other →
          (played other).1 = { (played limit).1 with limit := other } ∧
            (played other).2 = (played limit).2) ∧
        (other < activation.visited.size → ∃ next cut,
          activation.visited[other]? = some next ∧
          (played other).1.activations = [cut] ∧
          cut.state = .aborted ⟨next, .stepLimit other⟩ ∧ cut.steps = other ∧
          cut.visited.toList = activation.visited.toList.take other ∧
          (played other).1.context.content =
            (graph.replay (activation.visited.toList.take other)
              context).content ∧
          calls (played other).2 =
            (activation.visited.toList.take other).filterMap graph.callAt? ∧
          ∀ more : List HostMove,
            let later :=
              session (more.map (HostMove.event firstId)) (played other).1
            later.1 = (played other).1 ∧ calls later.2 = [])) := by
  intro played
  have hplayed (limit : Nat) : played limit = _ :=
    session_hosted hsupported hentry
  refine ⟨(hosted limit context graph nodeId moves).1.1.activation,
    by rw [hplayed]; rfl,
    fun hunlimited other => ⟨?within, ?beyond⟩⟩
  case within =>
    intro hwithin
    obtain ⟨hfirst, hlast⟩ := hosted_within hunlimited hwithin
    rw [hplayed, hplayed, hfirst, hlast]
    exact ⟨rfl, rfl⟩
  case beyond =>
    intro hbeyond
    cases hosted_cut limit other context graph nodeId moves with
    | limited hstate _ => exact absurd rfl (hunlimited _ hstate)
    | same _ hwithin => exact absurd hbeyond (Nat.not_lt.mpr hwithin)
    | @stopped next rest hstate hcall hsize hvisited =>
      have hone : (played other).1.activations =
          [(hosted other context graph nodeId moves).1.1.activation] := by
        rw [hplayed]
        rfl
      have hlength : (hosted other context graph nodeId
          moves).1.1.activation.visited.toList.length = other := by
        rw [Array.length_toList, hsize]
      have htake :
          (hosted limit context graph nodeId
            moves).1.1.activation.visited.toList.take other =
              (hosted other context graph nodeId
                moves).1.1.activation.visited.toList := by
        rw [hvisited, List.take_left' hlength]
      have hnext :
          (hosted limit context graph nodeId
            moves).1.1.activation.visited[other]? = some next := by
        rw [← Array.getElem?_toList, hvisited,
          List.getElem?_append_right (Nat.le_of_eq hlength), hlength,
          Nat.sub_self]
        rfl
      obtain ⟨hcontent, hcalls⟩ := session_of_one not_write_mem_events hone
      rw [(hosted_continues other context graph nodeId moves).graph]
        at hcontent hcalls
      have hsteps := (hosted_travels other context graph nodeId moves).steps
      refine ⟨next, _, hnext, hone, hstate, hsteps.trans hsize, htake.symm, ?_,
        ?_, fun more => ?_⟩
      · rw [htake]
        exact hcontent
      · rw [htake]
        exact hcalls
      · rw [hplayed]
        exact session_over hcall (by rw [hstate]; simp) more

/-- A trigger that leads to a ride for a coin, after which the next one
begins. -/
def carousel : CompiledGraph :=
  ⟨"carousel", "", some "entry", [⟨"entry", "player_enter", "always"⟩],
    ⟨[("entry", ⟨.trigger, .empty, [["pay"]]⟩),
      ("pay", ⟨.action,
        ⟨[("actionType", .str "increment_variable"), ("target", .str "paid")],
          by decide⟩, [["ride"]]⟩),
      ("ride", ⟨.dialogue, ⟨[("text", .str "Round we go.")], by decide⟩,
        [["pay"]]⟩)],
      by decide⟩,
    tollgate.metadata⟩

/-- The first ride is put off and then ends; the second one is put off. -/
def rides : List HostMove :=
  [.answer .deferred, .resume (.value .null), .answer .deferred]

/-- Two rides under a limit, and the responses. -/
def ridden (limit : Nat) : Stage × List Response :=
  session (.activate carousel none :: rides.map (HostMove.event firstId))
    (initial limit ">=1.0" .empty)

/-- The limit of five allows for both rides, and that of three for the first
one. -/
theorem carousel_truncated :
    (ridden 256).1.activations.map
        (fun activation => (activation.visited.toList, activation.state)) =
        [(["entry", "pay", "ride", "pay", "ride"], .suspended)] ∧
      (ridden 5).1 = { (ridden 256).1 with limit := 5 } ∧
      ∃ cut, (ridden 3).1.activations = [cut] ∧
        cut.state = .aborted ⟨"pay", .stepLimit 3⟩ ∧
        (ridden 3).1.context.content =
          (⟨[("paid", .int 1)], by decide⟩, .empty) ∧
        calls (ridden 3).2 =
          [.presentDialogue ⟨"NPC", "Round we go.", ""⟩] := by
  have hfull :
      (ridden 256).1.activations.map
        (fun activation => (activation.visited.toList, activation.state)) =
          [(["entry", "pay", "ride", "pay", "ride"], .suspended)] := by
    decide +kernel
  obtain ⟨activation, hone, hcuts⟩ :=
    @limit_truncates carousel none "entry" ">=1.0"
      (by decide +kernel) (by decide +kernel) 256 .empty rides
  have hone : (ridden 256).1.activations = [activation] := hone
  obtain ⟨hvisited, hstate⟩ : activation.visited.toList =
    ["entry", "pay", "ride", "pay", "ride"] ∧
      activation.state = .suspended := by simpa [hone] using hfull
  have hsize : activation.visited.size = 5 := by
    rw [← Array.length_toList, hvisited]; rfl
  have hunlimited : Unlimited activation.state := by
    rw [hstate]
    exact unlimited_of_diagnostic? rfl
  refine ⟨hfull, ((hcuts hunlimited 5).1 (Nat.le_of_eq hsize)).1, ?_⟩
  obtain ⟨next, cut, hnext, hcut, haborted, -, -, hcontent, hcalls, -⟩ :=
    (hcuts hunlimited 3).2 (by omega)
  rw [← Array.getElem?_toList, hvisited] at hnext
  cases hnext
  rw [hvisited] at hcontent hcalls
  exact ⟨cut, hcut, haborted, hcontent.trans (by decide +kernel),
    hcalls.trans (by decide +kernel)⟩

end Stage

end StoryGraph
