import StoryGraph.Proofs.Play.Effect
import StoryGraph.Proofs.Play.Ended

/-!
# The chronicle of a session

Variables and flags change only by deeds: an activation visits a node, or the
host edits the context.  The chronicle of a session lists its deeds in the order
in which they happen.  It accounts for all that can be observed: each activation
has visited the nodes of its deeds, the calls are those of the visited nodes,
each of them made once, and the variables and flags are what the deeds make of
them, one after the other.
-/

namespace StoryGraph

/-- What may change the variables and flags. -/
inductive Deed where
  /-- An activation visits a node of its graph. -/
  | visit (id : String) (graph : CompiledGraph) (nodeId : String)
  /-- The host edits the context. -/
  | edit (context : Context)
  deriving DecidableEq

namespace Deed

/-- What a deed makes of a context. -/
def apply : Deed → Context → Context
  | visit _ graph nodeId, context => graph.effectAt nodeId context
  | edit written, _ => written

/-- The id of the caller and the call, if the deed makes one. -/
def call? : Deed → Option (String × Call)
  | visit id graph nodeId => (graph.callAt? nodeId).map fun call => (id, call)
  | edit _ => none

/-- The node that an activation visits in a deed. -/
def visitBy? (id : String) : Deed → Option String
  | visit visitor _ nodeId => if visitor = id then some nodeId else none
  | edit _ => none

/-- What some deeds, one after the other, make of a context. -/
def replay (deeds : List Deed) (context : Context) : Context :=
  deeds.foldl (fun context deed => deed.apply context) context

/-- Some visits of one activation. -/
def visits (id : String) (graph : CompiledGraph)
    (nodeIds : List String) : List Deed :=
  nodeIds.map (visit id graph)

theorem replay_append (first second : List Deed) (context : Context) :
    replay (first ++ second) context = replay second (replay first context) :=
  List.foldl_append

theorem content_apply (deed : Deed) {context other : Context}
    (hcontent : context.content = other.content) :
    (deed.apply context).content = (deed.apply other).content := by
  cases deed with
  | visit id graph nodeId => exact graph.content_effectAt nodeId hcontent
  | edit written => rfl

theorem content_replay (deeds : List Deed) {context other : Context}
    (hcontent : context.content = other.content) :
    (replay deeds context).content = (replay deeds other).content := by
  induction deeds generalizing context other with
  | nil => exact hcontent
  | cons deed deeds ih => exact ih (deed.content_apply hcontent)

section Visits

variable (id : String) (graph : CompiledGraph) (nodeIds : List String)

theorem replay_visits (context : Context) :
    replay (visits id graph nodeIds) context = graph.replay nodeIds context :=
  List.foldl_map

theorem filterMap_call?_visits : (visits id graph nodeIds).filterMap call? =
    (nodeIds.filterMap graph.callAt?).map fun call => (id, call) := by
  rw [visits, List.filterMap_map, List.map_filterMap]
  rfl

theorem filterMap_visitBy?_visits (other : String) :
    (visits id graph nodeIds).filterMap (visitBy? other) = if id = other then
      nodeIds else [] := by
  rw [visits, List.filterMap_map]
  split
  · next heq =>
    have hsome : visitBy? other ∘ visit id graph = some :=
      funext fun _ => if_pos heq
    rw [hsome, List.filterMap_some]
  · next hne =>
    have hnone : visitBy? other ∘ visit id graph = fun _ => none :=
      funext fun _ => if_neg hne
    rw [hnone, List.filterMap_none]

end Visits

end Deed

namespace Stage

open Activation Deed

/-- The nodes that an activation has visited so far, in order. -/
def visitedBy (stage : Stage) (id : String) : List String :=
  match stage.started? id with
  | some activation => activation.visited.toList
  | none => []

/-- The visits since an earlier stage.  An activation that goes on comes before
those that begin afterwards. -/
def visitsSince (earlier later : Stage) : List Deed :=
  later.activations.flatMap fun activation =>
    visits activation.id activation.graph
      (activation.visited.toList.drop (earlier.visitedBy activation.id).length)

/-- What happens to the variables and flags during an event. -/
def deeds (stage : Stage) (event : Event) : List Deed :=
  match event with
  | .write context => [.edit context]
  | _ => stage.visitsSince (stage.step event).1

/-- What happens to the variables and flags during a session. -/
def chronicle : List Event → Stage → List Deed
  | [], _ => []
  | event :: events, stage =>
    stage.deeds event ++ chronicle events (stage.step event).1

/-! ## Accounts -/

/-- Some deeds account for everything between two stages: for the visits, the
variables and flags, and the calls that have been made. -/
structure Accounts (stage : Stage) (deeds : List Deed)
    (made : List (String × Call)) (later : Stage) : Prop where
  visited : ∀ id, later.visitedBy id = stage.visitedBy id ++
    deeds.filterMap (visitBy? id)
  content : later.context.content = (replay deeds stage.context).content
  calls : deeds.filterMap Deed.call? = made
  graphs : ∀ {id graph nodeId}, .visit id graph nodeId ∈ deeds →
    ∃ activation, later.started? id = some activation ∧ activation.graph = graph
  stays : ∀ {id activation}, stage.started? id = some activation →
    ∃ after, later.started? id = some after ∧ after.graph = activation.graph

theorem Accounts.refl (stage : Stage) : stage.Accounts [] [] stage where
  visited _ := (List.append_nil _).symm
  content := rfl
  calls := rfl
  graphs hmem := by cases hmem
  stays hstarted := ⟨_, hstarted, rfl⟩

theorem Accounts.trans {first second third : Stage} {earlier later : List Deed}
    {before after : List (String × Call)}
    (hfirst : first.Accounts earlier before second)
    (hsecond : second.Accounts later after third) :
    first.Accounts (earlier ++ later) (before ++ after) third where
  visited id := by
    rw [hsecond.visited, hfirst.visited, List.filterMap_append,
      List.append_assoc]
  content := by
    -- The second stage may have other active events than the replay: they do
    -- not matter.
    rw [hsecond.content, replay_append]
    exact content_replay _ hfirst.content
  calls := by rw [List.filterMap_append, hfirst.calls, hsecond.calls]
  graphs := by
    intro id graph nodeId hmem
    rcases List.mem_append.mp hmem with hold | hnew
    · obtain ⟨activation, hstarted, hgraph⟩ := hfirst.graphs hold
      obtain ⟨last, hlast, hsame⟩ := hsecond.stays hstarted
      exact ⟨last, hlast, hsame.trans hgraph⟩
    · exact hsecond.graphs hnew
  stays := by
    intro id activation hstarted
    obtain ⟨middle, hmiddle, hgraph⟩ := hfirst.stays hstarted
    obtain ⟨last, hlast, hsame⟩ := hsecond.stays hmiddle
    exact ⟨last, hlast, hsame.trans hgraph⟩

theorem visitedBy_of_started? {stage : Stage} {id : String}
    {activation : Activation} (hstarted : stage.started? id = some activation) :
    stage.visitedBy id = activation.visited.toList := by
  rw [visitedBy, hstarted]

theorem visitedBy_of_not_started {stage : Stage} {id : String}
    (hnone : stage.started? id = none) : stage.visitedBy id = [] := by
  rw [visitedBy, hnone]

theorem visitedBy_congr {stage later : Stage} {id : String}
    (hsame : later.started? id = stage.started? id) :
    later.visitedBy id = stage.visitedBy id := by
  rw [visitedBy, visitedBy, hsame]

/-- Deeds account for activations and for what the context holds: the rest of
the later stage does not matter. -/
theorem Accounts.of_same {stage later other : Stage} {deeds : List Deed}
    {made : List (String × Call)} (haccounts : stage.Accounts deeds made later)
    (hactivations : other.activations = later.activations)
    (hcontext : other.context = later.context) :
    stage.Accounts deeds made other := by
  have hstarted (id : String) : other.started? id = later.started? id := by
    rw [started?, started?, hactivations]
  refine ⟨fun id => ?_, ?_, haccounts.calls, fun hmem => ?_, fun hfound => ?_⟩
  · rw [visitedBy_congr (hstarted id), haccounts.visited]
  · rw [hcontext, haccounts.content]
  · rw [hstarted]
    exact haccounts.graphs hmem
  · rw [hstarted]
    exact haccounts.stays hfound

/-- The calls of a turn, with the id of the activation that takes it. -/
def callsOf (id : String) (call? : Option Call) : List (String × Call) :=
  call?.toList.map fun call => (id, call)

/-! ## One turn -/

section Turns

variable {stage : Stage} {activation : Activation}
  {turn : Turn → Turn × Option Call}
variable {fresh : List String}

/-- The turn of an activation is accounted for by its visits. -/
theorem advance_accounts (firing? : Option Firing)
    (hstarted : stage.started? activation.id = some activation)
    (hcontinues : activation.Continues
      (turn ⟨stage.context, activation⟩).1.activation)
    (hperforms : Turn.Performs ⟨stage.context, activation⟩
      (turn ⟨stage.context, activation⟩).1
      (turn ⟨stage.context, activation⟩).2 fresh) :
    stage.Accounts (visits activation.id activation.graph fresh)
      (callsOf activation.id (turn ⟨stage.context, activation⟩).2)
      (stage.advance firing? activation turn) where
  visited id := by
    rw [filterMap_visitBy?_visits]
    split
    · next heq =>
      subst heq
      rw [visitedBy_of_started?
        (started?_advance_self firing? hstarted hcontinues),
        visitedBy_of_started? hstarted, hperforms.visited]
    · next hne =>
      rw [visitedBy_congr
        (started?_advance_other firing? (Ne.symm hne) hcontinues),
        List.append_nil]
  content := by
    rw [advance_context, hperforms.content, replay_visits]
  calls := by
    rw [filterMap_call?_visits, hperforms.calls]
    rfl
  graphs := by
    intro id graph nodeId hmem
    obtain ⟨visited, -, heq⟩ := List.mem_map.mp hmem
    cases heq
    exact ⟨_, started?_advance_self firing? hstarted hcontinues,
      hcontinues.graph⟩
  stays := by
    intro id found hfound
    by_cases hid : id = activation.id
    · subst hid
      rw [hstarted] at hfound
      cases hfound
      exact ⟨_, started?_advance_self firing? hstarted hcontinues,
        hcontinues.graph⟩
    · exact ⟨found,
        (started?_advance_other firing? hid hcontinues).trans hfound, rfl⟩

/-- The only visits of a turn are those of the activation that takes it. -/
theorem Orderly.visitsSince_advance (horderly : stage.Orderly)
    (firing? : Option Firing)
    (hstarted : stage.started? activation.id = some activation)
    (hcontinues : activation.Continues
      (turn ⟨stage.context, activation⟩).1.activation)
    (hperforms : Turn.Performs ⟨stage.context, activation⟩
      (turn ⟨stage.context, activation⟩).1
      (turn ⟨stage.context, activation⟩).2 fresh) :
    stage.visitsSince (stage.advance firing? activation turn) =
      visits activation.id activation.graph fresh := by
  rw [visitsSince, advance_activations, replace, List.flatMap_map,
    ← flatMap_of_distinct horderly.distinct (List.mem_of_find?_eq_some hstarted)
      (visits activation.id activation.graph fresh)]
  -- All other activations have visited as much as before, which leaves nothing
  -- of them.
  apply List.flatMap_congr
  intro old hold
  by_cases hid : old.id = activation.id
  · have hmoved := hperforms.visited
    simp only at hmoved
    rw [if_pos (hid.trans hcontinues.id.symm), if_pos (beq_iff_eq.mpr hid),
      hcontinues.id, hcontinues.graph, visitedBy_of_started? hstarted, hmoved,
      List.drop_left]
  · rw [if_neg (hcontinues.id ▸ hid), if_neg (by simpa using hid),
      visitedBy_of_started? (horderly.started?_of_mem hold), List.drop_length]
    rfl

end Turns

/-! ## New activations -/

section Begins

variable {stage earlier : Stage} (horderly : stage.Orderly)
variable (graph : CompiledGraph) (nodeId : String)

/-- The first turn of a new activation. -/
def firstTurn (stage : Stage) (graph : CompiledGraph)
    (nodeId : String) : Turn × Option Call :=
  Turn.continueAt stage.limit nodeId
    ⟨(stage.enroll graph nodeId).1.context, (stage.enroll graph nodeId).2⟩

theorem continues_firstTurn :
    (stage.enroll graph nodeId).2.Continues
      (stage.firstTurn graph nodeId).1.activation :=
  Turn.continues_continueAt _ _ ⟨_, _⟩

include horderly

theorem Orderly.started?_enroll_self :
    (stage.enroll graph nodeId).1.started? (stage.enroll graph nodeId).2.id =
      some (stage.enroll graph nodeId).2 := by
  rw [started?_enroll, horderly.started?_enroll_id, if_pos rfl, Option.none_or]

omit horderly in
/-- An activation that has not visited a node yet changes nothing. -/
theorem enroll_accounts :
    stage.Accounts [] [] (stage.enroll graph nodeId).1 where
  visited id := by
    rw [List.filterMap_nil, List.append_nil, visitedBy, visitedBy,
      started?_enroll]
    cases hstarted : stage.started? id with
    | some activation => rfl
    | none =>
      by_cases hid : (stage.enroll graph nodeId).2.id = id
      · rw [if_pos hid]
        rfl
      · rw [if_neg hid]
        rfl
  content := rfl
  calls := rfl
  graphs hmem := by cases hmem
  stays {id activation} hstarted :=
    ⟨activation, by rw [started?_enroll, hstarted, Option.some_or], rfl⟩

theorem Orderly.begin_accounts (firing? : Option Firing) {fresh : List String}
    (hperforms : Turn.Performs
      ⟨(stage.enroll graph nodeId).1.context, (stage.enroll graph nodeId).2⟩
      (stage.firstTurn graph nodeId).1 (stage.firstTurn graph nodeId).2 fresh) :
    stage.Accounts (visits (stage.enroll graph nodeId).2.id graph fresh)
      (callsOf (stage.enroll graph nodeId).2.id
        (stage.firstTurn graph nodeId).2)
      (stage.begin firing? graph nodeId) :=
  (enroll_accounts graph nodeId).trans
    (advance_accounts firing? (horderly.started?_enroll_self graph nodeId)
      (continues_firstTurn graph nodeId) hperforms)

/-- The new activation comes after all others. -/
theorem Orderly.activations_begin (firing? : Option Firing) :
    (stage.begin firing? graph nodeId).activations =
      stage.activations ++ [(stage.firstTurn graph nodeId).1.activation] := by
  have hid := (@continues_firstTurn stage graph nodeId).id
  have hactivations : (stage.enroll graph nodeId).1.activations =
      stage.activations ++ [(stage.enroll graph nodeId).2] := rfl
  have hothers :=
    replaced_of_find?_eq_none (horderly.started?_enroll_id graph nodeId)
      (stage.firstTurn graph nodeId).1.activation
  rw [Stage.begin, advance_activations, replace]
  change ((stage.enroll graph nodeId).1.activations.map fun old =>
    if old.id = (stage.firstTurn graph nodeId).1.activation.id then
      (stage.firstTurn graph nodeId).1.activation else old) = _
  rw [hactivations, List.map_append, List.map_singleton, if_pos hid.symm, hid,
    hothers]

/-- The visits of a new activation come after all others. -/
theorem Orderly.visitsSince_begin (firing? : Option Firing)
    {fresh : List String}
    (hidle : earlier.visitedBy (stage.enroll graph nodeId).2.id = [])
    (hperforms : Turn.Performs ⟨(stage.enroll graph nodeId).1.context,
      (stage.enroll graph nodeId).2⟩ (stage.firstTurn graph nodeId).1
        (stage.firstTurn graph nodeId).2 fresh) :
    earlier.visitsSince (stage.begin firing? graph nodeId) =
      earlier.visitsSince stage ++
        visits (stage.enroll graph nodeId).2.id graph fresh := by
  have hcontinues := @continues_firstTurn stage graph nodeId
  have hvisited :
      (stage.firstTurn graph nodeId).1.activation.visited.toList = fresh :=
    hperforms.visited
  have hgraph : (stage.firstTurn graph nodeId).1.activation.graph = graph :=
    hcontinues.graph
  rw [visitsSince, horderly.activations_begin, List.flatMap_append,
    List.flatMap_singleton, hcontinues.id, hgraph, hidle, hvisited]
  rfl

end Begins

/-! ## Events -/

/-- The visits since an earlier stage account for everything that has
happened. -/
abbrev Recounts (earlier : Stage) (made : List (String × Call))
    (later : Stage) : Prop :=
  earlier.Accounts (earlier.visitsSince later) made later

section Recounts

variable {earlier stage : Stage} (horderly : stage.Orderly)

include horderly

theorem Orderly.visitsSince_self : stage.visitsSince stage = [] := by
  rw [visitsSince, List.flatMap_eq_nil_iff]
  intro activation hmem
  rw [visitedBy_of_started? (horderly.started?_of_mem hmem), List.drop_length]
  rfl

theorem Orderly.recounts_self : stage.Recounts [] stage := by
  rw [Recounts, horderly.visitsSince_self]
  exact .refl stage

theorem Orderly.advance_recounts (firing? : Option Firing)
    {activation : Activation} {turn : Turn → Turn × Option Call}
    (hstarted : stage.started? activation.id = some activation)
    (hcontinues : activation.Continues
      (turn ⟨stage.context, activation⟩).1.activation)
    (hperforms : ∃ fresh,
      Turn.Performs ⟨stage.context, activation⟩
        (turn ⟨stage.context, activation⟩).1
        (turn ⟨stage.context, activation⟩).2 fresh) :
    stage.Recounts (callsOf activation.id (turn ⟨stage.context, activation⟩).2)
      (stage.advance firing? activation turn) := by
  obtain ⟨fresh, hperforms⟩ := hperforms
  rw [Recounts,
    horderly.visitsSince_advance firing? hstarted hcontinues hperforms]
  exact advance_accounts firing? hstarted hcontinues hperforms

omit horderly in
/-- Tasks that are over do not matter. -/
theorem recounts_of_erase {task : Task} {made : List (String × Call)}
    {later : Stage}
    (hrecounts : Recounts { stage with tasks := stage.tasks.erase task }
      made later) : stage.Recounts made later where
  visited := hrecounts.visited
  content := hrecounts.content
  calls := hrecounts.calls
  graphs := hrecounts.graphs
  stays := hrecounts.stays

theorem Orderly.begin_recounts (hrecounts : earlier.Recounts [] stage)
    (firing? : Option Firing) (graph : CompiledGraph) (nodeId : String) :
    earlier.Recounts
      (callsOf (stage.enroll graph nodeId).2.id
        (stage.firstTurn graph nodeId).2)
      (stage.begin firing? graph nodeId) := by
  obtain ⟨fresh, hperforms⟩ := (Turn.continueAt_walks stage.limit nodeId
    ⟨(stage.enroll graph nodeId).1.context,
      (stage.enroll graph nodeId).2⟩).performs
  have hidle : earlier.visitedBy (stage.enroll graph nodeId).2.id = [] := by
    have hvisited := hrecounts.visited (stage.enroll graph nodeId).2.id
    rw [visitedBy_of_not_started (horderly.started?_enroll_id graph nodeId)]
      at hvisited
    exact (List.append_eq_nil_iff.mp hvisited.symm).1
  rw [Recounts, horderly.visitsSince_begin graph nodeId firing? hidle hperforms]
  exact hrecounts.trans (horderly.begin_accounts graph nodeId firing? hperforms)

theorem Orderly.start_recounts (hrecounts : earlier.Recounts [] stage)
    {later : Stage} {graph : CompiledGraph} {entry : Option String}
    {id : String} {call? : Option Call} (firing? : Option Firing)
    (hstart : stage.start graph entry = .ok (later, id, call?)) :
    earlier.Recounts (callsOf id call?) (later.keep firing? id call?) := by
  obtain ⟨nodeId, -, hplay, hid⟩ := start_eq_ok hstart
  have hbegin := horderly.begin_recounts hrecounts firing? graph nodeId
  have hcall : (stage.firstTurn graph nodeId).2 = call? :=
    congrArg Prod.snd hplay
  rwa [Stage.begin, Stage.advance, hplay, hid, hcall] at hbegin

end Recounts

end Stage

/-- The id of the caller and the call, if the response makes one. -/
def Response.made? : Response → Option (String × Call)
  | .called id call => some (id, call)
  | _ => none

namespace Stage

open Deed

theorem Orderly.fireAll_recounts {earlier stage : Stage}
    (horderly : stage.Orderly) (hrecounts : earlier.Recounts [] stage)
    (graph : CompiledGraph) (left : List Entrypoint) (started : List String) :
    earlier.Recounts (stage.fireAll graph left started).2.made?.toList
      (stage.fireAll graph left started).1 := by
  induction left generalizing started stage with
  | nil => exact hrecounts
  | cons entry left ih =>
    rw [fireAll]
    split
    · exact hrecounts
    · next hstart => exact horderly.start_recounts hrecounts _ hstart
    · next hstart =>
      exact ih (horderly.reaches (.single (.begins (start_begins none hstart))))
        (horderly.start_recounts hrecounts none hstart) _

/-- After the turn of an activation, its firing may go on. -/
theorem settle_recounts {earlier stage : Stage} {firing? : Option Firing}
    {id : String} {call? : Option Call}
    (horderly : (stage.keep firing? id call?).Orderly)
    (hrecounts : earlier.Recounts (callsOf id call?)
      (stage.keep firing? id call?)) :
    earlier.Recounts (stage.settle firing? id call?).2.made?.toList
      (stage.settle firing? id call?).1 := by
  cases call? with
  | some call => exact hrecounts
  | none =>
    cases firing? with
    | none => exact hrecounts
    | some firing => exact horderly.fireAll_recounts hrecounts _ _ _

section Events

variable {stage : Stage} (horderly : stage.Orderly)

include horderly

theorem Orderly.activate_recounts (graph : CompiledGraph)
    (entry : Option String) :
    stage.Recounts (stage.activate graph entry).2.made?.toList
      (stage.activate graph entry).1 := by
  rw [Stage.activate]
  split
  · exact horderly.recounts_self
  · next hstart =>
    exact settle_recounts
      (horderly.reaches (.single (.begins (start_begins none hstart))))
      (horderly.start_recounts horderly.recounts_self none hstart)

theorem Orderly.fire_recounts (graph : CompiledGraph) (triggerType : String) :
    stage.Recounts (stage.fire graph triggerType).2.made?.toList
      (stage.fire graph triggerType).1 := by
  rw [fire]
  split
  · exact horderly.recounts_self
  · exact horderly.fireAll_recounts horderly.recounts_self _ _ _

theorem Orderly.resume_recounts (id : String) (report : Report) :
    stage.Recounts (stage.resume id report).2.made?.toList
      (stage.resume id report).1 := by
  rw [resume]
  split
  · exact horderly.recounts_self
  · next activation hregistered =>
    have hstarted := started?_of_activation? hregistered
    have hid := started?_id hstarted
    have hafter := horderly.advance_recounts none (hid ▸ hstarted)
      (Turn.continues_resume stage.limit report ⟨_, _⟩)
      (Turn.resume_responds _ _ _).performs
    have horder := horderly.resumes report hregistered
    rw [Stage.advance, hid] at hafter horder
    exact settle_recounts horder hafter

theorem Orderly.cancel_recounts (id : String) :
    stage.Recounts (stage.cancel id).2.made?.toList (stage.cancel id).1 := by
  rw [cancel]
  split
  · exact horderly.recounts_self
  · next activation hregistered =>
    have hstarted := started?_of_activation? hregistered
    have hid := started?_id hstarted
    exact @advance_recounts stage horderly none activation
      (fun turn => (turn.cancel, none))
      (hid ▸ hstarted) (Turn.continues_cancel ⟨_, _⟩)
        (Turn.cancel_responds 0 _).performs

theorem Orderly.answer_recounts (id : String) (answer : Answer) :
    stage.Recounts (stage.answer id answer).2.made?.toList
      (stage.answer id answer).1 := by
  rw [Stage.answer]
  split
  · next task activation htask hstarted =>
    have hid := started?_id hstarted
    have hafter :=
      (horderly.erase task).advance_recounts task.firing? (hid ▸ hstarted)
        (Turn.continues_receive stage.limit answer ⟨_, _⟩)
        (Turn.receive_responds _ _ _).performs
    have horder := horderly.receives answer htask hstarted
    rw [Stage.advance, hid] at hafter horder
    split
    · simp only [play, Turn.receive_interrupted_call] at hafter
      exact recounts_of_erase hafter
    · exact settle_recounts horder (recounts_of_erase hafter)
  · exact horderly.recounts_self

/-- The deeds of an event account for it. -/
theorem Orderly.step_accounts (event : Event) :
    stage.Accounts (stage.deeds event) (stage.step event).2.made?.toList
      (stage.step event).1 := by
  cases event with
  | activate graph entry => exact horderly.activate_recounts graph entry
  | fire graph triggerType => exact horderly.fire_recounts graph triggerType
  | resume id report => exact horderly.resume_recounts id report
  | cancel id => exact horderly.cancel_recounts id
  | prune =>
    have hself := horderly.recounts_self
    exact ⟨hself.visited, hself.content, hself.calls, hself.graphs, hself.stays⟩
  | answer id answer => exact horderly.answer_recounts id answer
  | write context =>
    exact ⟨fun _ => (List.append_nil _).symm, rfl, rfl, by simp [deeds],
      fun hstarted => ⟨_, hstarted, rfl⟩⟩

end Events

/-- The chronicle of a session accounts for it. -/
theorem Orderly.session_accounts (events : List Event) {stage : Stage}
    (horderly : stage.Orderly) :
    stage.Accounts (chronicle events stage)
      ((session events stage).2.filterMap Response.made?)
      (session events stage).1 := by
  induction events generalizing stage with
  | nil => exact .refl stage
  | cons event events ih =>
    have hfirst := horderly.step_accounts event
    have hrest := hfirst.trans (ih (horderly.step event))
    rw [chronicle, session_cons, List.filterMap_cons]
    cases hmade : (stage.step event).2.made? with
    | none => simpa [hmade] using hrest
    | some made => simpa [hmade] using hrest

/-! ## Each visit is performed once -/

/-- The call, if the activation with the given id makes it. -/
def callFrom? (id : String) (made : String × Call) : Option Call :=
  if made.1 = id then some made.2 else none

/-- If all visits of an activation are in one graph, its calls are those of the
nodes that it visits there. -/
theorem filterMap_callFrom? {deeds : List Deed} {id : String}
    {graph : CompiledGraph}
    (hgraph : ∀ other nodeId, .visit id other nodeId ∈ deeds → other = graph) :
    (deeds.filterMap Deed.call?).filterMap (callFrom? id) =
      (deeds.filterMap (visitBy? id)).filterMap graph.callAt? := by
  rw [List.filterMap_filterMap, List.filterMap_filterMap]
  apply List.filterMap_congr
  intro deed hmem
  cases deed with
  | edit context => rfl
  | visit visitor other nodeId =>
    by_cases hid : visitor = id
    · subst hid
      rw [hgraph other nodeId hmem]
      cases hcall : graph.callAt? nodeId <;>
        simp [Deed.call?, visitBy?, callFrom?, hcall]
    · cases hcall : other.callAt? nodeId <;>
        simp [Deed.call?, visitBy?, callFrom?, hcall, hid]

section Accounted

variable {stage later : Stage} {deeds : List Deed} {made : List (String × Call)}
variable (haccounts : stage.Accounts deeds made later)

include haccounts

/-- Each visit is one of an activation on the stage, in its own graph. -/
theorem Accounts.visitor {id : String} {graph : CompiledGraph} {nodeId : String}
    (hdeed : .visit id graph nodeId ∈ deeds) :
    ∃ activation ∈ later.activations, activation.id = id ∧
      activation.graph = graph := by
  obtain ⟨activation, hstarted, hgraph⟩ := haccounts.graphs hdeed
  exact ⟨activation, List.mem_of_find?_eq_some hstarted, started?_id hstarted,
    hgraph⟩

/-- Each call is made by a visit. -/
theorem Accounts.caller {id : String} {call : Call} (hmem : (id, call) ∈ made) :
    ∃ graph nodeId, .visit id graph nodeId ∈ deeds := by
  rw [← haccounts.calls] at hmem
  obtain ⟨deed, hdeed, hcall⟩ := List.mem_filterMap.mp hmem
  cases deed with
  | edit context => cases hcall
  | visit visitor graph nodeId =>
    obtain ⟨made, -, heq⟩ := Option.map_eq_some_iff.mp hcall
    cases heq
    exact ⟨graph, nodeId, hdeed⟩

end Accounted

/-- From the start of a session, the visits of an activation are all that it has
made. -/
theorem Accounts.visits_of_mem {limit : Nat} {supported : String}
    {context : Context} {stage : Stage} {deeds : List Deed}
    {made : List (String × Call)}
    (haccounts : (initial limit supported context).Accounts deeds made stage)
    (horderly : stage.Orderly) {activation : Activation}
    (hmem : activation ∈ stage.activations) :
    deeds.filterMap (visitBy? activation.id) = activation.visited.toList := by
  rw [← visitedBy_of_started? (horderly.started?_of_mem hmem),
    haccounts.visited]
  rfl

/-- In every session, each activation makes exactly the calls of the nodes that
it has visited, one for each visit and in their order.  The variables and flags
are what the same visits and the edits of the host make of them: in each event
the nodes that are visited in it are applied, each of them once. -/
theorem session_performs_visits (limit : Nat) (supported : String)
    (context : Context) (events : List Event) :
    let start := initial limit supported context
    let stage := (session events start).1
    let made := (session events start).2.filterMap Response.made?
    let deeds := chronicle events start
    (∀ activation ∈ stage.activations,
      deeds.filterMap (visitBy? activation.id) = activation.visited.toList ∧
      made.filterMap (callFrom? activation.id) =
        activation.visited.toList.filterMap activation.graph.callAt?) ∧
    (∀ id graph nodeId, .visit id graph nodeId ∈ deeds →
      ∃ activation ∈ stage.activations, activation.id = id ∧
        activation.graph = graph) ∧
    (∀ id call, (id, call) ∈ made → ∃ activation ∈ stage.activations,
      activation.id = id) ∧
    stage.context.content = (replay deeds context).content ∧
    ∀ event, (stage.step event).1.context.content =
      (replay (stage.deeds event) stage.context).content := by
  intro start stage made deeds
  have hstage : stage.Orderly :=
    Reachable.orderly ⟨limit, supported, context, events, rfl⟩
  have haccounts : start.Accounts deeds made stage :=
    (initial_orderly limit supported context).session_accounts events
  refine ⟨fun activation hmem => ⟨haccounts.visits_of_mem hstage hmem, ?_⟩,
    fun id graph nodeId => haccounts.visitor, ?_, haccounts.content,
    fun event => (hstage.step_accounts event).content⟩
  case refine_1 =>
    rw [← haccounts.calls, ← haccounts.visits_of_mem hstage hmem]
    apply filterMap_callFrom?
    intro other nodeId hdeed
    obtain ⟨found, hfound, hid, rfl⟩ := haccounts.visitor hdeed
    rw [eq_of_distinct hstage.distinct hfound hmem hid]
  case refine_2 =>
    intro id call hmem
    obtain ⟨graph, nodeId, hdeed⟩ := haccounts.caller hmem
    obtain ⟨activation, hactivation, hid, -⟩ := haccounts.visitor hdeed
    exact ⟨activation, hactivation, hid⟩

/-- A trigger that leads to the payment of two coins, a greeting, and an open
gate. -/
def tollgate : CompiledGraph :=
  ⟨"tollgate", "", some "entry", [⟨"entry", "player_enter", "always"⟩],
    ⟨[("entry", ⟨.trigger, .empty, [["pay"]]⟩),
      ("pay",
        ⟨.action,
          ⟨[("actionType", .str "increment_variable"), ("target", .str "paid"),
            ("value", .str "2")], by decide⟩, [["greet"]]⟩),
      ("greet", ⟨.dialogue, ⟨[("text", .str "Welcome!")], by decide⟩,
        [["open"]]⟩),
      ("open",
        ⟨.action, ⟨[("actionType", .str "set_flag"), ("target", .str "gate")],
          by decide⟩, [[]]⟩)],
      by decide⟩,
    ambush.metadata⟩

/-- Two activations of `tollgate` by turns.  The answer to the second one is put
off and reported twice; the first one is cancelled after its end. -/
def travellers : List Event :=
  [.activate tollgate none, .activate tollgate none, .answer "act_2" .deferred,
    .answer "act_1" (.reported (.value .null)), .resume "act_2" (.value .null),
    .resume "act_2" (.value .null), .cancel "act_1"]

/-- The stage after `travellers`, and the responses. -/
def travelled : Stage × List Response :=
  session travellers (initial 256 ">=1.0" .empty)

theorem travellers_perform_visits :
    (travelled.2.filterMap Response.made?).filterMap (callFrom? "act_2") =
        [.presentDialogue ⟨"NPC", "Welcome!", ""⟩] ∧
      travelled.1.context.content =
        (⟨[("paid", .int 4)], by decide⟩, ⟨[("gate", true)], by decide⟩) := by
  obtain ⟨hcalls, -, -, hcontent, -⟩ :=
    session_performs_visits 256 ">=1.0" .empty travellers
  have hsecond :
      ∃ activation ∈ travelled.1.activations,
        activation.id = "act_2" ∧
          activation.visited.toList.filterMap activation.graph.callAt? =
            [.presentDialogue ⟨"NPC", "Welcome!", ""⟩] := by
    decide +kernel
  obtain ⟨activation, hmem, hid, hvisits⟩ := hsecond
  refine ⟨?_, hcontent.trans (by decide +kernel)⟩
  rw [← hid, ← hvisits]
  exact (hcalls activation hmem).2

end Stage

end StoryGraph
