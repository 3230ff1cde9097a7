import StoryGraph.Proofs.Play.Called

/-!
# Active events

The active events of the context are the ids of the live activations, besides
those that were there from the start.  An activation is added when it begins and
erased when it ends, and no turn touches the id of another activation.  As long
as the host leaves them alone, too, this holds on every stage of a session, and
an activation that has been forgotten never lives again.
-/

namespace StoryGraph

/-! ## What a visit leaves alone -/

theorem Properties.activeEvents_of_visit {properties : Properties}
    {context : Context} {move : Move} {after : Context}
    (hvisit : properties.visit context = .ok (move, after)) :
    after.activeEvents = context.activeEvents := by
  -- The visit would have gone the same way with the same active events put back
  -- afterwards.
  have hsame := properties.visit_activeEvents context context.activeEvents
  have hself :
      { context with activeEvents := context.activeEvents } = context :=
    rfl
  rw [hself, hvisit, Except.map, Except.ok.injEq, Prod.mk.injEq] at hsame
  have hevents := congrArg Context.activeEvents hsame.2
  exact hevents

theorem CompiledNode.activeEvents_of_visit {node : CompiledNode}
    {context : Context} {move : Move} {after : Context}
    (hvisit : node.visit context = .ok (move, after)) :
    after.activeEvents = context.activeEvents := by
  rw [visit] at hvisit
  split at hvisit
  · exact Properties.activeEvents_of_visit hvisit
  · cases hvisit

theorem Context.mem_activate {context : Context} {id other : String} :
    other ∈ (context.activate id).activeEvents ↔
      other = id ∨ other ∈ context.activeEvents :=
  IdSet.mem_insert

theorem Context.mem_deactivate {context : Context} {id other : String} :
    other ∈ (context.deactivate id).activeEvents ↔
      other ∈ context.activeEvents ∧ other ≠ id :=
  IdSet.mem_erase

/-! ## Turns -/

namespace Turn

open Activation

/-- The activation is among the active events exactly as long as it lives. -/
def Listed (turn : Turn) : Prop :=
  turn.activation.id ∈ turn.context.activeEvents ↔ turn.activation.isLive = true

/-- The turn has not touched the ids of other activations, and the activation is
still listed if it was. -/
structure Lists (turn later : Turn) : Prop where
  own : turn.Listed → later.Listed
  others : ∀ id ≠ turn.activation.id,
    id ∈ later.context.activeEvents ↔ id ∈ turn.context.activeEvents

theorem Lists.refl (turn : Turn) : turn.Lists turn := ⟨id, fun _ _ => Iff.rfl⟩

theorem Lists.trans {first second third : Turn} (hfirst : first.Lists second)
    (hsecond : second.Lists third)
    (hid : second.activation.id = first.activation.id) : first.Lists third where
  own hlisted := hsecond.own (hfirst.own hlisted)
  others id hne := (hsecond.others id (hid ▸ hne)).trans (hfirst.others id hne)

/-- Active events and life as before. -/
theorem lists_of_same {turn later : Turn}
    (hid : later.activation.id = turn.activation.id)
    (hevents : later.context.activeEvents = turn.context.activeEvents)
    (hlive : later.activation.isLive = turn.activation.isLive) :
    turn.Lists later where
  own hlisted := by
    rw [Listed, hid, hevents, hlive]
    exact hlisted
  others id _ := by rw [hevents]

theorem lists_finish (turn : Turn) {state : ActivationState}
    (hended : state.isLive = false) : turn.Lists (turn.finish state) where
  own _ := by
    have hlive : (turn.finish state).activation.isLive = false := hended
    have herased :
        turn.activation.id ∉ (turn.finish state).context.activeEvents := by
      intro hmem
      exact (Context.mem_deactivate.mp hmem).2 rfl
    exact ⟨fun hmem => absurd hmem herased,
      fun hlives => by rw [hlive] at hlives; cases hlives⟩
  others id hne :=
    Context.mem_deactivate.trans ⟨fun hmem => hmem.1, fun hmem => ⟨hmem, hne⟩⟩

theorem lists_abort (turn : Turn) (nodeId : String) (failure : Failure) :
    turn.Lists (turn.abort nodeId failure) := turn.lists_finish rfl

theorem Visited.lists {turn later : Turn} {nodeId : String}
    {node : CompiledNode} {destination : Destination}
    (hvisited : Visited turn nodeId node later destination) :
    turn.Lists later := by
  cases hvisited with
  | failed =>
    exact (@lists_of_same turn (turn.enter nodeId) rfl rfl rfl).trans
      (lists_abort _ _ _) rfl
  | stopped hvisit =>
    have hevents := CompiledNode.activeEvents_of_visit hvisit
    exact (@lists_of_same turn ⟨_, turn.activation.enter nodeId⟩ rfl
      hevents rfl).trans
      (lists_finish _ rfl) rfl
  | called hvisit =>
    exact lists_of_same rfl (CompiledNode.activeEvents_of_visit hvisit) rfl
  | closed hvisit =>
    have hevents := CompiledNode.activeEvents_of_visit hvisit
    exact (@lists_of_same turn ⟨_, turn.activation.enter nodeId⟩ rfl
      hevents rfl).trans
      (lists_finish _ rfl) rfl
  | followed hvisit =>
    exact lists_of_same rfl (CompiledNode.activeEvents_of_visit hvisit) rfl

section Turns

variable {limit : Nat} {turn later : Turn} {call? : Option Call}

theorem Walks.lists {nodeId : String}
    (hwalks : Walks limit turn nodeId later call?) : turn.Lists later := by
  induction hwalks with
  | missing => exact lists_abort _ _ _
  | exhausted => exact lists_abort _ _ _
  | ended _ _ hvisited => exact hvisited.lists
  | called _ _ _ hvisited => exact hvisited.lists
  | followed _ _ hvisited _ ih =>
    exact hvisited.lists.trans ih hvisited.grows.id

/-- A live activation goes on. -/
theorem Walks.lists_of_live {nodeId : String}
    (hwalks : Walks limit ⟨turn.context, turn.activation.withState .running⟩
      nodeId later call?)
    (hlive : turn.activation.isLive = true) : turn.Lists later :=
  (@lists_of_same turn ⟨turn.context, turn.activation.withState .running⟩ rfl
    rfl hlive.symm).trans hwalks.lists rfl

theorem Responds.lists {prompt : Prompt}
    (hresponds : Responds limit turn prompt later call?) :
    turn.Lists later := by
  cases hresponds with
  | ignored => exact .refl turn
  | continued hacts _ _ _ _ hwalks => exact hwalks.lists_of_live hacts.isLive
  | suspended hlive => exact lists_of_same rfl rfl hlive.symm
  | _ => exact lists_finish _ rfl

end Turns

end Turn

/-! ## Stages -/

namespace Stage

open Activation

/-- The ids of the activations are none of some others. -/
def Fresh (outside : IdSet) (stage : Stage) : Prop :=
  ∀ activation ∈ stage.activations, activation.id ∉ outside

/-- The active events are some ids from outside and those of the live
activations, and activations that have been forgotten have ended. -/
structure Balanced (outside : IdSet) (stage : Stage) : Prop where
  active : ∀ id, id ∈ stage.context.activeEvents ↔ id ∈ outside ∨
    ∃ activation, stage.started? id = some activation ∧ activation.isLive = true
  forgotten : ∀ id ∈ stage.forgotten, ∃ activation,
    stage.started? id = some activation ∧ activation.isLive = false

theorem initial_balanced (limit : Nat) (supported : String)
    (context : Context) :
    (initial limit supported context).Balanced context.activeEvents where
  active id := by simp [initial, started?]
  forgotten := by simp [initial]

theorem Advances.mem_ids {stage later : Stage}
    (hadvances : Advances stage later) {id : String}
    (hmem : id ∈ stage.activations.map Activation.id) :
    id ∈ later.activations.map Activation.id := by
  cases hadvances with
  | begins hbegins =>
    cases hbegins with
    | begin firing? =>
      rw [begin, ids_advance]
      exact List.map_subset _ (List.subset_append_left _ _) hmem
  | resumes => rwa [ids_advance]
  | cancels => rwa [ids_advance]
  | prunes => exact hmem
  | receives => rwa [ids_advance]
  | writes => exact hmem

theorem Fresh.of_reaches {outside : IdSet} {stage later : Stage}
    (hfresh : later.Fresh outside)
    (hreaches : Reaches stage later) : stage.Fresh outside := by
  induction hreaches with
  | refl => exact hfresh
  | tail _ hadvances ih =>
    apply ih
    intro activation hmem
    obtain ⟨after, hafter, hid⟩ :=
      List.mem_map.mp (hadvances.mem_ids (List.mem_map_of_mem hmem))
    rw [← hid]
    exact hfresh after hafter

namespace Balanced

variable {outside : IdSet} {stage : Stage} (hbalanced : stage.Balanced outside)

include hbalanced

/-- The turn of an activation whose id is not one from outside. -/
theorem advance (firing? : Option Firing) {activation : Activation}
    {turn : Turn → Turn × Option Call}
    (hstarted : stage.started? activation.id = some activation)
    (hfresh : activation.id ∉ outside)
    (hcontinues : activation.Continues
      (turn ⟨stage.context, activation⟩).1.activation)
    (hlists : Turn.Lists ⟨stage.context, activation⟩
      (turn ⟨stage.context, activation⟩).1)
    (hforgotten : activation.id ∈ stage.forgotten →
      (turn ⟨stage.context, activation⟩).1.activation.isLive = false) :
    (stage.advance firing? activation turn).Balanced outside := by
  have hself := started?_advance_self firing? hstarted hcontinues
  have hothers (id : String) (hne : id ≠ activation.id) :=
    started?_advance_other firing? hne hcontinues
  have hlisted : Turn.Listed ⟨stage.context, activation⟩ := by
    rw [Turn.Listed, hbalanced.active, hstarted]
    simp [hfresh]
  constructor
  case active =>
    intro id
    rw [advance_context]
    by_cases hid : id = activation.id
    · have hown := hlists.own hlisted
      rw [Turn.Listed, hcontinues.id] at hown
      rw [hid, hself, hown]
      simp [hfresh]
    · rw [hothers id hid, hlists.others id hid]
      exact hbalanced.active id
  case forgotten =>
    intro id hmem
    rw [advance_forgotten] at hmem
    by_cases hid : id = activation.id
    · rw [hid, hself]
      exact ⟨_, rfl, hforgotten (hid ▸ hmem)⟩
    · rw [hothers id hid]
      exact hbalanced.forgotten id hmem

/-- Nothing changes for an activation that has ended and been forgotten. -/
theorem ended_of_forgotten {activation : Activation}
    (hstarted : stage.started? activation.id = some activation)
    (hmem : activation.id ∈ stage.forgotten) : activation.isLive = false := by
  obtain ⟨found, hfound, hended⟩ := hbalanced.forgotten _ hmem
  rw [hstarted] at hfound
  cases hfound
  exact hended

theorem enroll (horderly : stage.Orderly) (graph : CompiledGraph)
    (nodeId : String) : (stage.enroll graph nodeId).1.Balanced outside where
  active := by
    intro id
    have hevents :
        id ∈ (stage.enroll graph nodeId).1.context.activeEvents ↔
          id = (stage.enroll graph nodeId).2.id ∨
            id ∈ stage.context.activeEvents :=
      Context.mem_activate
    have hnew := horderly.started?_enroll_id graph nodeId
    rw [hevents, hbalanced.active, started?_enroll]
    by_cases hid : (stage.enroll graph nodeId).2.id = id
    · rw [if_pos hid, ← hid, hnew]
      simp [Stage.enroll, Activation.start, isLive, ActivationState.isLive]
    · rw [if_neg hid, Option.or_none]
      simp [Ne.symm hid]
  forgotten := by
    intro id hmem
    obtain ⟨activation, hstarted, hended⟩ := hbalanced.forgotten id hmem
    exact ⟨activation, by rw [started?_enroll, hstarted, Option.some_or],
      hended⟩

theorem begins (horderly : stage.Orderly) {later : Stage}
    (hbegins : Begins stage later)
    (hfresh : later.Fresh outside) : later.Balanced outside := by
  cases hbegins with
  | @begin graph entry nodeId firing? hentry =>
    have hnew := horderly.started?_enroll_id graph nodeId
    have hstarted :
        (stage.enroll graph nodeId).1.started?
          (stage.enroll graph nodeId).2.id =
            some (stage.enroll graph nodeId).2 := by
      rw [started?_enroll, hnew, if_pos rfl, Option.none_or]
    have hid : (stage.enroll graph nodeId).2.id ∈
        (stage.begin firing? graph nodeId).activations.map Activation.id := by
      rw [begin, ids_advance]
      exact List.mem_map_of_mem
        (List.mem_append_right _ (List.mem_singleton_self _))
    obtain ⟨after, hafter, hsame⟩ := List.mem_map.mp hid
    refine (hbalanced.enroll horderly graph nodeId).advance firing? hstarted
      (hsame ▸ hfresh after hafter) (Turn.continues_continueAt _ _ ⟨_, _⟩)
      ((Turn.continueAt_walks _ _ _).lists_of_live rfl) ?_
    intro hmem
    obtain ⟨found, hfound, -⟩ := hbalanced.forgotten _ hmem
    rw [hnew] at hfound
    cases hfound

theorem beginsMany (horderly : stage.Orderly) {later : Stage}
    (hbegins : BeginsMany stage later)
    (hfresh : later.Fresh outside) : later.Balanced outside := by
  induction hbegins with
  | refl => exact hbalanced
  | @tail middle last hearlier hlast ih =>
    have hmiddle : middle.Fresh outside :=
      hfresh.of_reaches (.single (.begins hlast))
    exact (ih hmiddle).begins (horderly.reaches (BeginsMany.reaches hearlier))
      hlast hfresh

theorem resumes (hfresh : stage.Fresh outside) {id : String}
    {activation : Activation} (report : Report)
    (hregistered : stage.activation? id = some activation) :
    (stage.advance none activation (Turn.resume stage.limit report)).Balanced
      outside := by
  have hstarted := started?_of_activation? hregistered
  rw [← started?_id hstarted] at hstarted
  refine hbalanced.advance none hstarted
    (hfresh _ (List.mem_of_find?_eq_some hstarted))
    (Turn.continues_resume _ _ ⟨_, _⟩) (Turn.resume_responds _ _ _).lists ?_
  intro hmem
  have hended := hbalanced.ended_of_forgotten hstarted hmem
  have hsuspended : activation.state ≠ .suspended := by
    intro hstate
    simp [isLive, hstate, ActivationState.isLive] at hended
  rw [Turn.resume_of_not_suspended _ _ hsuspended]
  exact hended

theorem cancels (hfresh : stage.Fresh outside) {id : String}
    {activation : Activation}
    (hregistered : stage.activation? id = some activation) :
    (stage.advance none activation fun turn => (turn.cancel, none)).Balanced
      outside := by
  have hstarted := started?_of_activation? hregistered
  rw [← started?_id hstarted] at hstarted
  refine hbalanced.advance none hstarted
    (hfresh _ (List.mem_of_find?_eq_some hstarted))
    (Turn.continues_cancel ⟨_, _⟩) (Turn.cancel_responds 0 _).lists ?_
  exact fun _ => Turn.cancel_ended _

/-- The answer to a call, also of an activation that has been forgotten
since. -/
theorem receives (hfresh : stage.Fresh outside) {id : String} (task : Task)
    {activation : Activation} (answer : Answer)
    (hstarted : stage.started? id = some activation) :
    ({ stage with tasks := stage.tasks.erase task }.advance
      task.firing? activation
      (Turn.receive stage.limit answer)).Balanced outside := by
  have hbefore :
      Balanced outside { stage with tasks := stage.tasks.erase task } :=
    ⟨hbalanced.active, hbalanced.forgotten⟩
  rw [← started?_id hstarted] at hstarted
  refine hbefore.advance task.firing? hstarted
    (hfresh _ (List.mem_of_find?_eq_some hstarted))
    (Turn.continues_receive _ _ ⟨_, _⟩) (Turn.receive_responds _ _ _).lists ?_
  intro hmem
  exact (Turn.receive_responds _ _ _).ended
    (hbalanced.ended_of_forgotten hstarted hmem)

/-- Forgetting the activations that have ended. -/
theorem prunes (horderly : stage.Orderly) : stage.prune.1.Balanced outside where
  active := hbalanced.active
  forgotten := by
    intro id hmem
    rcases List.mem_append.mp hmem with hold | hnew
    · exact hbalanced.forgotten id hold
    · obtain ⟨activation, hended, rfl⟩ := List.mem_map.mp hnew
      obtain ⟨hregistered, hended⟩ := List.mem_filter.mp hended
      have hstarted :=
        horderly.started?_of_mem (List.mem_filter.mp hregistered).1
      exact ⟨activation, hstarted, by simpa using hended⟩

/-- Every event keeps the balance, unless the host edits the active events. -/
theorem step (horderly : stage.Orderly) {event : Event}
    (hfresh : (stage.step event).1.Fresh outside)
    (hwrites : ∀ context, event = .write context →
      context.activeEvents = stage.context.activeEvents) :
    (stage.step event).1.Balanced outside := by
  have hbefore := hfresh.of_reaches (step_reaches stage event)
  cases event with
  | activate graph entry =>
    exact hbalanced.beginsMany horderly
      (activate_begins stage graph entry) hfresh
  | fire graph triggerType =>
    exact hbalanced.beginsMany horderly
      (fire_begins stage graph triggerType) hfresh
  | resume id report =>
    cases hregistered : stage.activation? id with
    | none => simpa only [Stage.step, resume, hregistered] using hbalanced
    | some activation =>
      exact (hbalanced.resumes hbefore report hregistered).beginsMany
        (horderly.resumes report hregistered)
        (resume_begins report hregistered) hfresh
  | cancel id =>
    cases hregistered : stage.activation? id with
    | none => simpa only [Stage.step, cancel, hregistered] using hbalanced
    | some activation =>
      simp only [Stage.step, cancel, hregistered]
      exact hbalanced.cancels hbefore hregistered
  | prune => exact hbalanced.prunes horderly
  | answer id answer =>
    cases htask : stage.tasks.find? (·.activationId == id) with
    | none => simpa only [Stage.step, Stage.answer, htask] using hbalanced
    | some task =>
      cases hstarted : stage.started? id with
      | none =>
        simpa only [Stage.step, Stage.answer, htask, hstarted] using hbalanced
      | some activation =>
        exact (hbalanced.receives hbefore task answer hstarted).beginsMany
          (horderly.receives answer htask hstarted)
          (answer_begins answer htask hstarted) hfresh
  | write context =>
    have hevents := hwrites context rfl
    refine ⟨fun id => ?_, hbalanced.forgotten⟩
    simp only [Stage.step, hevents]
    exact hbalanced.active id

end Balanced

/-- The host never edits the active events. -/
def KeepsActive : List Event → Stage → Prop
  | [], _ => True
  | event :: events, stage =>
    (∀ context, event = .write context →
      context.activeEvents = stage.context.activeEvents) ∧
      KeepsActive events (stage.step event).1

theorem Balanced.session {outside : IdSet} {events : List Event} {stage : Stage}
    (hbalanced : stage.Balanced outside) (horderly : stage.Orderly)
    (hkeeps : KeepsActive events stage)
    (hfresh : (session events stage).1.Fresh outside) :
    (session events stage).1.Balanced outside := by
  induction events generalizing stage with
  | nil => exact hbalanced
  | cons event events ih =>
    have hnext : (stage.step event).1.Fresh outside :=
      hfresh.of_reaches (session_reaches events (stage.step event).1)
    exact ih (hbalanced.step horderly hnext hkeeps.1)
      (horderly.reaches (step_reaches stage event)) hkeeps.2 hfresh

/-! ## The registry -/

/-- Live activations are never forgotten. -/
theorem Balanced.mem_registered {outside : IdSet} {stage : Stage}
    (hbalanced : stage.Balanced outside) (horderly : stage.Orderly)
    {activation : Activation} (hmem : activation ∈ stage.activations)
    (hlive : activation.isLive = true) : activation ∈ stage.registered := by
  refine List.mem_filter.mpr ⟨hmem, ?_⟩
  have hkept : activation.id ∉ stage.forgotten := by
    intro hforgotten
    have hended :=
      hbalanced.ended_of_forgotten (horderly.started?_of_mem hmem) hforgotten
    rw [hlive] at hended
    cases hended
  simpa using hkept

/-- The ids of the registered activations that have ended. -/
def endedIds (stage : Stage) : List String :=
  (stage.registered.filter fun activation => !activation.isLive).map
    Activation.id

theorem Orderly.mem_endedIds_iff {stage : Stage} (horderly : stage.Orderly)
    {activation : Activation} (hmem : activation ∈ stage.registered) :
    activation.id ∈ stage.endedIds ↔ activation.isLive = false := by
  constructor
  · intro hid
    obtain ⟨other, hother, hsame⟩ := List.mem_map.mp hid
    obtain ⟨hregistered, hended⟩ := List.mem_filter.mp hother
    have heq : other = activation := eq_of_distinct horderly.distinct
      (List.mem_filter.mp hregistered).1 (List.mem_filter.mp hmem).1 hsame
    rw [← heq]
    simpa using hended
  · intro hended
    exact List.mem_map_of_mem (List.mem_filter.mpr ⟨hmem, by simp [hended]⟩)

/-- Pruning leaves the live activations among those that were registered. -/
theorem Orderly.registered_prune {stage : Stage} (horderly : stage.Orderly) :
    stage.prune.1.registered = stage.registered.filter Activation.isLive := by
  calc stage.prune.1.registered
      = stage.activations.filter fun activation =>
          !(stage.forgotten ++ stage.endedIds).contains activation.id := rfl
    _ = stage.activations.filter fun activation =>
          !stage.endedIds.contains activation.id &&
            !stage.forgotten.contains activation.id := by
        apply List.filter_congr
        intro activation _
        simp [Bool.and_comm]
    _ = stage.registered.filter fun activation =>
        !stage.endedIds.contains activation.id := by
          rw [registered, List.filter_filter]
    _ = stage.registered.filter Activation.isLive := by
        apply List.filter_congr
        intro activation hmem
        have hended := horderly.mem_endedIds_iff hmem
        cases hlive : activation.isLive with
        | true => simpa [hlive] using hended
        | false => simpa [hlive] using hended

end Stage

end StoryGraph
