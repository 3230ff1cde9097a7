import StoryGraph.Proofs.Play.Active
import StoryGraph.Proofs.Play.Chronicle

/-!
# Cancelled activations

Once an activation has been cancelled, by the host or with the task of its open
call, it is silent: whatever comes later, it makes no calls and no visits,
changes no variable or flag, and neither lives again nor returns to the active
events.  This includes late reports, the answer to a call that was open when the
activation was cancelled, and everything that happens to other activations.
-/

namespace StoryGraph

namespace Turn

theorem cancel_of_live {turn : Turn} (hlive : turn.activation.isLive = true) :
    turn.cancel = turn.finish .cancelled := by
  rw [cancel, if_pos hlive]

/-- When its task is cancelled, an activation that awaits an answer is
cancelled. -/
theorem receive_interrupted (limit : Nat) (text : String) {turn : Turn}
    {nodeId : String} {node : CompiledNode}
    (hstands : turn.activation.StandsAt nodeId node) :
    turn.receive limit (.interrupted text) = (turn.cancel, none) := by
  rw [receive, current?_eq_some.mpr hstands]

end Turn

namespace Stage

open Activation Deed

/-! ## Live activations are registered -/

theorem Orderly.ended_advances {stage later : Stage} (horderly : stage.Orderly)
    (hadvances : Advances stage later) {id : String} {found : Activation}
    (hfound : stage.started? id = some found) (hended : found.isLive = false) :
    ∃ after, later.started? id = some after ∧ after.isLive = false := by
  cases hadvances with
  | begins hbegins =>
    exact ⟨found, horderly.started?_begins hbegins hfound, hended⟩
  | resumes report hregistered =>
    have hstarted := started?_of_activation? hregistered
    exact ended_advance none (started?_id hstarted ▸ hstarted)
      (Turn.continues_resume _ _ ⟨_, _⟩) (Turn.resume_responds _ ⟨_, _⟩ _).ended
      hfound hended
  | @cancels _ activation hregistered =>
    have hstarted := started?_of_activation? hregistered
    exact @ended_advance stage none activation found
      (fun turn => (turn.cancel, none)) id
      (started?_id hstarted ▸ hstarted) (Turn.continues_cancel ⟨_, _⟩)
      (fun _ => Turn.cancel_ended _) hfound hended
  | prunes => exact ⟨found, hfound, hended⟩
  | @receives _ task activation answer htask hstarted =>
    have herased :
        started? { stage with tasks := stage.tasks.erase task } activation.id =
          some activation :=
      started?_id hstarted ▸ hstarted
    exact ended_advance _ herased (Turn.continues_receive _ _ ⟨_, _⟩)
      (Turn.receive_responds _ ⟨_, _⟩ _).ended hfound hended
  | writes => exact ⟨found, hfound, hended⟩

/-- Only activations that have ended have been forgotten. -/
def ForgetsEnded (stage : Stage) : Prop :=
  ∀ id ∈ stage.forgotten, ∃ activation,
    stage.started? id = some activation ∧ activation.isLive = false

theorem Orderly.forgetsEnded_advances {stage later : Stage}
    (horderly : stage.Orderly) (hforgets : stage.ForgetsEnded)
    (hadvances : Advances stage later) : later.ForgetsEnded := by
  intro id hmem
  have hbefore : id ∈ stage.forgotten → ∃ activation,
      later.started? id = some activation ∧ activation.isLive = false := by
    intro hold
    obtain ⟨activation, hstarted, hended⟩ := hforgets id hold
    exact horderly.ended_advances hadvances hstarted hended
  cases hadvances with
  | begins hbegins =>
    cases hbegins with
    | begin =>
      rw [Stage.begin, advance_forgotten] at hmem
      exact hbefore hmem
  | resumes =>
    rw [advance_forgotten] at hmem
    exact hbefore hmem
  | cancels =>
    rw [advance_forgotten] at hmem
    exact hbefore hmem
  | prunes =>
    rcases List.mem_append.mp hmem with hold | hnew
    · exact hbefore hold
    · obtain ⟨activation, hended, rfl⟩ := List.mem_map.mp hnew
      obtain ⟨hregistered, hended⟩ := List.mem_filter.mp hended
      exact ⟨activation,
        horderly.started?_of_mem (List.mem_filter.mp hregistered).1,
        by simpa using hended⟩
  | receives =>
    rw [advance_forgotten] at hmem
    exact hbefore hmem
  | writes => exact hbefore hmem

theorem Reachable.forgetsEnded {stage : Stage} (hreachable : stage.Reachable) :
    stage.ForgetsEnded := by
  obtain ⟨limit, supported, context, events, rfl⟩ := hreachable
  have hinitial := initial_orderly limit supported context
  have hreaches := session_reaches events (initial limit supported context)
  generalize (session events (initial limit supported context)).1 =
    stage at hreaches
  induction hreaches with
  | refl => simp [ForgetsEnded, initial]
  | tail hearlier hadvances ih =>
    exact (hinitial.reaches hearlier).forgetsEnded_advances ih hadvances

/-- The host can find every live activation. -/
theorem Reachable.activation?_of_live {stage : Stage}
    (hreachable : stage.Reachable) {activation : Activation}
    (hmem : activation ∈ stage.activations) (hlive : activation.isLive = true) :
    stage.activation? activation.id = some activation := by
  have horderly := hreachable.orderly
  have hkept : activation.id ∉ stage.forgotten := by
    intro hforgotten
    obtain ⟨found, hfound, hended⟩ := hreachable.forgetsEnded _ hforgotten
    rw [horderly.started?_of_mem hmem] at hfound
    cases hfound
    rw [hlive] at hended
    cases hended
  apply find?_of_distinct
  · exact horderly.distinct.sublist (List.filter_sublist.map _)
  · exact List.mem_filter.mpr ⟨hmem, by simpa using hkept⟩

/-! ## The moment of the cancellation -/

/-- The event cancels an activation: the host cancels it, or the task of its
open call is cancelled. -/
inductive Cancels (stage : Stage) (id : String) : Event → Prop where
  | cancel : Cancels stage id (.cancel id)
  | interrupted (text : String)
    (hopen : id ∈ stage.tasks.map Task.activationId) :
    Cancels stage id (.answer id (.interrupted text))

/-- The activation with the given id has ended, and is not among the active
events. -/
structure Silent (stage : Stage) (id : String) : Prop where
  ended : ∃ activation, stage.started? id = some activation ∧
    activation.isLive = false
  unlisted : id ∉ stage.context.activeEvents

section Moment

variable {stage : Stage} {activation : Activation}

theorem not_mem_cancelled (hlive : activation.isLive = true)
    (context : Context) :
    activation.id ∉
      (Turn.cancel ⟨context, activation⟩).context.activeEvents := by
  rw [Turn.cancel_of_live hlive]
  intro hmem
  exact (Context.mem_deactivate.mp hmem).2 rfl

/-- The turn that cancels a live activation. -/
theorem cancelled_advance {firing? : Option Firing}
    {turn : Turn → Turn × Option Call}
    (hstarted : stage.started? activation.id = some activation)
    (hlive : activation.isLive = true)
    (hturn : turn ⟨stage.context, activation⟩ =
      (Turn.cancel ⟨stage.context, activation⟩, none)) :
    (stage.advance firing? activation turn).started? activation.id =
        some (activation.withState .cancelled) ∧
      activation.id ∉
        (stage.advance firing? activation turn).context.activeEvents := by
  have hcontinues :
      activation.Continues (turn ⟨stage.context, activation⟩).1.activation := by
    rw [hturn]
    exact Turn.continues_cancel ⟨_, _⟩
  constructor
  · rw [started?_advance_self firing? hstarted hcontinues, hturn,
      Turn.cancel_of_live hlive]
    rfl
  · rw [advance_context, hturn]
    exact not_mem_cancelled hlive _

/-- A live activation can be cancelled at any time, and is cancelled at once. -/
theorem Reachable.cancelled (hreachable : stage.Reachable)
    (hmem : activation ∈ stage.activations) (hlive : activation.isLive = true)
    {event : Event} (hcancels : stage.Cancels activation.id event) :
    (stage.step event).1.started? activation.id =
      some (activation.withState .cancelled) ∧
      activation.id ∉ (stage.step event).1.context.activeEvents := by
  have horderly := hreachable.orderly
  have hstarted := horderly.started?_of_mem hmem
  cases hcancels with
  | cancel =>
    simp only [Stage.step, Stage.cancel,
      hreachable.activation?_of_live hmem hlive]
    exact @cancelled_advance stage activation none
      (fun turn => (turn.cancel, none)) hstarted hlive rfl
  | interrupted text hopen =>
    obtain ⟨task, htask⟩ : ∃ task,
      stage.tasks.find? (·.activationId == activation.id) =
        some task := by
      obtain ⟨task, hopen, hid⟩ := List.mem_map.mp hopen
      exact Option.isSome_iff_exists.mp
        (List.find?_isSome.mpr ⟨task, hopen, beq_iff_eq.mpr hid⟩)
    obtain ⟨nodeId, node, hstands⟩ :=
      (horderly.awaits_of_find? hstarted htask).2
    have hturn :=
      @Turn.receive_interrupted stage.limit text
        ⟨stage.context, activation⟩ _ _ hstands
    have hafter :=
      @cancelled_advance { stage with
        tasks := stage.tasks.erase task } activation
        task.firing? (Turn.receive stage.limit (.interrupted text))
          hstarted hlive hturn
    simp only [Stage.step, Stage.answer, htask, hstarted]
    simp only [advance, play, hturn] at hafter
    simp only [play, hturn]
    exact hafter

end Moment

/-! ## Later events -/

namespace Silent

variable {stage : Stage} {id : String} (hsilent : stage.Silent id)

include hsilent

theorem advance (firing? : Option Firing) {activation : Activation}
    {turn : Turn → Turn × Option Call}
    (hstarted : stage.started? activation.id = some activation)
    (hcontinues : activation.Continues
      (turn ⟨stage.context, activation⟩).1.activation)
    (hlists : Turn.Lists ⟨stage.context, activation⟩
      (turn ⟨stage.context, activation⟩).1)
    (hkept : activation.isLive = false →
      (turn ⟨stage.context, activation⟩).1.activation.isLive = false) :
    (stage.advance firing? activation turn).Silent id where
  ended := by
    obtain ⟨found, hfound, hended⟩ := hsilent.ended
    exact ended_advance firing? hstarted hcontinues hkept hfound hended
  unlisted := by
    rw [advance_context]
    by_cases hid : id = activation.id
    -- The turn of an ended activation keeps it in step with the active events,
    -- hence outside.
    · obtain ⟨found, hfound, hended⟩ := hsilent.ended
      have hunlisted := hsilent.unlisted
      subst hid
      rw [hstarted] at hfound
      cases hfound
      have hlisted : Turn.Listed ⟨stage.context, activation⟩ := by
        rw [Turn.Listed, hended]
        exact iff_of_false hunlisted Bool.false_ne_true
      have hafter := hlists.own hlisted
      rw [Turn.Listed, hcontinues.id, hkept hended] at hafter
      exact fun hmem => Bool.false_ne_true (hafter.mp hmem)
    · rw [hlists.others id hid]
      exact hsilent.unlisted

/-- A new activation has another id. -/
theorem begins (horderly : stage.Orderly) {later : Stage}
    (hbegins : Begins stage later) : later.Silent id := by
  obtain ⟨found, hfound, hended⟩ := hsilent.ended
  cases hbegins with
  | @begin graph entry nodeId firing? hentry =>
    have hne : id ≠ (stage.enroll graph nodeId).2.id := by
      rintro rfl
      rw [horderly.started?_enroll_id graph nodeId] at hfound
      cases hfound
    have henrolled : (stage.enroll graph nodeId).1.Silent id := by
      refine ⟨⟨found, by rw [started?_enroll, hfound, Option.some_or], hended⟩,
        ?_⟩
      intro hmem
      rcases Context.mem_activate.mp hmem with hsame | hold
      · exact hne hsame
      · exact hsilent.unlisted hold
    exact henrolled.advance firing? (horderly.started?_enroll_self graph nodeId)
      (continues_firstTurn graph nodeId)
      ((Turn.continueAt_walks _ _ _).lists_of_live rfl)
      (fun hends => nomatch hends)

theorem beginsMany (horderly : stage.Orderly) {later : Stage}
    (hbegins : BeginsMany stage later) : later.Silent id := by
  induction hbegins with
  | refl => exact hsilent
  | tail hearlier hlast ih =>
    exact ih.begins (horderly.reaches (BeginsMany.reaches hearlier)) hlast

/-- No event makes a silent activation heard, unless the host lists its id. -/
theorem step (horderly : stage.Orderly) {event : Event}
    (hwrites : ∀ written, event = .write written → id ∉ written.activeEvents) :
    (stage.step event).1.Silent id := by
  cases event with
  | activate graph entry =>
    exact hsilent.beginsMany horderly (activate_begins stage graph entry)
  | fire graph triggerType =>
    exact hsilent.beginsMany horderly (fire_begins stage graph triggerType)
  | resume other report =>
    cases hregistered : stage.activation? other with
    | none => simpa only [Stage.step, resume, hregistered] using hsilent
    | some activation =>
      have hstarted := started?_of_activation? hregistered
      have hafter := hsilent.advance none (started?_id hstarted ▸ hstarted)
        (Turn.continues_resume stage.limit report ⟨_, _⟩)
        (Turn.resume_responds _ _ _).lists
        (Turn.resume_responds _ ⟨_, _⟩ _).ended
      exact hafter.beginsMany (horderly.resumes report hregistered)
        (resume_begins report hregistered)
  | cancel other =>
    cases hregistered : stage.activation? other with
    | none => simpa only [Stage.step, cancel, hregistered] using hsilent
    | some activation =>
      have hstarted := started?_of_activation? hregistered
      simp only [Stage.step, cancel, hregistered]
      exact @advance stage id hsilent none activation
        (fun turn => (turn.cancel, none))
        (started?_id hstarted ▸ hstarted) (Turn.continues_cancel ⟨_, _⟩)
          (Turn.cancel_responds 0 _).lists
        (fun _ => Turn.cancel_ended _)
  | prune => exact ⟨hsilent.ended, hsilent.unlisted⟩
  | answer other answer =>
    cases htask : stage.tasks.find? (·.activationId == other) with
    | none => simpa only [Stage.step, Stage.answer, htask] using hsilent
    | some task =>
      cases hstarted : stage.started? other with
      | none =>
        simpa only [Stage.step, Stage.answer, htask, hstarted] using hsilent
      | some activation =>
        have hbefore :
            Silent { stage with tasks := stage.tasks.erase task } id :=
          ⟨hsilent.ended, hsilent.unlisted⟩
        have hafter :=
          hbefore.advance task.firing? (started?_id hstarted ▸ hstarted)
            (Turn.continues_receive stage.limit answer ⟨_, _⟩)
            (Turn.receive_responds _ _ _).lists
            (Turn.receive_responds _ ⟨_, _⟩ _).ended
        exact hafter.beginsMany (horderly.receives answer htask hstarted)
          (answer_begins answer htask hstarted)
  | write written => exact ⟨hsilent.ended, hwrites written rfl⟩

theorem session (horderly : stage.Orderly) {events : List Event}
    (hwrites : ∀ written, .write written ∈ events → id ∉ written.activeEvents) :
    (session events stage).1.Silent id := by
  induction events generalizing stage with
  | nil => exact hsilent
  | cons event events ih =>
    refine ih (hsilent.step horderly ?_) (horderly.step event) ?_
    · rintro written rfl
      exact hwrites written (List.mem_cons_self ..)
    · intro written hmem
      exact hwrites written (List.mem_cons_of_mem _ hmem)

end Silent

/-- An activation that has ended makes no more visits. -/
theorem Orderly.ended_visits {stage : Stage} (horderly : stage.Orderly)
    {id : String} {activation : Activation}
    (hstarted : stage.started? id = some activation)
    (hended : activation.isLive = false) (events : List Event) :
    ∃ last, (session events stage).1.started? id = some last ∧
      last.isLive = false ∧
      last.visited = activation.visited := by
  by_cases hreadable : stage.MeetsUnreadable id events
  · obtain ⟨-, nodeId, issues, -, hlast⟩ :=
      horderly.unreadable_session hstarted hended hreadable
    exact ⟨_, hlast, rfl, rfl⟩
  · exact ⟨activation, horderly.ended_session hstarted hended hreadable, hended,
      rfl⟩

/-- If an activation has made no visits between two stages, it is in none of the
deeds between them. -/
theorem Accounts.no_visits {stage later : Stage} {deeds : List Deed}
    {made : List (String × Call)} (haccounts : stage.Accounts deeds made later)
    {id : String} (hsame : later.visitedBy id = stage.visitedBy id)
    (graph : CompiledGraph) (nodeId : String) :
    .visit id graph nodeId ∉ deeds := by
  intro hmem
  have hnone : deeds.filterMap (visitBy? id) = [] := by
    have hvisited := haccounts.visited id
    rw [hsame] at hvisited
    exact List.append_right_eq_self.mp hvisited.symm
  have hvisits := List.filterMap_eq_nil_iff.mp hnone _ hmem
  simp [visitBy?] at hvisits

/-- Once a live activation has been cancelled, whatever comes later: it stays
ended with the same visits, makes no calls, and takes no part in what happens to
the variables and flags; and as long as the host does not list it by hand, it is
not among the active events. -/
theorem cancelled_is_silent {stage : Stage} (hreachable : stage.Reachable)
    {activation : Activation} (hmem : activation ∈ stage.activations)
    (hlive : activation.isLive = true) {event : Event}
    (hcancels : stage.Cancels activation.id event) (events : List Event) :
    let cancelled := (stage.step event).1
    let later := session events cancelled
    let deeds := chronicle events cancelled
    (∃ last, later.1.started? activation.id = some last ∧ last.isLive = false ∧
      last.visited = activation.visited) ∧
    (∀ call, .called activation.id call ∉ later.2) ∧
    (∀ graph nodeId, .visit activation.id graph nodeId ∉ deeds) ∧
    later.1.context.content = (Deed.replay deeds cancelled.context).content ∧
    ((∀ written, .write written ∈ events →
      activation.id ∉ written.activeEvents) →
      activation.id ∉ later.1.context.activeEvents) := by
  intro cancelled later deeds
  have horderly : cancelled.Orderly := hreachable.orderly.step event
  obtain ⟨hstarted, hunlisted⟩ := hreachable.cancelled hmem hlive hcancels
  have haccounts : cancelled.Accounts deeds _ later.1 :=
    horderly.session_accounts events
  obtain ⟨last, hlast, hended, hvisited⟩ :=
    horderly.ended_visits hstarted rfl events
  have hsame : later.1.visitedBy activation.id =
      cancelled.visitedBy activation.id := by
    rw [visitedBy_of_started? hlast, visitedBy_of_started? hstarted, hvisited]
  have hquiet := haccounts.no_visits hsame
  refine ⟨⟨last, hlast, hended, hvisited⟩, ?_, hquiet, haccounts.content, ?_⟩
  · intro call hcalled
    obtain ⟨graph, nodeId, hvisit⟩ :=
      haccounts.caller (List.mem_filterMap.mpr ⟨_, hcalled, rfl⟩)
    exact hquiet graph nodeId hvisit
  · intro hwrites
    have hsilent : cancelled.Silent activation.id :=
      ⟨⟨_, hstarted, rfl⟩, hunlisted⟩
    exact (hsilent.session horderly hwrites).unlisted

/-- The stage during the encounter of `ambush`. -/
def siege : Stage :=
  (session [.activate ambush none] (initial 256 ">=1.0" .empty)).1

/-- The activation of `siege`. -/
def besieged : Activation :=
  ⟨"act_1", ambush, "entry", .running, some "wild", 2, #["entry", "wild"]⟩

/-- Late news for the activation of `siege`: a report that cannot be read, and a
good one; afterwards another activation begins. -/
def aftermath : List Event :=
  [.answer "act_1" (.reported (.value (.int 5))),
    .resume "act_1" (.encounter ⟨true, false⟩), .activate ambush none]

theorem besieged_is_silent :
    (siege.step (.cancel "act_1")).2 = .returned ["act_1"] ∧
      (∀ call, .called "act_1" call ∉
        (session aftermath (siege.step (.cancel "act_1")).1).2) ∧
      "act_1" ∉
        (session aftermath
          (siege.step (.cancel "act_1")).1).1.context.activeEvents := by
  have hreachable : siege.Reachable := ⟨256, ">=1.0", .empty, _, rfl⟩
  have hmem : besieged ∈ siege.activations := by decide +kernel
  obtain ⟨-, hcalls, -, -, hunlisted⟩ :=
    cancelled_is_silent hreachable hmem rfl .cancel aftermath
  exact ⟨by decide +kernel, hcalls, hunlisted (by simp [aftermath])⟩

end Stage

end StoryGraph
