import StoryGraph.Proofs.Play.Session

/-!
# Activations that have ended

An activation that has completed, aborted or been cancelled is not touched by
any later event, with one exception: while the call of a cancelled activation
at an encounter is open, a report on it that cannot be read aborts the
activation.  That report is the only one; afterwards the activation is final.
-/

namespace StoryGraph

namespace Turn

/-! ## Turns of an ended activation -/

theorem resume_of_ended (limit : Nat) (report : Report) {turn : Turn}
    (hended : turn.activation.isLive = false) :
    turn.resume limit report = (turn, none) := by
  apply resume_of_not_suspended
  intro hsuspended
  simp [Activation.isLive, hsuspended, ActivationState.isLive] at hended

theorem cancel_of_ended {turn : Turn}
    (hended : turn.activation.isLive = false) : turn.cancel = turn := by
  rw [cancel, hended]
  rfl

/-- The answer to a call of an activation that has ended is ignored, as long as
it can be read. -/
theorem receive_of_ended (limit : Nat) {answer : Answer} {turn : Turn}
    {nodeId : String} {node : CompiledNode}
    (hended : turn.activation.isLive = false)
    (hstands : turn.activation.StandsAt nodeId node)
    (hreadable : ∀ report issues, answer = .reported report →
      report.port node.kind ≠ .rejected issues) :
    turn.receive limit answer = (turn, none) := by
  rw [receive, current?_eq_some.mpr hstands]
  cases answer with
  | reported report =>
    cases hport : report.port node.kind with
    | rejected issues => exact absurd hport (hreadable report issues rfl)
    | accepted port => simp [hport, hended]
  | deferred => simp [hended]
  | failed kind text => simp [hended]
  | interrupted text => simp [cancel_of_ended hended]

/-- A report that cannot be read aborts the activation, whatever its state. -/
theorem receive_of_rejected (limit : Nat) {report : Report} {turn : Turn}
    {nodeId : String} {node : CompiledNode} {issues : List Issue}
    (hstands : turn.activation.StandsAt nodeId node)
    (hrejected : report.port node.kind = .rejected issues) :
    turn.receive limit (.reported report) =
      (turn.abort nodeId (.invalidReport issues), none) := by
  rw [receive, current?_eq_some.mpr hstands]
  simp [hrejected]

end Turn

namespace Stage

open Activation

/-! ## New activations beside an old one -/

theorem started?_advance_of_continues {stage : Stage} (firing? : Option Firing)
    {activation found : Activation} {turn : Turn → Turn × Option Call}
    {id : String}
    (hcontinues : ∀ before : Turn,
      before.activation.Continues (turn before).1.activation)
    (hstarted : stage.started? id = some found) :
    (stage.advance firing? activation turn).started? id =
      if id = activation.id then
        some (turn ⟨stage.context, activation⟩).1.activation
      else some found := by
  rw [started?_advance, (hcontinues ⟨stage.context, activation⟩).id, hstarted]
  rfl

/-- The turn of another activation leaves an activation alone. -/
theorem started?_advance_kept {stage : Stage} (firing? : Option Firing)
    {activation found : Activation} {turn : Turn → Turn × Option Call}
    {id other : String}
    (hcontinues : ∀ before : Turn,
      before.activation.Continues (turn before).1.activation)
    (hstarted : stage.started? id = some activation)
    (hfound : stage.started? other = some found)
    (hkept : other = id →
      (turn ⟨stage.context, activation⟩).1.activation = activation) :
    (stage.advance firing? found turn).started? id = some activation := by
  have hid := started?_id hfound
  rw [started?_advance_of_continues firing? hcontinues hstarted, hid]
  split
  · next heq =>
    subst heq
    rw [hstarted] at hfound
    cases hfound
    rw [hkept rfl]
  · rfl

theorem Orderly.started?_begins {stage later : Stage} (horderly : stage.Orderly)
    (hbegins : Begins stage later) {id : String} {activation : Activation}
    (hstarted : stage.started? id = some activation) :
    later.started? id = some activation := by
  cases hbegins with
  | @begin graph entry nodeId firing? hentry =>
    have hold :
        (stage.enroll graph nodeId).1.started? id = some activation := by
      rw [started?_enroll, hstarted, Option.some_or]
    have hne : id ≠ (stage.enroll graph nodeId).2.id := by
      rintro rfl
      rw [horderly.started?_enroll_id graph nodeId] at hstarted
      cases hstarted
    rw [Stage.begin, started?_advance_of_continues
      _ (Turn.continues_continueAt _ _) hold, if_neg hne]

theorem Orderly.started?_beginsMany {stage later : Stage}
    (horderly : stage.Orderly) (hbegins : BeginsMany stage later) {id : String}
    {activation : Activation} (hstarted : stage.started? id = some activation) :
    later.started? id = some activation := by
  induction hbegins with
  | refl => exact hstarted
  | tail hearlier hlast ih =>
    have hbefore := horderly.reaches (BeginsMany.reaches hearlier)
    exact hbefore.started?_begins hlast ih

/-! ## What stays on a stage -/

/-- The turn of an activation takes no visit from any activation. -/
theorem started?_advance_grows {stage : Stage} (firing? : Option Firing)
    {activation found : Activation} {turn : Turn → Turn × Option Call}
    {id : String}
    (hgrows : activation.Grows (turn ⟨stage.context, activation⟩).1.activation)
    (hstarted : stage.started? activation.id = some activation)
    (hfound : stage.started? id = some found) :
    ∃ after, (stage.advance firing? activation turn).started? id = some after ∧
      found.Grows after := by
  have hcontinues := hgrows.toContinues
  by_cases hid : id = activation.id
  · subst hid
    rw [hstarted] at hfound
    cases hfound
    exact ⟨_, started?_advance_self firing? hstarted hcontinues, hgrows⟩
  · exact ⟨found, (started?_advance_other firing? hid hcontinues).trans hfound,
      .refl _⟩

theorem Orderly.advances_grows {stage later : Stage} (horderly : stage.Orderly)
    (hadvances : Advances stage later) {id : String} {found : Activation}
    (hfound : stage.started? id = some found) :
    ∃ after, later.started? id = some after ∧ found.Grows after := by
  cases hadvances with
  | begins hbegins =>
    exact ⟨found, horderly.started?_begins hbegins hfound, .refl _⟩
  | resumes report hregistered =>
    have hstarted := started?_of_activation? hregistered
    exact started?_advance_grows _ (Turn.resume_responds _ ⟨_, _⟩ _).grows
      (started?_id hstarted ▸ hstarted) hfound
  | @cancels _ activation hregistered =>
    have hstarted := started?_of_activation? hregistered
    exact @started?_advance_grows stage none activation found
      (fun turn => (turn.cancel, none)) id
      (Turn.cancel_responds 0 ⟨_, _⟩).grows
        (started?_id hstarted ▸ hstarted) hfound
  | prunes => exact ⟨found, hfound, .refl _⟩
  | @receives _ task activation answer htask hstarted =>
    have herased :
        started? { stage with tasks := stage.tasks.erase task } activation.id =
          some activation :=
      started?_id hstarted ▸ hstarted
    exact started?_advance_grows _ (Turn.receive_responds _ ⟨_, _⟩ _).grows
      herased hfound
  | writes => exact ⟨found, hfound, .refl _⟩

/-- Activations stay on the stage with all their visits. -/
theorem Orderly.reaches_grows {stage later : Stage} (horderly : stage.Orderly)
    (hreaches : Reaches stage later) {id : String} {found : Activation}
    (hfound : stage.started? id = some found) :
    ∃ after, later.started? id = some after ∧ found.Grows after := by
  induction hreaches with
  | refl => exact ⟨found, hfound, .refl _⟩
  | tail hearlier hadvances ih =>
    obtain ⟨between, hbetween, hgrows⟩ := ih
    obtain ⟨after, hafter, hmore⟩ :=
      (horderly.reaches hearlier).advances_grows hadvances hbetween
    exact ⟨after, hafter, hgrows.trans hmore⟩

/-- If the turn of an activation does not bring it back to life, those that have
ended stay so. -/
theorem ended_advance {stage : Stage} (firing? : Option Firing)
    {activation found : Activation} {turn : Turn → Turn × Option Call}
    {id : String} (hstarted : stage.started? activation.id = some activation)
    (hcontinues : activation.Continues
      (turn ⟨stage.context, activation⟩).1.activation)
    (hkept : activation.isLive = false →
      (turn ⟨stage.context, activation⟩).1.activation.isLive = false)
    (hfound : stage.started? id = some found) (hended : found.isLive = false) :
    ∃ after, (stage.advance firing? activation turn).started? id = some after ∧
      after.isLive = false := by
  by_cases hid : id = activation.id
  · subst hid
    rw [hstarted] at hfound
    cases hfound
    exact ⟨_, started?_advance_self firing? hstarted hcontinues, hkept hended⟩
  · exact ⟨found, (started?_advance_other firing? hid hcontinues).trans hfound,
      hended⟩

/-! ## Events after the end -/

/-- The event is a report that cannot be read, on the open call of an
activation. -/
def IsUnreadable (id : String) (event : Event) (stage : Stage) : Prop :=
  ∃ report task activation nodeId node issues,
    event = .answer id (.reported report) ∧
      stage.tasks.find? (·.activationId == id) = some task ∧
      stage.started? id = some activation ∧ activation.StandsAt nodeId node ∧
      report.port node.kind = .rejected issues

/-- One of the events is a report that cannot be read, at the time when it
comes. -/
def MeetsUnreadable (id : String) : List Event → Stage → Prop
  | [], _ => False
  | event :: events, stage =>
    stage.IsUnreadable id event ∨ MeetsUnreadable id events (stage.step event).1

/-- An activation that has ended is final for every event but a report that
cannot be read. -/
theorem Orderly.ended_step {stage : Stage} (horderly : stage.Orderly)
    {id : String} {activation : Activation}
    (hstarted : stage.started? id = some activation)
    (hended : activation.isLive = false) {event : Event}
    (hreadable : ¬ stage.IsUnreadable id event) :
    (stage.step event).1.started? id = some activation := by
  cases event with
  | activate graph entry =>
    exact horderly.started?_beginsMany
      (activate_begins stage graph entry) hstarted
  | fire graph triggerType =>
    exact horderly.started?_beginsMany
      (fire_begins stage graph triggerType) hstarted
  | resume other report =>
    cases hregistered : stage.activation? other with
    | none => simpa only [Stage.step, resume, hregistered] using hstarted
    | some resumed =>
      apply (horderly.resumes report hregistered).started?_beginsMany
        (resume_begins report hregistered)
      apply started?_advance_kept _ (Turn.continues_resume _ _) hstarted
        (started?_of_activation? hregistered)
      intro _
      rw [Turn.resume_of_ended _ _ hended]
  | cancel other =>
    cases hregistered : stage.activation? other with
    | none => simpa only [Stage.step, cancel, hregistered] using hstarted
    | some cancelled =>
      simp only [Stage.step, cancel, hregistered]
      change (stage.advance none cancelled fun turn =>
        (turn.cancel, none)).started? id = _
      exact started?_advance_kept none Turn.continues_cancel hstarted
        (started?_of_activation? hregistered) fun _ => congrArg Turn.activation
          (Turn.cancel_of_ended hended)
  | prune => exact hstarted
  | answer other answer =>
    cases htask : stage.tasks.find? (·.activationId == other) with
    | none => simpa only [Stage.step, Stage.answer, htask] using hstarted
    | some task =>
      cases hother : stage.started? other with
      | none =>
        simpa only [Stage.step, Stage.answer, htask, hother] using hstarted
      | some answered =>
        apply (horderly.receives answer htask hother).started?_beginsMany
          (answer_begins answer htask hother)
        refine started?_advance_kept _ (Turn.continues_receive _ _)
          hstarted hother ?_
        rintro rfl
        obtain ⟨nodeId, node, hstands⟩ :=
          (horderly.awaits_of_find? hstarted htask).2
        rw [Turn.receive_of_ended _ hended hstands]
        rintro report issues rfl hrejected
        exact hreadable ⟨report, task, activation, nodeId, node, issues, rfl,
          htask, hstarted, hstands, hrejected⟩
  | write context => exact hstarted

/-- A report that cannot be read meets an ended activation only if it has been
cancelled during its call, and aborts it then. -/
theorem Orderly.unreadable_step {stage : Stage} (horderly : stage.Orderly)
    {id : String} {activation : Activation}
    (hstarted : stage.started? id = some activation)
    (hended : activation.isLive = false) {event : Event}
    (hunreadable : stage.IsUnreadable id event) :
    activation.state = .cancelled ∧ ∃ nodeId issues,
      activation.cursor = some nodeId ∧
      (stage.step event).1.started? id =
        some (activation.withState
          (.aborted ⟨nodeId, .invalidReport issues⟩)) := by
  obtain ⟨report, task, found, nodeId, node, issues, rfl, htask, hfound,
    hstands, hrejected⟩ :=
      hunreadable
  rw [hstarted] at hfound
  cases hfound
  have hid := started?_id hstarted
  constructor
  · rcases (horderly.awaits_of_find? hstarted htask).1 with
      hrunning | hcancelled
    · simp [isLive, hrunning, ActivationState.isLive] at hended
    · exact hcancelled
  · refine ⟨nodeId, issues, hstands.1, ?_⟩
    apply (horderly.receives (.reported report) htask
      hstarted).started?_beginsMany
      (answer_begins (.reported report) htask hstarted)
    have herased : started? { stage with tasks := stage.tasks.erase task } id =
      some activation := hstarted
    rw [started?_advance_of_continues _ (Turn.continues_receive _ _) herased,
      if_pos hid.symm, Turn.receive_of_rejected _ hstands hrejected]
    rfl

/-- No report that cannot be read meets an activation that has aborted. -/
theorem Orderly.readable_of_aborted {stage : Stage} (horderly : stage.Orderly)
    {id : String} {activation : Activation} {diagnostic : Diagnostic}
    (hstarted : stage.started? id = some activation)
    (haborted : activation.state = .aborted diagnostic) (event : Event) :
    ¬ stage.IsUnreadable id event := by
  intro hunreadable
  have hended : activation.isLive = false := by rw [isLive, haborted]; rfl
  have hcancelled := (horderly.unreadable_step hstarted hended hunreadable).1
  cases haborted.symm.trans hcancelled

/-! ## Sessions after the end -/

theorem Orderly.step {stage : Stage} (horderly : stage.Orderly)
    (event : Event) : (stage.step event).1.Orderly :=
  horderly.reaches (step_reaches stage event)

theorem Orderly.ended_session {events : List Event} {stage : Stage}
    (horderly : stage.Orderly) {id : String} {activation : Activation}
    (hstarted : stage.started? id = some activation)
    (hended : activation.isLive = false)
    (hreadable : ¬ stage.MeetsUnreadable id events) :
    (session events stage).1.started? id = some activation := by
  induction events generalizing stage with
  | nil => exact hstarted
  | cons event events ih =>
    obtain ⟨hfirst, hrest⟩ := not_or.mp hreadable
    exact ih (horderly.step event) (horderly.ended_step hstarted hended hfirst)
      hrest

theorem Orderly.aborted_session (events : List Event) {stage : Stage}
    (horderly : stage.Orderly) {id : String} {activation : Activation}
    {diagnostic : Diagnostic} (hstarted : stage.started? id = some activation)
    (haborted : activation.state = .aborted diagnostic) :
    (session events stage).1.started? id = some activation := by
  induction events generalizing stage with
  | nil => exact hstarted
  | cons event events ih =>
    have hended : activation.isLive = false := by rw [isLive, haborted]; rfl
    exact ih (horderly.step event) (horderly.ended_step hstarted hended
      (horderly.readable_of_aborted hstarted haborted event))

/-- A cancelled activation that meets a report that cannot be read is aborted
from then on. -/
theorem Orderly.unreadable_session {events : List Event} {stage : Stage}
    (horderly : stage.Orderly) {id : String} {activation : Activation}
    (hstarted : stage.started? id = some activation)
    (hended : activation.isLive = false)
    (hmeets : stage.MeetsUnreadable id events) :
    activation.state = .cancelled ∧ ∃ nodeId issues,
      activation.cursor = some nodeId ∧
      (session events stage).1.started? id =
        some (activation.withState
          (.aborted ⟨nodeId, .invalidReport issues⟩)) := by
  induction events generalizing stage with
  | nil => exact hmeets.elim
  | cons event events ih =>
    by_cases hfirst : stage.IsUnreadable id event
    · obtain ⟨hcancelled, nodeId, issues, hcursor, hafter⟩ :=
        horderly.unreadable_step hstarted hended hfirst
      exact ⟨hcancelled, nodeId, issues, hcursor,
        (horderly.step event).aborted_session events hafter rfl⟩
    · exact ih (horderly.step event)
        (horderly.ended_step hstarted hended hfirst)
        (hmeets.resolve_left hfirst)

/-- An activation that has ended stays exactly as it is through every later
session, except that a report which cannot be read aborts it if it comes as the
answer to a call during which the activation was cancelled. -/
theorem ended_final_iff {stage : Stage} (hreachable : stage.Reachable)
    {activation : Activation} (hmem : activation ∈ stage.activations)
    (hended : activation.isLive = false) (events : List Event) :
    (session events stage).1.started? activation.id = some activation ↔
      ¬ stage.MeetsUnreadable activation.id events := by
  have horderly := hreachable.orderly
  have hstarted := horderly.started?_of_mem hmem
  constructor
  · intro hkept hmeets
    obtain ⟨hcancelled, nodeId, issues, _, haborted⟩ :=
      horderly.unreadable_session hstarted hended hmeets
    rw [hkept] at haborted
    have hstate := congrArg Activation.state (Option.some.inj haborted)
    cases hcancelled.symm.trans hstate
  · exact horderly.ended_session hstarted hended

/-! ## An activation that is cancelled during an encounter -/

/-- A trigger that leads to an encounter. -/
def ambush : CompiledGraph :=
  ⟨"ambush", "", some "entry", [⟨"entry", "player_enter", "always"⟩],
    ⟨[("entry", ⟨.trigger, .empty, [["wild"]]⟩),
      ("wild", ⟨.encounter, .empty, [[], []]⟩)],
      by decide⟩,
    ⟨⟨⟨2024, 1, 1, 0, 0, 0, 0, none⟩, by decide⟩, "1.0", []⟩⟩

/-- The activation is cancelled while the host plays out the encounter. -/
def flight : Stage :=
  (session [.activate ambush none, .cancel "act_1"]
    (initial 256 ">=1.0" .empty)).1

/-- The activation of `flight`. -/
def fugitive : Activation :=
  ⟨"act_1", ambush, "entry", .cancelled, some "wild", 2, #["entry", "wild"]⟩

theorem flight_reachable : flight.Reachable :=
  ⟨256, ">=1.0", .empty, _, rfl⟩

theorem flight_activations :
    flight.activations = [fugitive] := by decide +kernel

theorem fugitive_meets_unreadable :
    ¬ flight.MeetsUnreadable "act_1"
      [.answer "act_1" (.reported (.encounter ⟨true, false⟩))] ∧
      flight.MeetsUnreadable "act_1"
        [.answer "act_1" (.reported (.value (.int 5)))] := by
  have hmem : fugitive ∈ flight.activations := by
    rw [flight_activations]
    exact List.mem_singleton_self _
  constructor
  · exact (ended_final_iff flight_reachable hmem rfl _).mp (by decide +kernel)
  · apply Classical.byContradiction
    intro hreadable
    have hkept := (ended_final_iff flight_reachable hmem rfl _).mpr hreadable
    exact absurd hkept (by decide +kernel)

/-- Not every event leaves the activations that have ended as they are. -/
theorem ended_not_final : ¬ ∀ stage : Stage, stage.Reachable →
    ∀ activation ∈ stage.activations, activation.isLive = false → ∀ event,
      (stage.step event).1.started? activation.id = some activation := by
  intro hfinal
  have hmem : fugitive ∈ flight.activations := by
    rw [flight_activations]
    exact List.mem_singleton_self _
  have hkept := hfinal flight flight_reachable fugitive hmem rfl
    (.answer "act_1" (.reported (.value (.int 5))))
  exact absurd hkept (by decide +kernel)

end Stage

end StoryGraph
