import StoryGraph.Proofs.Play.Active
import StoryGraph.Proofs.Play.Ended

/-!
# Calls and their answers

What the host can observe of a session are its events and their responses.  They
tell the latest call of each activation and the answer to it.  A suspended
activation stands at the node that made its latest call, and this call has been
put off.  With the balance of the active events, this is everything that a host
may rely on between two events.
-/

namespace StoryGraph

/-- A call of the host and the answer to it, once it has been given. -/
structure Exchange where
  call : Call
  answer? : Option Answer
  deriving DecidableEq

namespace Exchange

/-- The exchange after an answer; only an open call takes it. -/
def take (answer : Answer) (exchange : Exchange) : Exchange :=
  { exchange with answer? := exchange.answer?.or (some answer) }

/-- The latest exchange of an activation once an event has come. -/
def hear (event : Event) (latest : String → Option Exchange)
    (id : String) : Option Exchange :=
  match event with
  | .answer receiver answer =>
    if receiver = id then (latest id).map (take answer) else latest id
  | _ => latest id

/-- The latest exchange of an activation once the event has ended with a
response. -/
def note (response : Response) (latest : String → Option Exchange)
    (id : String) : Option Exchange :=
  match response with
  | .called caller call => if caller = id then some ⟨call, none⟩ else latest id
  | _ => latest id

/-- The latest exchange of each activation after a part of a session. -/
def follow (latest : String → Option Exchange)
    (history : List (Event × Response)) : String → Option Exchange :=
  history.foldl (fun latest happening =>
    note happening.2 (hear happening.1 latest)) latest

/-- The latest exchange of each activation in a session. -/
def latest (history : List (Event × Response)) : String → Option Exchange :=
  follow (fun _ => none) history

/-- The exchanges after the turn of an activation, which may have made a
call. -/
def noteCall (id : String) (call? : Option Call)
    (latest : String → Option Exchange) : String → Option Exchange :=
  match call? with
  | some call => note (.called id call) latest
  | none => latest

theorem noteCall_self (id : String) (call : Call)
    (latest : String → Option Exchange) :
    noteCall id (some call) latest id = some ⟨call, none⟩ :=
  if_pos rfl

theorem noteCall_other {id other : String} (hne : other ≠ id)
    (call? : Option Call) (latest : String → Option Exchange) :
    noteCall id call? latest other = latest other := by
  cases call? with
  | none => rfl
  | some call => exact if_neg (Ne.symm hne)

end Exchange

namespace Stage

open Activation

/-- The exchanges are those of the stage: an activation with a task stands at
the node that made its open call, and a suspended one at the node whose call has
been put off. -/
structure Tracks (latest : String → Option Exchange)
    (stage : Stage) : Prop where
  awaited : ∀ task ∈ stage.tasks, ∃ activation call,
    stage.started? task.activationId = some activation ∧
      latest task.activationId = some ⟨call, none⟩ ∧
        activation.StandsByCall call
  deferred : ∀ id activation, stage.started? id = some activation →
    activation.state = .suspended →
      ∃ call, latest id = some ⟨call, some .deferred⟩ ∧
        activation.StandsByCall call

namespace Tracks

variable {latest : String → Option Exchange} {stage : Stage}
  (htracks : stage.Tracks latest)

include htracks

theorem erase (task : Task) :
    Tracks latest { stage with tasks := stage.tasks.erase task } where
  awaited other hmem := htracks.awaited other (List.mem_of_mem_erase hmem)
  deferred := htracks.deferred

/-- An answer to an activation without a task changes nothing that counts. -/
theorem hear {id : String} (hidle : id ∉ stage.tasks.map Task.activationId)
    (answer : Answer) :
    stage.Tracks (Exchange.hear (.answer id answer) latest) where
  awaited := by
    intro task hmem
    obtain ⟨activation, call, hstarted, hlatest, hstands⟩ :=
      htracks.awaited task hmem
    have hne : id ≠ task.activationId := by
      rintro rfl
      exact hidle (List.mem_map_of_mem hmem)
    exact ⟨activation, call,
      hstarted, by rw [Exchange.hear, if_neg hne, hlatest], hstands⟩
  deferred := by
    intro other activation hstarted hsuspended
    obtain ⟨call, hlatest, hstands⟩ :=
      htracks.deferred other activation hstarted hsuspended
    refine ⟨call, ?_, hstands⟩
    rw [Exchange.hear, hlatest]
    split <;> rfl

/-- The turn of an activation.  If it makes no call, an open call stays open,
and only a deferral suspends. -/
theorem advance (firing? : Option Firing) {activation : Activation}
    {turn : Turn → Turn × Option Call}
    (hstarted : stage.started? activation.id = some activation)
    (hcontinues : activation.Continues
      (turn ⟨stage.context, activation⟩).1.activation)
    (hcalled : ∀ call, (turn ⟨stage.context, activation⟩).2 = some call →
      (turn ⟨stage.context, activation⟩).1.activation.HasCalled call)
    (hopen : activation.id ∈ stage.tasks.map Task.activationId → ∀ call,
      activation.StandsByCall call →
        (turn ⟨stage.context, activation⟩).1.activation.StandsByCall call)
    (hsuspended : (turn ⟨stage.context, activation⟩).1.activation.state =
      .suspended → ∃ call, latest activation.id = some ⟨call, some .deferred⟩ ∧
        (turn ⟨stage.context, activation⟩).1.activation.StandsByCall call) :
    (stage.advance firing? activation turn).Tracks
      (Exchange.noteCall activation.id (turn ⟨stage.context, activation⟩).2
        latest) := by
  have hself := started?_advance_self firing? hstarted hcontinues
  have hothers (id : String) (hne : id ≠ activation.id) :=
    started?_advance_other firing? hne hcontinues
  constructor
  case awaited =>
    intro task hmem
    by_cases hid : task.activationId = activation.id
    · rw [hid, hself]
      cases hturn : (turn ⟨stage.context, activation⟩).2 with
      | some call =>
        exact ⟨_, call, rfl, Exchange.noteCall_self _ _ _,
          (hcalled call hturn).stands⟩
      | none =>
        rw [advance_tasks, hturn] at hmem
        obtain ⟨found, call, hfound, hlatest, hstands⟩ :=
          htracks.awaited task hmem
        rw [hid] at hfound hlatest
        rw [hstarted] at hfound
        cases hfound
        exact ⟨_, call, rfl, hlatest,
          hopen (hid ▸ List.mem_map_of_mem hmem) call hstands⟩
    · rw [hothers _ hid, Exchange.noteCall_other hid]
      exact htracks.awaited task (mem_of_mem_advance_tasks _ _ _ _ hid hmem)
  case deferred =>
    intro id found hfound hstate
    by_cases hid : id = activation.id
    · rw [hid, hself, Option.some.injEq] at hfound
      rw [← hfound] at hstate ⊢
      obtain ⟨call, hlatest, hstands⟩ := hsuspended hstate
      refine ⟨call, ?_, hstands⟩
      cases hturn : (turn ⟨stage.context, activation⟩).2 with
      | some made =>
        have hrunning := (hcalled made hturn).running
        cases hrunning.symm.trans hstate
      | none => rw [hid, ← hlatest]; rfl
    · rw [hothers id hid] at hfound
      rw [Exchange.noteCall_other hid]
      exact htracks.deferred id found hfound hstate

theorem enroll (graph : CompiledGraph) (nodeId : String) :
    (stage.enroll graph nodeId).1.Tracks latest where
  awaited := by
    intro task hmem
    obtain ⟨activation, call, hstarted, hlatest, hstands⟩ :=
      htracks.awaited task hmem
    exact ⟨activation, call, by rw [started?_enroll, hstarted, Option.some_or],
      hlatest, hstands⟩
  deferred := by
    intro id activation hstarted hsuspended
    rw [started?_enroll] at hstarted
    rcases Option.or_eq_some_iff.mp hstarted with hold | ⟨-, hnew⟩
    · exact htracks.deferred id activation hold hsuspended
    · split at hnew
      · cases hnew
        cases hsuspended
      · cases hnew

theorem begin (horderly : stage.Orderly) (firing? : Option Firing)
    (graph : CompiledGraph) (nodeId : String) :
    (stage.begin firing? graph nodeId).Tracks
      (Exchange.noteCall (stage.enroll graph nodeId).2.id
        (Turn.continueAt stage.limit nodeId
          ⟨(stage.enroll graph nodeId).1.context,
            (stage.enroll graph nodeId).2⟩).2 latest) := by
  have hnew := horderly.started?_enroll_id graph nodeId
  refine (htracks.enroll graph nodeId).advance firing? ?_
    (Turn.continues_continueAt _ _ ⟨_, _⟩)
    (fun _ => (Turn.continueAt_walks _ _ _).hasCalled)
    ?_ ?_
  · rw [started?_enroll, hnew, if_pos rfl, Option.none_or]
  · intro htask
    obtain ⟨task, hmem, hid⟩ := List.mem_map.mp htask
    obtain ⟨activation, call, hstarted, -⟩ := htracks.awaited task hmem
    rw [hid, hnew] at hstarted
    cases hstarted
  · intro hsuspended
    exact absurd hsuspended (Turn.continueAt_rests _ _ _).not_suspended

theorem start (horderly : stage.Orderly) {graph : CompiledGraph}
    {entry : Option String} {later : Stage} {id : String} {call? : Option Call}
    (firing? : Option Firing)
    (hstart : stage.start graph entry = .ok (later, id, call?)) :
    (later.keep firing? id call?).Tracks
      (Exchange.noteCall id call? latest) := by
  obtain ⟨nodeId, -, hplay, hid⟩ := start_eq_ok hstart
  have hbegin := htracks.begin horderly firing? graph nodeId
  have hcall :
      (Turn.continueAt stage.limit nodeId
        ⟨(stage.enroll graph nodeId).1.context,
          (stage.enroll graph nodeId).2⟩).2 = call? :=
    congrArg Prod.snd hplay
  rwa [Stage.begin, Stage.advance, hplay, hid, hcall] at hbegin

theorem fireAll (horderly : stage.Orderly) (graph : CompiledGraph)
    (left : List Entrypoint) (started : List String) :
    (stage.fireAll graph left started).1.Tracks
      (Exchange.note (stage.fireAll graph left started).2 latest) := by
  induction left generalizing started stage with
  | nil => exact htracks
  | cons entry left ih =>
    rw [Stage.fireAll]
    split
    · exact htracks
    · next hstart => exact htracks.start horderly _ hstart
    · next hstart =>
      exact ih (htracks.start horderly none hstart)
        (horderly.begins (start_begins none hstart)) _

omit htracks in
/-- After the turn of an activation, its firing may go on. -/
theorem settle {firing? : Option Firing} {id : String} {call? : Option Call}
    (hkept : (stage.keep firing? id call?).Tracks
      (Exchange.noteCall id call? latest))
    (horderly : (stage.keep firing? id call?).Orderly) :
    (stage.settle firing? id call?).1.Tracks
      (Exchange.note (stage.settle firing? id call?).2 latest) := by
  cases call? with
  | some call => exact hkept
  | none =>
    cases firing? with
    | none => exact hkept
    | some firing => exact hkept.fireAll horderly _ _ _

theorem resumes (horderly : stage.Orderly) {id : String}
    {activation : Activation} (report : Report)
    (hregistered : stage.activation? id = some activation) :
    (stage.advance none activation (Turn.resume stage.limit report)).Tracks
      (Exchange.noteCall activation.id
        (Turn.resume stage.limit report ⟨stage.context, activation⟩).2
        latest) := by
  have hstarted := started?_of_activation? hregistered
  rw [← started?_id hstarted] at hstarted
  refine htracks.advance none hstarted (Turn.continues_resume _ _ ⟨_, _⟩)
    (fun _ => (Turn.resume_responds _ _ _).hasCalled) ?_ ?_
  · intro htask call hstands
    have hawaits := horderly.awaits_of_task hstarted htask
    rw [Turn.resume_of_not_suspended _ _ hawaits.not_suspended]
    exact hstands
  · intro hsuspended
    exact absurd hsuspended (Turn.resume_not_suspended _ _ _)

theorem cancels {id : String} {activation : Activation}
    (hregistered : stage.activation? id = some activation) :
    (stage.advance none activation fun turn => (turn.cancel, none)).Tracks
      latest := by
  have hstarted := started?_of_activation? hregistered
  rw [← started?_id hstarted] at hstarted
  refine @advance latest stage htracks none activation
    (fun turn => (turn.cancel, none)) hstarted
    (Turn.continues_cancel ⟨_, _⟩) (by simp) ?_ ?_
  · intro _ call hstands
    unfold Turn.cancel
    split
    · exact hstands
    · exact hstands
  · intro hsuspended
    have hended : Turn.Rests (Turn.cancel ⟨stage.context, activation⟩) none :=
      Turn.cancel_ended _
    exact absurd hsuspended hended.not_suspended

theorem receives (horderly : stage.Orderly) {id : String} {task : Task}
    {activation : Activation} (answer : Answer)
    (htask : stage.tasks.find? (·.activationId == id) = some task)
    (hstarted : stage.started? id = some activation) :
    ({ stage with tasks := stage.tasks.erase task }.advance
      task.firing? activation
      (Turn.receive stage.limit answer)).Tracks
        (Exchange.noteCall activation.id
          (Turn.receive stage.limit answer ⟨stage.context, activation⟩).2
          (Exchange.hear (.answer id answer) latest)) := by
  have hid := started?_id hstarted
  have hmem : task ∈ stage.tasks := List.mem_of_find?_eq_some htask
  have htaskId : task.activationId = id := by simpa using List.find?_some htask
  have hidle : id ∉ (stage.tasks.erase task).map Task.activationId := by
    have hperm := (List.perm_cons_erase hmem).map Task.activationId
    rw [← htaskId]
    exact (List.nodup_cons.mp (hperm.nodup_iff.mp horderly.single)).1
  refine ((htracks.erase task).hear hidle answer).advance task.firing?
    (hid ▸ hstarted)
    (Turn.continues_receive _ _ ⟨_, _⟩)
      (fun _ => (Turn.receive_responds _ _ _).hasCalled) ?_ ?_
  · intro hagain
    rw [hid] at hagain
    exact absurd hagain hidle
  · intro hsuspended
    have hbefore := (horderly.awaits_of_find? hstarted htask).not_suspended
    obtain ⟨hprompt, hkept⟩ := (Turn.receive_responds stage.limit
      ⟨stage.context, activation⟩ answer).of_suspended hbefore hsuspended
    cases hprompt
    obtain ⟨found, call, hfound, hlatest, hstands⟩ := htracks.awaited task hmem
    rw [htaskId] at hfound hlatest
    rw [hstarted] at hfound
    cases hfound
    refine ⟨call, ?_, by rw [hkept]; exact hstands⟩
    rw [hid, Exchange.hear, if_pos rfl, hlatest]
    rfl

/-- Every event and its response keep track of the exchanges. -/
theorem step (horderly : stage.Orderly) (event : Event) :
    (stage.step event).1.Tracks
      (Exchange.note (stage.step event).2 (Exchange.hear event latest)) := by
  cases event with
  | activate graph entry =>
    simp only [Stage.step, activate]
    split
    · exact htracks
    · next hstart =>
      exact settle (htracks.start horderly none hstart)
        (horderly.begins (start_begins none hstart))
  | fire graph triggerType =>
    simp only [Stage.step, fire]
    split
    · exact htracks
    · exact htracks.fireAll horderly _ _ _
  | resume id report =>
    simp only [Stage.step, resume]
    split
    · exact htracks
    · next activation hregistered =>
      have hid := started?_id (started?_of_activation? hregistered)
      have hafter := htracks.resumes horderly report hregistered
      have horder := horderly.resumes report hregistered
      rw [Stage.advance, hid] at hafter horder
      exact settle hafter horder
  | cancel id =>
    simp only [Stage.step, cancel]
    split
    · exact htracks
    · next activation hregistered => exact htracks.cancels hregistered
  | prune => exact ⟨htracks.awaited, htracks.deferred⟩
  | answer id answer =>
    simp only [Stage.step, Stage.answer]
    split
    · next task activation htask hstarted =>
      have hid := started?_id hstarted
      have hafter := htracks.receives horderly answer htask hstarted
      have horder := horderly.receives answer htask hstarted
      rw [Stage.advance, hid] at hafter horder
      split
      · simp only [play, Turn.receive_interrupted_call] at hafter
        exact hafter
      · exact settle hafter horder
    · next hnone =>
      refine htracks.hear ?_ answer
      intro hmem
      obtain ⟨task, htask, hid⟩ := List.mem_map.mp hmem
      obtain ⟨activation, call, hstarted, -⟩ := htracks.awaited task htask
      obtain ⟨found, hfound⟩ : ∃ found,
        stage.tasks.find? (·.activationId == id) = some found :=
          Option.isSome_iff_exists.mp
            (List.find?_isSome.mpr ⟨task, htask, beq_iff_eq.mpr hid⟩)
      exact hnone found activation hfound (hid ▸ hstarted)
  | write context => exact ⟨htracks.awaited, htracks.deferred⟩

end Tracks

theorem initial_tracks (limit : Nat) (supported : String) (context : Context) :
    (initial limit supported context).Tracks fun _ => none where
  awaited := by simp [initial]
  deferred := by simp [initial, started?]

theorem Tracks.session {latest : String → Option Exchange} {events : List Event}
    {stage : Stage} (htracks : stage.Tracks latest) (horderly : stage.Orderly) :
    (session events stage).1.Tracks
      (Exchange.follow latest (events.zip (session events stage).2)) := by
  induction events generalizing stage latest with
  | nil => exact htracks
  | cons event events ih =>
    exact ih (htracks.step horderly event)
      (horderly.reaches (step_reaches stage event))

/-! ## What the host may rely on -/

/-- What holds between two events, with some active events from outside and the
history of events and responses so far. -/
structure Exact (outside : IdSet) (history : List (Event × Response))
    (stage : Stage) : Prop where
  active : ∀ id, id ∈ stage.context.activeEvents ↔ id ∈ outside ∨
    ∃ activation ∈ stage.registered, activation.id = id ∧
      activation.isLive = true
  diagnosed : ∀ activation ∈ stage.activations,
    activation.state.diagnostic?.isSome ↔ activation.state.word = "aborted"
  kept : ∀ activation ∈ stage.activations, activation.isLive = true →
    activation ∈ stage.registered
  pruned : stage.prune.1.registered = stage.registered.filter Activation.isLive
  suspended : ∀ activation ∈ stage.activations, activation.state = .suspended →
    ∃ nodeId node call, activation.StandsAt nodeId node ∧ node.Makes call ∧
      Exchange.latest history activation.id = some ⟨call, some .deferred⟩

theorem diagnostic?_isSome_iff (state : ActivationState) :
    state.diagnostic?.isSome ↔ state.word = "aborted" := by
  cases state <;> simp [ActivationState.diagnostic?, ActivationState.word]

/-- Whatever happens in a session in which the host leaves the active events
alone and no activation has an id from outside: the active events are exact,
live activations are registered, pruning drops exactly those that have ended,
and a suspended activation stands at the node whose call has been put off. -/
theorem session_exact {limit : Nat} {supported : String} {context : Context}
    {events : List Event} {stage : Stage} {responses : List Response}
    (hsession : session events (initial limit supported context) =
      (stage, responses))
    (hkeeps : KeepsActive events (initial limit supported context))
    (hfresh : stage.Fresh context.activeEvents) :
    stage.Exact context.activeEvents (events.zip responses) := by
  have horderly := (Reachable.orderly ⟨limit, supported, context, events, rfl⟩ :
    (session events (initial limit supported context)).1.Orderly)
  have htracks :=
    @Tracks.session _ events _ (initial_tracks limit supported context)
      (initial_orderly limit supported context)
  have hbalanced := (initial_balanced limit supported context).session
    (initial_orderly limit supported context) hkeeps
    (by rw [hsession]; exact hfresh)
  rw [hsession] at horderly htracks hbalanced
  constructor
  case active =>
    intro id
    rw [hbalanced.active]
    constructor
    · rintro (hid | ⟨activation, hstarted, hlive⟩)
      · exact .inl hid
      · exact .inr ⟨activation, hbalanced.mem_registered horderly
          (List.mem_of_find?_eq_some hstarted) hlive, started?_id hstarted,
          hlive⟩
    · rintro (hid | ⟨activation, hregistered, rfl, hlive⟩)
      · exact .inl hid
      · exact .inr ⟨activation,
          horderly.started?_of_mem (List.mem_filter.mp hregistered).1, hlive⟩
  case diagnosed =>
    exact fun activation _ => diagnostic?_isSome_iff activation.state
  case kept =>
    exact fun activation hmem hlive =>
      hbalanced.mem_registered horderly hmem hlive
  case pruned => exact horderly.registered_prune
  case suspended =>
    intro activation hmem hsuspended
    obtain ⟨call, hlatest, nodeId, node, hstands, hmakes⟩ :=
      htracks.deferred activation.id activation
        (horderly.started?_of_mem hmem) hsuspended
    exact ⟨nodeId, node, call, hstands, hmakes, hlatest⟩

/-- Two activations of `ambush`: the host puts off the encounter of the first
one, cancels the second one during its encounter, and prunes the stage. -/
def skirmish : List Event :=
  [.activate ambush none, .answer "act_1" .deferred, .activate ambush none,
    .cancel "act_2", .prune]

/-- The stage after `skirmish`, and the responses. -/
def skirmished : Stage × List Response :=
  session skirmish (initial 256 ">=1.0" .empty)

theorem skirmish_exact : skirmished.1.Exact .empty (skirmish.zip skirmished.2) ∧
    skirmished.1.registered.map (fun activation =>
      (activation.id, activation.state)) =
      [("act_1", .suspended)] := by
  constructor
  · refine @session_exact 256 ">=1.0" .empty skirmish skirmished.1
      skirmished.2 rfl ?_ ?_
    · simp [KeepsActive, skirmish]
    · intro activation _
      exact IdSet.not_mem_empty _
  · decide +kernel

end Stage

end StoryGraph
