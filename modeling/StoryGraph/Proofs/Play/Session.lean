import StoryGraph.Play.Stage
import StoryGraph.Proofs.Distinct
import StoryGraph.Proofs.IdSupply
import StoryGraph.Proofs.Play.Turn
import Mathlib.Logic.Relation

/-!
# Sessions on a stage

A session is a sequence of events on a stage.  Every event is made of a few
*advances*: an activation begins, goes on after a report or an answer, is
cancelled, or the host prunes the stage or edits its context.  What holds
initially and is kept by every advance holds on every stage that a session
reaches.
-/

namespace StoryGraph

namespace Stage

open Activation

/-! ## One activation among the others -/

theorem find?_replaced (activations : List Activation) (activation : Activation)
    (id : String) :
    (activations.map fun old =>
        if old.id = activation.id then activation else old).find?
          (·.id == id) =
      if id = activation.id then
        (activations.find? (·.id == id)).map fun _ => activation
      else activations.find? (·.id == id) := by
  induction activations with
  | nil => simp
  | cons first rest ih =>
    rw [List.map_cons, List.find?_cons, List.find?_cons, ih]
    by_cases hfirst : first.id = activation.id
    · by_cases hid : id = activation.id
      · simp [hfirst, hid]
      · have hne : (activation.id == id) = false := by simpa using Ne.symm hid
        simp [hfirst, hid, hne]
    · by_cases hid : id = activation.id
      · have hne : (first.id == activation.id) = false := by simpa using hfirst
        simp [hfirst, hid, hne]
      · simp [hfirst, hid]

/-- Nothing is replaced when no activation has the id. -/
theorem replaced_of_find?_eq_none {activations : List Activation} {id : String}
    (hnone : activations.find? (·.id == id) = none) (activation : Activation) :
    (activations.map fun old => if old.id = id then activation else old) =
      activations := by
  refine (List.map_congr_left ?_).trans (List.map_id _)
  intro old hold
  have hne := List.find?_eq_none.mp hnone old hold
  exact if_neg (by simpa using hne)

/-- Replacing an activation leaves all others alone. -/
theorem started?_replace (stage : Stage) (activation : Activation)
    (id : String) :
    (stage.replace activation).started? id =
      if id = activation.id then (stage.started? id).map fun _ => activation
      else stage.started? id :=
  find?_replaced stage.activations activation id

theorem ids_replace (stage : Stage) (activation : Activation) :
    (stage.replace activation).activations.map Activation.id =
      stage.activations.map Activation.id := by
  simp only [replace, List.map_map]
  apply List.map_congr_left
  intro old _
  by_cases hold : old.id = activation.id
  · simp [hold]
  · simp [hold]

theorem started?_id {stage : Stage} {id : String} {activation : Activation}
    (hstarted : stage.started? id = some activation) : activation.id = id := by
  simpa using List.find?_some hstarted

/-- Registered activations have been started, and the search for one finds the
same activation. -/
theorem started?_of_activation? {stage : Stage} {id : String}
    {activation : Activation}
    (hregistered : stage.activation? id = some activation) :
    stage.started? id = some activation := by
  have hid : activation.id = id := by simpa using List.find?_some hregistered
  have hkept : id ∉ stage.forgotten := by
    have hmem := List.mem_of_find?_eq_some hregistered
    simpa [registered, hid] using (List.mem_filter.mp hmem).2
  rw [activation?, registered, List.find?_filter] at hregistered
  rw [started?, ← hregistered]
  congr 1
  funext other
  by_cases hother : other.id = id
  · simp [hother, hkept]
  · simp [hother]

theorem mem_of_activation? {stage : Stage} {id : String}
    {activation : Activation}
    (hregistered : stage.activation? id = some activation) :
    activation ∈ stage.activations :=
  List.mem_of_find?_eq_some (started?_of_activation? hregistered)

/-! ## Advances -/

/-- Keeps the call of an activation, if it made one, as a task. -/
def keep (firing? : Option Firing) (id : String) (call? : Option Call)
    (stage : Stage) : Stage :=
  match call? with
  | some call => (stage.await firing? id call).1
  | none => stage

/-- Lets an activation take a turn and keeps its call as a task. -/
def advance (firing? : Option Firing) (activation : Activation)
    (turn : Turn → Turn × Option Call) (stage : Stage) : Stage :=
  (stage.play activation turn).1.keep firing? activation.id
    (stage.play activation turn).2

/-- The stage after a new activation has begun at a node. -/
def begin (firing? : Option Firing) (graph : CompiledGraph) (nodeId : String)
    (stage : Stage) : Stage :=
  (stage.enroll graph nodeId).1.advance firing? (stage.enroll graph nodeId).2
    (Turn.continueAt stage.limit nodeId)

/-- A new activation begins, at an entrypoint of its graph. -/
inductive Begins (stage : Stage) : Stage → Prop where
  | begin {graph : CompiledGraph} {entry : Option String} {nodeId : String}
    (firing? : Option Firing) (hentry : entryOf graph entry = .ok nodeId) :
    Begins stage (stage.begin firing? graph nodeId)

/-- One of the changes that events are made of. -/
inductive Advances (stage : Stage) : Stage → Prop where
  | begins {later : Stage} (hbegins : Begins stage later) : Advances stage later
  | resumes {id : String} {activation : Activation} (report : Report)
    (hregistered : stage.activation? id = some activation) :
    Advances stage
      (stage.advance none activation (Turn.resume stage.limit report))
  | cancels {id : String} {activation : Activation}
    (hregistered : stage.activation? id = some activation) :
    Advances stage (stage.advance none activation fun turn =>
      (turn.cancel, none))
  | prunes : Advances stage stage.prune.1
  | receives {id : String} {task : Task} {activation : Activation}
    (answer : Answer)
    (htask : stage.tasks.find? (·.activationId == id) = some task)
    (hstarted : stage.started? id = some activation) :
    Advances stage
      ({ stage with tasks := stage.tasks.erase task }.advance task.firing?
      activation (Turn.receive stage.limit answer))
  | writes (context : Context) :
      Advances stage { stage with context := context }

/-- Any number of activations begin, one after the other. -/
abbrev BeginsMany : Stage → Stage → Prop := Relation.ReflTransGen Begins

/-- Any number of advances, one after the other. -/
abbrev Reaches : Stage → Stage → Prop := Relation.ReflTransGen Advances

theorem BeginsMany.reaches {stage later : Stage}
    (hbegins : BeginsMany stage later) : Reaches stage later :=
  Relation.ReflTransGen.mono (fun _ _ => Advances.begins) _ _ hbegins

section Advance

variable (firing? : Option Firing) (activation : Activation)
  (turn : Turn → Turn × Option Call)
variable (stage : Stage)

theorem advance_activations :
    (stage.advance firing? activation turn).activations =
      (stage.replace
        (turn ⟨stage.context, activation⟩).1.activation).activations := by
  unfold advance keep
  split <;> rfl

theorem advance_tasks :
    (stage.advance firing? activation turn).tasks =
      if (turn ⟨stage.context, activation⟩).2.isSome then
        ⟨activation.id, firing?⟩ :: stage.tasks
      else stage.tasks := by
  have hcall : (stage.play activation turn).2 =
      (turn ⟨stage.context, activation⟩).2 :=
    rfl
  rw [advance, ← hcall]
  cases (stage.play activation turn).2 <;> rfl

theorem advance_supply :
    (stage.advance firing? activation turn).supply = stage.supply := by
  unfold advance keep
  split <;> rfl

theorem advance_context :
    (stage.advance firing? activation turn).context =
      (turn ⟨stage.context, activation⟩).1.context := by
  unfold advance keep
  split <;> rfl

theorem advance_forgotten :
    (stage.advance firing? activation turn).forgotten = stage.forgotten := by
  unfold advance keep
  split <;> rfl

theorem ids_advance :
    (stage.advance firing? activation turn).activations.map Activation.id =
      stage.activations.map Activation.id := by
  rw [advance_activations, ids_replace]

/-- A turn leaves the tasks of other activations as they were. -/
theorem mem_of_mem_advance_tasks {task : Task}
    (hother : task.activationId ≠ activation.id)
    (hmem : task ∈ (stage.advance firing? activation turn).tasks) :
    task ∈ stage.tasks := by
  rw [advance_tasks] at hmem
  split at hmem
  · rcases List.mem_cons.mp hmem with rfl | hold
    · exact absurd rfl hother
    · exact hold
  · exact hmem

theorem started?_advance (id : String) :
    (stage.advance firing? activation turn).started? id =
      if id = (turn ⟨stage.context, activation⟩).1.activation.id then
        (stage.started? id).map fun _ =>
          (turn ⟨stage.context, activation⟩).1.activation
      else stage.started? id := by
  rw [started?, advance_activations]
  exact started?_replace _ _ _

variable {stage activation turn} in
/-- After its turn, an activation is on the stage as the turn has left it. -/
theorem started?_advance_self
    (hstarted : stage.started? activation.id = some activation)
    (hcontinues : activation.Continues
      (turn ⟨stage.context, activation⟩).1.activation) :
    (stage.advance firing? activation turn).started? activation.id =
      some (turn ⟨stage.context, activation⟩).1.activation := by
  rw [started?_advance, hcontinues.id, if_pos rfl, hstarted]
  rfl

variable {stage activation turn} in
theorem started?_advance_other {id : String} (hne : id ≠ activation.id)
    (hcontinues : activation.Continues
      (turn ⟨stage.context, activation⟩).1.activation) :
    (stage.advance firing? activation turn).started? id =
      stage.started? id := by
  rw [started?_advance, hcontinues.id, if_neg hne]

theorem advance_limit :
    (stage.advance firing? activation turn).limit = stage.limit := by
  unfold advance keep
  split <;> rfl

/-- A turn changes the activation that takes it and no other one. -/
theorem mem_advance {other : Activation}
    (hmem : other ∈ (stage.advance firing? activation turn).activations) :
    other = (turn ⟨stage.context, activation⟩).1.activation ∨
      other ∈ stage.activations ∧
        other.id ≠ (turn ⟨stage.context, activation⟩).1.activation.id := by
  rw [advance_activations, replace, List.mem_map] at hmem
  obtain ⟨old, hold, rfl⟩ := hmem
  split
  · exact .inl rfl
  · next hne => exact .inr ⟨hold, hne⟩

end Advance

theorem Advances.limit {stage later : Stage}
    (hadvances : Advances stage later) : later.limit = stage.limit := by
  cases hadvances with
  | begins hbegins =>
    cases hbegins with
    | begin => exact advance_limit _ _ _ _
  | resumes => exact advance_limit _ _ _ _
  | cancels => exact advance_limit _ _ _ _
  | prunes => rfl
  | receives => exact advance_limit _ _ _ _
  | writes => rfl

theorem Reaches.limit {stage later : Stage} (hreaches : Reaches stage later) :
    later.limit = stage.limit := by
  induction hreaches with
  | refl => rfl
  | tail _ hadvances ih => rw [hadvances.limit, ih]

/-! ## Events are made of advances -/

theorem start_eq_ok {stage later : Stage} {graph : CompiledGraph}
    {entry : Option String} {id : String} {call? : Option Call}
    (hstart : stage.start graph entry = .ok (later, id, call?)) :
    ∃ nodeId, entryOf graph entry = .ok nodeId ∧
      ((stage.enroll graph nodeId).1.play (stage.enroll graph nodeId).2
        (Turn.continueAt stage.limit nodeId)) = (later, call?) ∧
      (stage.enroll graph nodeId).2.id = id := by
  unfold start at hstart
  split at hstart
  · cases hstart
  · cases hstart
  · next nodeId _ hentry =>
    refine ⟨nodeId, hentry, ?_⟩
    simp only [Except.ok.injEq, Prod.mk.injEq] at hstart
    obtain ⟨hlater, hid, hcall⟩ := hstart
    exact ⟨Prod.ext hlater hcall, hid⟩

theorem start_begins {stage later : Stage} {graph : CompiledGraph}
    {entry : Option String} {id : String} {call? : Option Call}
    (firing? : Option Firing)
    (hstart : stage.start graph entry = .ok (later, id, call?)) :
    Begins stage (later.keep firing? id call?) := by
  obtain ⟨nodeId, hentry, hplay, hid⟩ := start_eq_ok hstart
  have hbegins : Begins stage _ := .begin firing? hentry
  rwa [begin, advance, hplay, hid] at hbegins

theorem fireAll_begins (graph : CompiledGraph) (left : List Entrypoint)
    (started : List String) (stage : Stage) :
    BeginsMany stage (stage.fireAll graph left started).1 := by
  induction left generalizing started stage with
  | nil => exact .refl
  | cons entry left ih =>
    rw [fireAll]
    split
    · exact .refl
    · next hstart => exact .single (start_begins (some ⟨graph, _, left⟩) hstart)
    · next hstart => exact .head (start_begins none hstart) (ih _ _)

/-- After the turn of an activation, its firing may only begin further ones. -/
theorem settle_begins (firing? : Option Firing) (id : String)
    (call? : Option Call) (stage : Stage) :
    BeginsMany (stage.keep firing? id call?)
      (stage.settle firing? id call?).1 := by
  cases call? with
  | some call => exact .refl
  | none =>
    cases firing? with
    | none => exact .refl
    | some firing => exact fireAll_begins _ _ _ _

theorem activate_begins (stage : Stage) (graph : CompiledGraph)
    (entry : Option String) :
    BeginsMany stage (stage.activate graph entry).1 := by
  unfold activate
  split
  · exact .refl
  · next hstart =>
      exact .head (start_begins none hstart) (settle_begins _ _ _ _)

theorem fire_begins (stage : Stage) (graph : CompiledGraph)
    (triggerType : String) :
    BeginsMany stage (stage.fire graph triggerType).1 := by
  unfold fire
  split
  · exact .refl
  · exact fireAll_begins _ _ _ _

theorem resume_begins {stage : Stage} {id : String} {activation : Activation}
    (report : Report) (hregistered : stage.activation? id = some activation) :
    BeginsMany (stage.advance none activation (Turn.resume stage.limit report))
      (stage.resume id report).1 := by
  have hid : activation.id = id :=
    started?_id (started?_of_activation? hregistered)
  simp only [resume, hregistered, advance, hid]
  exact settle_begins _ _ _ _

theorem answer_begins {stage : Stage} {id : String} {task : Task}
    {activation : Activation} (answer : Answer)
    (htask : stage.tasks.find? (·.activationId == id) = some task)
    (hstarted : stage.started? id = some activation) :
    BeginsMany
      ({ stage with tasks := stage.tasks.erase task }.advance
        task.firing? activation
        (Turn.receive stage.limit answer))
      (stage.answer id answer).1 := by
  have hid : activation.id = id := started?_id hstarted
  simp only [Stage.answer, htask, hstarted, advance, hid]
  cases answer with
  | interrupted text =>
    simp only [play, Turn.receive_interrupted_call]
    exact .refl
  | reported report => exact settle_begins _ _ _ _
  | deferred => exact settle_begins _ _ _ _
  | failed kind text => exact settle_begins _ _ _ _

/-- What an event does first, before any new activations begin. -/
inductive Opens (stage : Stage) : Event → Stage → Prop where
  | nothing {event : Event} (hunwritten : ∀ context, event ≠ .write context) :
    Opens stage event stage
  | resumes {id : String} {activation : Activation} (report : Report)
    (hregistered : stage.activation? id = some activation) :
    Opens stage (.resume id report)
      (stage.advance none activation (Turn.resume stage.limit report))
  | cancels {id : String} {activation : Activation}
    (hregistered : stage.activation? id = some activation) :
    Opens stage (.cancel id)
      (stage.advance none activation fun turn => (turn.cancel, none))
  | prunes : Opens stage .prune stage.prune.1
  | receives {id : String} {task : Task} {activation : Activation}
    (answer : Answer)
    (htask : stage.tasks.find? (·.activationId == id) = some task)
    (hstarted : stage.started? id = some activation) :
    Opens stage (.answer id answer)
      ({ stage with tasks := stage.tasks.erase task }.advance
      task.firing? activation (Turn.receive stage.limit answer))
  | writes (context : Context) :
      Opens stage (.write context) { stage with context := context }

theorem Opens.reaches {stage first : Stage} {event : Event}
    (hopens : Opens stage event first) : Reaches stage first := by
  cases hopens with
  | nothing => exact .refl
  | resumes report hregistered => exact .single (.resumes report hregistered)
  | cancels hregistered => exact .single (.cancels hregistered)
  | prunes => exact .single .prunes
  | receives answer htask hstarted =>
    exact .single (.receives answer htask hstarted)
  | writes context => exact .single (.writes context)

/-- An event concerns the activation that it names, if any, and afterwards new
activations may begin. -/
theorem step_opens (stage : Stage) (event : Event) :
    ∃ first, Opens stage event first ∧
      BeginsMany first (stage.step event).1 := by
  cases event with
  | activate graph entry =>
    exact ⟨stage, .nothing (by simp), activate_begins stage graph entry⟩
  | fire graph triggerType =>
    exact ⟨stage, .nothing (by simp), fire_begins stage graph triggerType⟩
  | resume id report =>
    cases hregistered : stage.activation? id with
    | none =>
      simp only [step, resume, hregistered]
      exact ⟨stage, .nothing (by simp), .refl⟩
    | some activation =>
      exact ⟨_, .resumes report hregistered, resume_begins report hregistered⟩
  | cancel id =>
    simp only [step, cancel]
    split
    · exact ⟨stage, .nothing (by simp), .refl⟩
    · next hregistered => exact ⟨_, .cancels hregistered, .refl⟩
  | prune => exact ⟨_, .prunes, .refl⟩
  | answer id answer =>
    cases htask : stage.tasks.find? (·.activationId == id) with
    | none =>
      simp only [step, Stage.answer, htask]
      exact ⟨stage, .nothing (by simp), .refl⟩
    | some task =>
      cases hstarted : stage.started? id with
      | none =>
        simp only [step, Stage.answer, htask, hstarted]
        exact ⟨stage, .nothing (by simp), .refl⟩
      | some activation =>
        exact ⟨_, .receives answer htask hstarted,
          answer_begins answer htask hstarted⟩
  | write context => exact ⟨_, .writes context, .refl⟩

/-- Whatever happens on a stage is made of advances. -/
theorem step_reaches (stage : Stage) (event : Event) :
    Reaches stage (stage.step event).1 := by
  obtain ⟨first, hopens, hbegins⟩ := step_opens stage event
  exact hopens.reaches.trans hbegins.reaches

/-! ## Stages in order -/

end Stage

/-- An answer of the host may come in: the activation has called and is running,
or it has been cancelled since. -/
def Activation.AwaitsAnswer (activation : Activation) : Prop :=
  (activation.state = .running ∨ activation.state = .cancelled) ∧
    ∃ nodeId node, activation.StandsAt nodeId node

theorem Activation.IsCalling.awaitsAnswer {activation : Activation}
    (hcalling : activation.IsCalling) : activation.AwaitsAnswer :=
  ⟨.inl hcalling.1, hcalling.2⟩

theorem Activation.AwaitsAnswer.not_suspended {activation : Activation}
    (hawaits : activation.AwaitsAnswer) : activation.state ≠ .suspended := by
  intro hsuspended
  rcases hawaits.1 with hrunning | hcancelled
  · cases hsuspended.symm.trans hrunning
  · cases hsuspended.symm.trans hcancelled

namespace Stage

/-- Activations have ids of their own, and each task is the only one of an
activation that awaits an answer. -/
structure Orderly (stage : Stage) : Prop where
  issued : ∀ activation ∈ stage.activations,
    stage.supply.Issued "act" activation.id
  distinct : (stage.activations.map Activation.id).Nodup
  single : (stage.tasks.map Task.activationId).Nodup
  awaits : ∀ task ∈ stage.tasks, ∃ activation,
    stage.started? task.activationId = some activation ∧ activation.AwaitsAnswer

theorem Orderly.started?_of_mem {stage : Stage} (horderly : stage.Orderly)
    {activation : Activation} (hmem : activation ∈ stage.activations) :
    stage.started? activation.id = some activation :=
  find?_of_distinct horderly.distinct hmem

/-- The activation of a task is the one that its id finds. -/
theorem Orderly.awaits_of_task {stage : Stage} (horderly : stage.Orderly)
    {activation : Activation}
    (hstarted : stage.started? activation.id = some activation)
    (htask : activation.id ∈ stage.tasks.map Task.activationId) :
    activation.AwaitsAnswer := by
  obtain ⟨task, hmem, hid⟩ := List.mem_map.mp htask
  obtain ⟨found, hfound, hawaits⟩ := horderly.awaits task hmem
  rw [hid, hstarted] at hfound
  cases hfound
  exact hawaits

theorem Orderly.awaits_of_find? {stage : Stage} (horderly : stage.Orderly)
    {id : String} {task : Task} {activation : Activation}
    (hstarted : stage.started? id = some activation)
    (htask : stage.tasks.find? (·.activationId == id) = some task) :
    activation.AwaitsAnswer := by
  have hid := started?_id hstarted
  have htaskId : task.activationId = id := by simpa using List.find?_some htask
  apply horderly.awaits_of_task (hid ▸ hstarted)
  exact List.mem_map.mpr ⟨task, List.mem_of_find?_eq_some htask,
    htaskId.trans hid.symm⟩

/-- A turn keeps the stage in order when a call leaves its activation calling,
and when an activation that awaits an answer makes no further call. -/
theorem Orderly.advance {stage : Stage} (horderly : stage.Orderly)
    (firing? : Option Firing) {activation : Activation}
    {turn : Turn → Turn × Option Call}
    (hstarted : stage.started? activation.id = some activation)
    (hcontinues : activation.Continues
      (turn ⟨stage.context, activation⟩).1.activation)
    (hcall : ∀ call, (turn ⟨stage.context, activation⟩).2 = some call →
      (turn ⟨stage.context, activation⟩).1.activation.IsCalling)
    (htask : activation.id ∈ stage.tasks.map Task.activationId →
      (turn ⟨stage.context, activation⟩).2 = none ∧
        (turn ⟨stage.context, activation⟩).1.activation.AwaitsAnswer) :
    (stage.advance firing? activation turn).Orderly := by
  have hself := started?_advance_self firing? hstarted hcontinues
  constructor
  case issued =>
    intro later hmem
    have hid : later.id ∈ stage.activations.map Activation.id := by
      rw [← ids_advance firing? activation turn]
      exact List.mem_map_of_mem hmem
    obtain ⟨old, hold, heq⟩ := List.mem_map.mp hid
    rw [advance_supply, ← heq]
    exact horderly.issued old hold
  case distinct =>
    rw [ids_advance]
    exact horderly.distinct
  case single =>
    rw [advance_tasks]
    split
    · next hsome =>
      rw [List.map_cons, List.nodup_cons]
      constructor
      · intro hmem
        rw [(htask hmem).1] at hsome
        cases hsome
      · exact horderly.single
    · exact horderly.single
  case awaits =>
    intro task hmem
    by_cases hid : task.activationId = activation.id
    · rw [hid]
      refine ⟨_, hself, ?_⟩
      cases hturn : (turn ⟨stage.context, activation⟩).2 with
      | some call => exact (hcall call hturn).awaitsAnswer
      | none =>
        rw [advance_tasks, hturn] at hmem
        exact (htask (hid ▸ List.mem_map_of_mem hmem)).2
    · obtain ⟨found, hfound, hawaits⟩ :=
        horderly.awaits task (mem_of_mem_advance_tasks _ _ _ _ hid hmem)
      refine ⟨found, ?_, hawaits⟩
      rw [started?_advance_other firing? hid hcontinues]
      exact hfound

theorem initial_orderly (limit : Nat) (supported : String) (context : Context) :
    (initial limit supported context).Orderly where
  issued := by simp [initial]
  distinct := by simp [initial]
  single := by simp [initial]
  awaits := by simp [initial]

/-- The id of a new activation belongs to no other one. -/
theorem Orderly.started?_enroll_id {stage : Stage} (horderly : stage.Orderly)
    (graph : CompiledGraph) (nodeId : String) :
    stage.started? (stage.enroll graph nodeId).2.id = none := by
  rw [started?, List.find?_eq_none]
  intro activation hmem heq
  have hissued := horderly.issued activation hmem
  rw [eq_of_beq heq] at hissued
  exact stage.supply.take_not_issued "act" hissued

theorem started?_enroll (stage : Stage) (graph : CompiledGraph)
    (nodeId id : String) :
    (stage.enroll graph nodeId).1.started? id =
      (stage.started? id).or
        (if (stage.enroll graph nodeId).2.id = id then
          some (stage.enroll graph nodeId).2
        else none) := by
  have hactivations : (stage.enroll graph nodeId).1.activations =
      stage.activations ++ [(stage.enroll graph nodeId).2] := rfl
  rw [started?, hactivations, List.find?_append, started?, List.find?_singleton]
  by_cases hid : (stage.enroll graph nodeId).2.id = id
  · simp [hid]
  · simp [hid]

theorem Orderly.enroll {stage : Stage} (horderly : stage.Orderly)
    (graph : CompiledGraph) (nodeId : String) :
    (stage.enroll graph nodeId).1.Orderly where
  issued := by
    intro activation hmem
    rcases List.mem_append.mp hmem with hold | hnew
    · exact (horderly.issued activation hold).mono (Nat.le_succ _)
    · rw [List.mem_singleton.mp hnew]
      exact stage.supply.take_issued "act"
  distinct := by
    have hnew :=
      List.find?_eq_none.mp (horderly.started?_enroll_id graph nodeId)
    apply nodup_append_singleton horderly.distinct
    intro hused
    obtain ⟨activation, hmem, heq⟩ := List.mem_map.mp hused
    exact hnew activation hmem (beq_iff_eq.mpr heq)
  single := horderly.single
  awaits := by
    intro task hmem
    obtain ⟨activation, hstarted, hawaits⟩ := horderly.awaits task hmem
    refine ⟨activation, ?_, hawaits⟩
    rw [started?_enroll, hstarted, Option.some_or]

theorem Orderly.begin {stage : Stage} (horderly : stage.Orderly)
    (firing? : Option Firing) (graph : CompiledGraph) (nodeId : String) :
    (stage.begin firing? graph nodeId).Orderly := by
  have hfresh := horderly.started?_enroll_id graph nodeId
  refine (horderly.enroll graph nodeId).advance firing? ?_
    (Turn.continues_continueAt _ _ ⟨_, _⟩)
    (fun call hcall => (Turn.continueAt_walks _ _ _).calling hcall) ?_
  · rw [started?_enroll, hfresh, if_pos rfl, Option.none_or]
  · intro htask
    obtain ⟨task, hmem, hid⟩ := List.mem_map.mp htask
    obtain ⟨activation, hstarted, -⟩ := horderly.awaits task hmem
    rw [hid, hfresh] at hstarted
    cases hstarted

theorem Orderly.resumes {stage : Stage} (horderly : stage.Orderly) {id : String}
    {activation : Activation} (report : Report)
    (hregistered : stage.activation? id = some activation) :
    (stage.advance none activation
      (Turn.resume stage.limit report)).Orderly := by
  have hstarted := started?_of_activation? hregistered
  rw [← started?_id hstarted] at hstarted
  refine horderly.advance none hstarted (Turn.continues_resume _ _ ⟨_, _⟩)
    (fun call hcall => (Turn.resume_responds _ _ _).calling hcall) ?_
  intro htask
  have hawaits := horderly.awaits_of_task hstarted htask
  rw [Turn.resume_of_not_suspended _ _ hawaits.not_suspended]
  exact ⟨rfl, hawaits⟩

theorem Orderly.cancels {stage : Stage} (horderly : stage.Orderly) {id : String}
    {activation : Activation}
    (hregistered : stage.activation? id = some activation) :
    (stage.advance none activation fun turn =>
      (turn.cancel, none)).Orderly := by
  have hstarted := started?_of_activation? hregistered
  rw [← started?_id hstarted] at hstarted
  refine horderly.advance none hstarted (Turn.continues_cancel ⟨_, _⟩)
    (by simp) ?_
  intro htask
  have hawaits := horderly.awaits_of_task hstarted htask
  refine ⟨rfl, ?_⟩
  unfold Turn.cancel
  split
  · exact ⟨.inr rfl, hawaits.2⟩
  · exact hawaits

theorem Orderly.erase {stage : Stage} (horderly : stage.Orderly) (task : Task) :
    Orderly { stage with tasks := stage.tasks.erase task } where
  issued := horderly.issued
  distinct := horderly.distinct
  single := horderly.single.sublist ((List.erase_sublist).map _)
  awaits := fun other hmem => horderly.awaits other (List.mem_of_mem_erase hmem)

theorem Orderly.receives {stage : Stage} (horderly : stage.Orderly)
    {id : String} {task : Task} {activation : Activation} (answer : Answer)
    (htask : stage.tasks.find? (·.activationId == id) = some task)
    (hstarted : stage.started? id = some activation) :
    ({ stage with tasks := stage.tasks.erase task }.advance
      task.firing? activation
      (Turn.receive stage.limit answer)).Orderly := by
  have hid := started?_id hstarted
  have htaskId : task.activationId = id := by simpa using List.find?_some htask
  refine (horderly.erase task).advance task.firing? (hid ▸ hstarted)
    (Turn.continues_receive _ _ ⟨_, _⟩)
    (fun call hcall => (Turn.receive_responds _ _ _).calling hcall) ?_
  intro hagain
  have hmem : task ∈ stage.tasks := List.mem_of_find?_eq_some htask
  obtain ⟨other, hother, hotherId⟩ := List.mem_map.mp hagain
  have hsingle :
      task.activationId ∉ (stage.tasks.erase task).map Task.activationId := by
    have hperm := (List.perm_cons_erase hmem).map Task.activationId
    exact (List.nodup_cons.mp (hperm.nodup_iff.mp horderly.single)).1
  exact absurd
    (List.mem_map.mpr ⟨other, hother, by rw [hotherId, hid, htaskId]⟩) hsingle

/-- Every advance keeps a stage in order. -/
theorem Orderly.advances {stage later : Stage} (horderly : stage.Orderly)
    (hadvances : Advances stage later) : later.Orderly := by
  cases hadvances with
  | begins hbegins =>
    cases hbegins with
    | begin firing? => exact horderly.begin firing? _ _
  | resumes report hregistered => exact horderly.resumes report hregistered
  | cancels hregistered => exact horderly.cancels hregistered
  | prunes =>
    exact ⟨horderly.issued, horderly.distinct, horderly.single, horderly.awaits⟩
  | receives answer htask hstarted =>
    exact horderly.receives answer htask hstarted
  | writes =>
    exact ⟨horderly.issued, horderly.distinct, horderly.single, horderly.awaits⟩

theorem Orderly.reaches {stage later : Stage} (horderly : stage.Orderly)
    (hreaches : Reaches stage later) : later.Orderly := by
  induction hreaches with
  | refl => exact horderly
  | tail _ hadvances ih => exact ih.advances hadvances

/-! ## What turns keep on a stage in order -/

end Stage

/-- What an activation is told, as an event. -/
def Turn.Prompt.event (id : String) : Turn.Prompt → Event
  | .resume report => .resume id report
  | .cancel => .cancel id
  | .answer given => .answer id given

/-- An answer comes only to an activation that awaits one. -/
def Turn.IsDue (turn : Turn) : Prompt → Prop
  | .answer _ => turn.activation.AwaitsAnswer
  | _ => True

theorem Turn.IsDue.running {turn : Turn} {answer : Answer}
    (hdue : turn.IsDue (.answer answer))
    (hlive : turn.activation.isLive = true) :
    turn.activation.state = .running := by
  refine hdue.1.resolve_right fun hcancelled => ?_
  rw [Activation.isLive, hcancelled] at hlive
  cases hlive

namespace Stage

/-- What a turn makes of an activation on the stage: of a new one, or of one
that responds to what it is told. -/
inductive Plays (stage : Stage) : Activation → Prop where
  | begins {graph : CompiledGraph} {entry : Option String} {id nodeId : String}
    {context : Context} {later : Turn} {call? : Option Call}
    (hentry : entryOf graph entry = .ok nodeId)
    (hwalks : Turn.Walks stage.limit
      ⟨context, (Activation.start id graph nodeId).withState .running⟩ nodeId
      later call?) : Plays stage later.activation
  | responds {turn later : Turn} {prompt : Turn.Prompt} {call? : Option Call}
    (hmem : turn.activation ∈ stage.activations) (hdue : turn.IsDue prompt)
    (hresponds : Turn.Responds stage.limit turn prompt later call?) :
    Plays stage later.activation

/-- After an advance, an activation is as it was before, or a turn has made it
so. -/
theorem Orderly.plays {stage later : Stage} (horderly : stage.Orderly)
    (hadvances : Advances stage later) {other : Activation}
    (hmem : other ∈ later.activations) :
    other ∈ stage.activations ∨ stage.Plays other := by
  cases hadvances with
  | begins hbegins =>
    cases hbegins with
    | @begin graph entry nodeId firing? hentry =>
      have hwalks := Turn.continueAt_walks stage.limit nodeId
        ⟨(stage.enroll graph nodeId).1.context, (stage.enroll graph nodeId).2⟩
      rcases mem_advance _ _ _ _ hmem with rfl | ⟨hold, hne⟩
      · exact .inr (.begins hentry hwalks)
      · rcases List.mem_append.mp hold with hold | hnew
        · exact .inl hold
        · rw [(Turn.continues_continueAt _ _ _).id,
            List.mem_singleton.mp hnew] at hne
          exact absurd rfl hne
  | @resumes id activation report hregistered =>
    have hresponds :=
      Turn.resume_responds stage.limit ⟨stage.context, activation⟩ report
    rcases mem_advance _ _ _ _ hmem with rfl | ⟨hold, -⟩
    · exact .inr (.responds (mem_of_activation? hregistered)
        (by trivial) hresponds)
    · exact .inl hold
  | @cancels id activation hregistered =>
    have hresponds :=
      Turn.cancel_responds stage.limit ⟨stage.context, activation⟩
    rcases mem_advance _ _ _ _ hmem with rfl | ⟨hold, -⟩
    · exact .inr (.responds (mem_of_activation? hregistered)
        (by trivial) hresponds)
    · exact .inl hold
  | prunes => exact .inl hmem
  | @receives id task activation answer htask hstarted =>
    have hresponds :=
      Turn.receive_responds stage.limit ⟨stage.context, activation⟩ answer
    have hdue : Turn.IsDue ⟨stage.context, activation⟩ (.answer answer) :=
      horderly.awaits_of_find? hstarted htask
    rcases mem_advance _ _ _ _ hmem with rfl | ⟨hold, -⟩
    · exact .inr (@Plays.responds _ ⟨_, activation⟩ _ _ _
        (List.mem_of_find?_eq_some hstarted) hdue hresponds)
    · exact .inl hold
  | writes => exact .inl hmem

/-- The property holds of an activation after its first turn, and every response
that is due keeps it. -/
structure KeptByTurns (limit : Nat) (property : Activation → Prop) : Prop where
  begins : ∀ {graph entry id nodeId context later call?},
    entryOf graph entry = .ok nodeId →
    Turn.Walks limit ⟨context,
      (Activation.start id graph nodeId).withState .running⟩ nodeId
      later call? →
    property later.activation
  responds : ∀ {turn later prompt call?}, turn.IsDue prompt →
    Turn.Responds limit turn prompt later call? → property turn.activation →
    property later.activation

/-- What turns keep holds of all activations as long as it holds of them at
first. -/
theorem Orderly.kept_advances {stage later : Stage} (horderly : stage.Orderly)
    {property : Activation → Prop} (hkept : KeptByTurns stage.limit property)
    (hall : ∀ activation ∈ stage.activations, property activation)
    (hadvances : Advances stage later) :
    ∀ activation ∈ later.activations, property activation := by
  intro activation hmem
  rcases horderly.plays hadvances hmem with hold | hplays
  · exact hall activation hold
  · cases hplays with
    | begins hentry hwalks => exact hkept.begins hentry hwalks
    | responds hold hdue hresponds =>
      exact hkept.responds hdue hresponds (hall _ hold)

theorem Orderly.kept_reaches {stage later : Stage} (horderly : stage.Orderly)
    {property : Activation → Prop} (hkept : KeptByTurns stage.limit property)
    (hall : ∀ activation ∈ stage.activations, property activation)
    (hreaches : Reaches stage later) :
    ∀ activation ∈ later.activations, property activation := by
  induction hreaches with
  | refl => exact hall
  | tail hearlier hadvances ih =>
    rw [← Reaches.limit hearlier] at hkept
    exact (horderly.reaches hearlier).kept_advances hkept ih hadvances

/-! ## Sessions -/

/-- The stage after some events, and the responses to them. -/
def session : List Event → Stage → Stage × List Response
  | [], stage => (stage, [])
  | event :: events, stage =>
    let (next, response) := stage.step event
    let (last, responses) := session events next
    (last, response :: responses)

@[simp]
theorem session_nil (stage : Stage) : session [] stage = (stage, []) := rfl

@[simp]
theorem session_cons (event : Event) (events : List Event) (stage : Stage) :
    session (event :: events) stage =
      ((session events (stage.step event).1).1,
        (stage.step event).2 :: (session events (stage.step event).1).2) := rfl

theorem session_append (first second : List Event) (stage : Stage) :
    session (first ++ second) stage =
      ((session second (session first stage).1).1,
        (session first stage).2 ++
          (session second (session first stage).1).2) := by
  induction first generalizing stage with
  | nil => rfl
  | cons event first ih => simp [ih]

theorem session_reaches (events : List Event) (stage : Stage) :
    Reaches stage (session events stage).1 := by
  induction events generalizing stage with
  | nil => exact .refl
  | cons event events ih => exact (step_reaches stage event).trans (ih _)

/-- The stage comes from one on which nothing had happened. -/
def Reachable (stage : Stage) : Prop :=
  ∃ limit supported context events,
    (session events (initial limit supported context)).1 = stage

/-- What turns keep holds of every activation on a stage that a session
reaches. -/
theorem Reachable.forall_activations {stage : Stage}
    (hreachable : stage.Reachable) {property : Activation → Prop}
    (hkept : KeptByTurns stage.limit property) :
    ∀ activation ∈ stage.activations, property activation := by
  obtain ⟨limit, supported, context, events, rfl⟩ := hreachable
  have hreaches := session_reaches events (initial limit supported context)
  rw [hreaches.limit] at hkept
  exact (initial_orderly limit supported context).kept_reaches hkept
    (by simp [initial]) hreaches

theorem Reachable.step {stage : Stage} (hreachable : stage.Reachable)
    (event : Event) : (stage.step event).1.Reachable := by
  obtain ⟨limit, supported, context, events, rfl⟩ := hreachable
  refine ⟨limit, supported, context, events ++ [event], ?_⟩
  rw [session_append]
  rfl

theorem Reachable.orderly {stage : Stage}
    (hreachable : stage.Reachable) : stage.Orderly := by
  obtain ⟨limit, supported, context, events, rfl⟩ := hreachable
  exact (initial_orderly limit supported context).reaches
    (session_reaches events _)

end Stage

end StoryGraph
