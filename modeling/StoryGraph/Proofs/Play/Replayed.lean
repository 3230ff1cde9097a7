import StoryGraph.Proofs.Play.Ended
import StoryGraph.Proofs.Play.Outline

/-!
# Sessions on graphs of one outline

A session stays the same when other graphs are put in the place of those that it
plays, as long as their nodes lead on alike, its activations start at the same
nodes, and the nodes that it visits hold the same data.  Graphs of the same
outline let activations start at the same nodes.
-/

namespace StoryGraph

/-! ## Other graphs on a stage -/

section MapGraph

variable (map : CompiledGraph → CompiledGraph)

def Firing.mapGraph (firing : Firing) : Firing :=
  { firing with graph := map firing.graph }

def Task.mapGraph (task : Task) : Task :=
  { task with firing? := task.firing?.map (Firing.mapGraph map) }

def Stage.mapGraph (stage : Stage) : Stage :=
  { stage with
    activations := stage.activations.map (Activation.mapGraph map)
    tasks := stage.tasks.map (Task.mapGraph map) }

def Event.mapGraph : Event → Event
  | .activate graph entry => .activate (map graph) entry
  | .fire graph triggerType => .fire (map graph) triggerType
  | event => event

end MapGraph

/-! ## Starting alike -/

section EntersAlike

open Stage

variable (map : CompiledGraph → CompiledGraph)

/-- What is left of the firing starts at the same nodes of both graphs. -/
def Firing.EntersAlike (firing : Firing) : Prop :=
  ∀ entry ∈ firing.left,
    entryOf (map firing.graph) (some entry.nodeId) =
      entryOf firing.graph (some entry.nodeId)

/-- The event starts activations at the same nodes of both graphs, if it starts
any. -/
def Event.EntersAlike : Event → Prop
  | .activate graph entry => entryOf (map graph) entry = entryOf graph entry
  | .fire graph triggerType =>
    (map graph).entrypointsFor triggerType = graph.entrypointsFor triggerType ∧
      Firing.EntersAlike map ⟨graph, [], graph.entrypointsFor triggerType⟩
  | _ => True

/-- The firings that wait on the stage go on at the same nodes of both
graphs. -/
def Stage.EntersAlike (stage : Stage) : Prop :=
  ∀ task ∈ stage.tasks, ∀ firing ∈ task.firing?, firing.EntersAlike map

end EntersAlike

namespace Stage

open Activation

/-! ## Nodes that have been met -/

variable {map : CompiledGraph → CompiledGraph}

/-- The nodes visited so far on the stage hold the same data in both graphs. -/
def MeetsSame (map : CompiledGraph → CompiledGraph) (stage : Stage) : Prop :=
  ∀ activation ∈ stage.activations, activation.MeetsSame map

theorem MeetsSame.of_reaches {stage later : Stage} (hsame : later.MeetsSame map)
    (horderly : stage.Orderly)
    (hreaches : Reaches stage later) : stage.MeetsSame map := by
  intro activation hmem
  obtain ⟨after, hafter, hgrows⟩ :=
    horderly.reaches_grows hreaches (horderly.started?_of_mem hmem)
  exact (hsame after (List.mem_of_find?_eq_some hafter)).of_grows hgrows

/-! ## Stages with other graphs -/

theorem started?_mapGraph (stage : Stage) (id : String) :
    (stage.mapGraph map).started? id =
      (stage.started? id).map (Activation.mapGraph map) :=
  List.find?_map ..

theorem registered_mapGraph (stage : Stage) :
    (stage.mapGraph map).registered =
      stage.registered.map (Activation.mapGraph map) :=
  List.filter_map ..

theorem activation?_mapGraph (stage : Stage) (id : String) :
    (stage.mapGraph map).activation? id =
      (stage.activation? id).map (Activation.mapGraph map) := by
  rw [activation?, registered_mapGraph, List.find?_map]
  rfl

theorem replace_mapGraph (stage : Stage) (activation : Activation) :
    (stage.mapGraph map).replace (activation.mapGraph map) =
      (stage.replace activation).mapGraph map := by
  simp only [replace, mapGraph, List.map_map]
  congr 1
  apply List.map_congr_left
  intro old _
  by_cases hid : old.id = activation.id
  · simp [hid, Activation.mapGraph]
  · simp [hid, Activation.mapGraph]

theorem play_mapGraph {stage : Stage} {activation : Activation}
    {turn : Turn → Turn × Option Call}
    (hturn : turn (Turn.mapGraph map ⟨stage.context, activation⟩) =
      ((turn ⟨stage.context, activation⟩).1.mapGraph map,
        (turn ⟨stage.context, activation⟩).2)) :
    (stage.mapGraph map).play (activation.mapGraph map) turn =
      ((stage.play activation turn).1.mapGraph map,
        (stage.play activation turn).2) := by
  have hsame :
      (⟨(stage.mapGraph map).context, activation.mapGraph map⟩ : Turn) =
        Turn.mapGraph map ⟨stage.context, activation⟩ :=
    rfl
  have hreplace := @replace_mapGraph map
    { stage with context := (turn ⟨stage.context, activation⟩).1.context }
    (turn ⟨stage.context, activation⟩).1.activation
  simp only [play, hsame, hturn]
  exact Prod.ext hreplace rfl

/-- The turn of an activation on the stage, if the nodes on its way hold the
same data. -/
theorem play_mapGraph_of_meetsSame {stage : Stage} {activation : Activation}
    {turn : Turn → Turn × Option Call} (hmem : activation ∈ stage.activations)
    (hgrows : activation.Grows (turn ⟨stage.context, activation⟩).1.activation)
    (hturn : (turn ⟨stage.context, activation⟩).1.activation.MeetsSame map →
      turn (Turn.mapGraph map ⟨stage.context, activation⟩) =
        ((turn ⟨stage.context, activation⟩).1.mapGraph map,
          (turn ⟨stage.context, activation⟩).2))
    (hsame : (stage.play activation turn).1.MeetsSame map) :
    (stage.mapGraph map).play (activation.mapGraph map) turn =
      ((stage.play activation turn).1.mapGraph map,
        (stage.play activation turn).2) := by
  apply play_mapGraph
  apply hturn
  apply hsame
  exact List.mem_map.mpr ⟨activation, hmem, if_pos hgrows.id.symm⟩

theorem enroll_mapGraph (stage : Stage) (graph : CompiledGraph)
    (nodeId : String) :
    (stage.mapGraph map).enroll (map graph) nodeId =
      ((stage.enroll graph nodeId).1.mapGraph map,
        (stage.enroll graph nodeId).2.mapGraph map) := by
  simp only [enroll, mapGraph, List.map_append]
  rfl

/-! ## Firings that wait -/

theorem tasks_start {stage later : Stage} {graph : CompiledGraph}
    {entry : Option String} {id : String} {call? : Option Call}
    (hstart : stage.start graph entry = .ok (later, id, call?)) :
    later.tasks = stage.tasks := by
  obtain ⟨nodeId, -, hplay, -⟩ := start_eq_ok hstart
  exact congrArg (fun played => played.1.tasks) hplay.symm

namespace EntersAlike

theorem keep {stage : Stage} (halike : stage.EntersAlike map)
    {firing? : Option Firing}
    (hfiring : ∀ firing ∈ firing?, firing.EntersAlike map) (id : String)
    (call? : Option Call) : (stage.keep firing? id call?).EntersAlike map := by
  cases call? with
  | none => exact halike
  | some call =>
    intro task hmem
    rcases List.mem_cons.mp hmem with rfl | hold
    · exact hfiring
    · exact halike task hold

theorem fireAll {graph : CompiledGraph} {left : List Entrypoint}
    {started : List String} {stage : Stage} (halike : stage.EntersAlike map)
    (hfiring : Firing.EntersAlike map ⟨graph, started, left⟩) :
    (stage.fireAll graph left started).1.EntersAlike map := by
  induction left generalizing started stage with
  | nil => exact halike
  | cons entry left ih =>
    have hleft : ∀ started, Firing.EntersAlike map ⟨graph, started, left⟩ :=
      fun _ other hmem => hfiring other (List.mem_cons_of_mem _ hmem)
    rw [Stage.fireAll]
    split
    · exact halike
    · next later id call hstart =>
      have hlater : later.EntersAlike map := by
        rwa [Stage.EntersAlike, tasks_start hstart]
      exact hlater.keep (by simpa using hleft (started ++ [id])) id (some call)
    · next later id hstart =>
      have hlater : later.EntersAlike map := by
        rwa [Stage.EntersAlike, tasks_start hstart]
      exact ih hlater (hleft _)

theorem settle {stage : Stage} (halike : stage.EntersAlike map)
    {firing? : Option Firing}
    (hfiring : ∀ firing ∈ firing?, firing.EntersAlike map) (id : String)
    (call? : Option Call) :
    (stage.settle firing? id call?).1.EntersAlike map := by
  cases call? with
  | some call => exact halike.keep hfiring id (some call)
  | none =>
    cases firing? with
    | none => exact halike
    | some firing => exact halike.fireAll (hfiring firing rfl)

/-- The firing that goes on after the answer to a task starts alike. -/
theorem task {stage : Stage} (halike : stage.EntersAlike map) {id : String}
    {task : Task}
    (htask : stage.tasks.find? (·.activationId == id) = some task) :
    ∀ firing ∈ task.firing?, firing.EntersAlike map :=
  halike task (List.mem_of_find?_eq_some htask)

/-- Events that start alike leave only firings that go on alike. -/
theorem step {stage : Stage} (halike : stage.EntersAlike map) {event : Event}
    (hevent : event.EntersAlike map) :
    (stage.step event).1.EntersAlike map := by
  cases event with
  | activate graph entry =>
    rw [Stage.step, Stage.activate]
    split
    · exact halike
    · next later id call? hstart =>
      have hlater : later.EntersAlike map := by
        rwa [Stage.EntersAlike, tasks_start hstart]
      exact hlater.settle (by simp) id call?
  | fire graph triggerType =>
    rw [Stage.step, Stage.fire]
    split
    · exact halike
    · exact halike.fireAll hevent.2
  | resume id report =>
    rw [Stage.step, Stage.resume]
    split
    · exact halike
    · next activation _ =>
      have hplayed :
          (stage.play activation (Turn.resume stage.limit report)).1.EntersAlike
            map :=
        halike
      exact hplayed.settle (by simp) id _
  | cancel id =>
    rw [Stage.step, Stage.cancel]
    split <;> exact halike
  | prune => exact halike
  | answer id answer =>
    rw [Stage.step, Stage.answer]
    split
    · next task activation htask _ =>
      have hplayed :
          ({ stage with tasks := stage.tasks.erase task }.play activation
            (Turn.receive stage.limit answer)).1.EntersAlike map :=
        fun other hmem => halike other (List.mem_of_mem_erase hmem)
      cases answer with
      | interrupted text => exact hplayed
      | _ => exact hplayed.settle (halike.task htask) id _
    · exact halike
  | write context => exact halike

end EntersAlike

/-! ## Starts and firings -/

variable (hcourse : ∀ graph, (map graph).SameCourse graph)

include hcourse

theorem checkVersion_mapGraph (stage : Stage) (graph : CompiledGraph) :
    (stage.mapGraph map).checkVersion (map graph) =
      stage.checkVersion graph := by
  have hsupported : (stage.mapGraph map).supported = stage.supported := rfl
  rw [checkVersion, checkVersion, (hcourse graph).version, hsupported]

theorem start_mapGraph_error {stage : Stage} {graph : CompiledGraph}
    {entry : Option String}
    (halike : entryOf (map graph) entry = entryOf graph entry)
    {error : StartError} (hstart : stage.start graph entry = .error error) :
    (stage.mapGraph map).start (map graph) entry = .error error := by
  rw [start] at hstart
  rw [start, checkVersion_mapGraph hcourse, halike]
  split at hstart
  · exact hstart
  · exact hstart
  · cases hstart

theorem start_mapGraph_ok {stage later : Stage} {graph : CompiledGraph}
    {entry : Option String}
    (halike : entryOf (map graph) entry = entryOf graph entry) {id : String}
    {call? : Option Call}
    (hstart : stage.start graph entry = .ok (later, id, call?))
    (hsame : later.MeetsSame map) :
    (stage.mapGraph map).start (map graph) entry =
      .ok (later.mapGraph map, id, call?) := by
  obtain ⟨nodeId, hentry, hplay, rfl⟩ := start_eq_ok hstart
  have hlater :
      ((stage.enroll graph nodeId).1.play (stage.enroll graph nodeId).2
        (Turn.continueAt stage.limit nodeId)).1 = later :=
    congrArg Prod.fst hplay
  have hversion : stage.checkVersion graph = .ok () := by
    rw [start] at hstart
    split at hstart
    · cases hstart
    · cases hstart
    · next hversion _ => exact hversion
  have hmem : (stage.enroll graph nodeId).2 ∈
      (stage.enroll graph nodeId).1.activations :=
    List.mem_append_right _ (List.mem_singleton_self _)
  have hplayed := play_mapGraph_of_meetsSame hmem
    (Turn.grows_continueAt stage.limit nodeId ⟨_, _⟩)
    (Turn.continueAt_mapGraph hcourse stage.limit nodeId ⟨_, _⟩)
      (hlater ▸ hsame)
  rw [hplay] at hplayed
  rw [start, checkVersion_mapGraph hcourse, halike, hversion, hentry]
  simp only [enroll_mapGraph]
  have hlimit :
      ((stage.enroll graph nodeId).1.mapGraph map).limit = stage.limit :=
    rfl
  rw [hlimit, hplayed]
  rfl

theorem fireAll_mapGraph {graph : CompiledGraph} {left : List Entrypoint}
    {started : List String}
    (halike : Firing.EntersAlike map ⟨graph, started, left⟩) {stage : Stage}
    (horderly : stage.Orderly)
    (hsame : (stage.fireAll graph left started).1.MeetsSame map) :
    (stage.mapGraph map).fireAll (map graph) left started =
      ((stage.fireAll graph left started).1.mapGraph map,
        (stage.fireAll graph left started).2) := by
  induction left generalizing started stage with
  | nil => rfl
  | cons entry left ih =>
    have hentry := halike entry List.mem_cons_self
    have hleft : ∀ started, Firing.EntersAlike map ⟨graph, started, left⟩ :=
      fun _ other hmem => halike other (List.mem_cons_of_mem _ hmem)
    rw [fireAll] at hsame ⊢
    cases hstart : stage.start graph (some entry.nodeId) with
    | error error =>
      rw [start_mapGraph_error hcourse hentry hstart, fireAll, hstart]
    | ok result =>
      obtain ⟨later, id, call?⟩ := result
      rw [hstart] at hsame
      cases call? with
      | some call =>
        rw [start_mapGraph_ok hcourse hentry hstart hsame, fireAll, hstart]
        rfl
      | none =>
        -- What the firing does afterwards takes no visit back.
        have hbegins : Begins stage later := start_begins none hstart
        have hlater := horderly.advances (.begins hbegins)
        have hbefore :=
          hsame.of_reaches hlater (fireAll_begins graph left _ later).reaches
        rw [start_mapGraph_ok hcourse hentry hstart hbefore, fireAll, hstart]
        exact ih (hleft _) hlater hsame

omit hcourse in
theorem MeetsSame.of_settle {firing? : Option Firing} {id : String}
    {call? : Option Call} {stage : Stage}
    (hsame : (stage.settle firing? id call?).1.MeetsSame map)
    (horderly : (stage.keep firing? id call?).Orderly) :
    stage.MeetsSame map := by
  have hkept :=
    hsame.of_reaches horderly (settle_begins firing? id call? stage).reaches
  cases call? <;> exact hkept

theorem settle_mapGraph {firing? : Option Firing}
    (halike : ∀ firing ∈ firing?, firing.EntersAlike map) {id : String}
    {call? : Option Call} {stage : Stage}
    (horderly : (stage.keep firing? id call?).Orderly)
    (hsame : (stage.settle firing? id call?).1.MeetsSame map) :
    (stage.mapGraph map).settle (firing?.map (Firing.mapGraph map)) id call? =
      ((stage.settle firing? id call?).1.mapGraph map,
        (stage.settle firing? id call?).2) := by
  cases call? with
  | some call => rfl
  | none =>
    cases firing? with
    | none => rfl
    | some firing =>
      exact fireAll_mapGraph hcourse (halike firing rfl) horderly hsame

/-! ## Events -/

theorem activate_mapGraph {stage : Stage} {graph : CompiledGraph}
    {entry : Option String}
    (halike : entryOf (map graph) entry = entryOf graph entry)
    (hsame : (stage.activate graph entry).1.MeetsSame map) :
    (stage.mapGraph map).activate (map graph) entry =
      ((stage.activate graph entry).1.mapGraph map,
        (stage.activate graph entry).2) := by
  rw [activate] at hsame ⊢
  cases hstart : stage.start graph entry with
  | error error =>
    rw [start_mapGraph_error hcourse halike hstart, activate, hstart]
  | ok result =>
    obtain ⟨later, id, call?⟩ := result
    rw [hstart] at hsame
    have hbefore : later.MeetsSame map := by cases call? <;> exact hsame
    rw [start_mapGraph_ok hcourse halike hstart hbefore, activate, hstart]
    cases call? <;> rfl

theorem fire_mapGraph {stage : Stage} (horderly : stage.Orderly)
    {graph : CompiledGraph} {triggerType : String}
    (halike : (Event.fire graph triggerType).EntersAlike map)
    (hsame : (stage.fire graph triggerType).1.MeetsSame map) :
    (stage.mapGraph map).fire (map graph) triggerType =
      ((stage.fire graph triggerType).1.mapGraph map,
        (stage.fire graph triggerType).2) := by
  obtain ⟨hentrypoints, hfiring⟩ := halike
  rw [fire, checkVersion_mapGraph hcourse, hentrypoints, fire]
  rw [fire] at hsame
  cases hversion : stage.checkVersion graph with
  | error error => rfl
  | ok done =>
    rw [hversion] at hsame
    exact fireAll_mapGraph hcourse hfiring horderly hsame

theorem resume_mapGraph {stage : Stage} (horderly : stage.Orderly) (id : String)
    (report : Report) (hsame : (stage.resume id report).1.MeetsSame map) :
    (stage.mapGraph map).resume id report =
      ((stage.resume id report).1.mapGraph map,
        (stage.resume id report).2) := by
  have hlimit : (stage.mapGraph map).limit = stage.limit := rfl
  cases hregistered : stage.activation? id with
  | none =>
    simp only [resume, activation?_mapGraph, hregistered, Option.map_none]
  | some activation =>
    have hkept := horderly.resumes report hregistered
    rw [advance, started?_id (started?_of_activation? hregistered)] at hkept
    simp only [resume, hregistered] at hsame
    have hplay := play_mapGraph_of_meetsSame (mem_of_activation? hregistered)
      (Turn.resume_responds stage.limit ⟨_, _⟩ report).grows
      (Turn.resume_mapGraph hcourse stage.limit report ⟨_, _⟩)
        (hsame.of_settle hkept)
    have hsettle := settle_mapGraph hcourse (by simp) hkept hsame
    simp only [resume, activation?_mapGraph, hregistered, Option.map_some,
      hlimit, hplay]
    exact hsettle

omit hcourse in
theorem cancel_mapGraph (stage : Stage) (id : String) :
    (stage.mapGraph map).cancel id =
      ((stage.cancel id).1.mapGraph map, (stage.cancel id).2) := by
  cases hregistered : stage.activation? id with
  | none =>
    simp only [cancel, activation?_mapGraph, hregistered, Option.map_none]
  | some activation =>
    have hplay : (stage.mapGraph map).play (activation.mapGraph map)
        (fun turn => (turn.cancel, none)) = _ :=
      play_mapGraph
        (Prod.ext (Turn.cancel_mapGraph ⟨stage.context, activation⟩) rfl)
    simp only [cancel, activation?_mapGraph, hregistered, Option.map_some,
      hplay]

omit hcourse in
theorem prune_mapGraph (stage : Stage) :
    (stage.mapGraph map).prune =
      (stage.prune.1.mapGraph map, stage.prune.2) := by
  have hended :
      (((stage.mapGraph map).registered.filter fun activation =>
        !activation.isLive).map Activation.id) =
          (stage.registered.filter fun activation => !activation.isLive).map
            Activation.id := by
    rw [registered_mapGraph, List.filter_map, List.map_map]
    rfl
  rw [prune, hended]
  rfl

omit hcourse in
/-- The place of a task among others is found by its activation. -/
theorem erase_map_of_find? {tasks : List Task} {id : String} {task : Task}
    (f : Task → Task) (hid : ∀ task, (f task).activationId = task.activationId)
    (hfound : tasks.find? (·.activationId == id) = some task) :
    (tasks.map f).erase (f task) = (tasks.erase task).map f := by
  induction tasks with
  | nil => rfl
  | cons first rest ih =>
    have htask : task.activationId = id := by simpa using List.find?_some hfound
    rw [List.find?_cons] at hfound
    split at hfound
    · cases hfound
      rw [List.map_cons, List.erase_cons_head, List.erase_cons_head]
    · next hother =>
      have hother : first.activationId ≠ task.activationId := by
        simpa [htask] using hother
      have hne : first ≠ task := fun heq => hother (heq ▸ rfl)
      -- Two tasks may become the same one, but not if they belong to different
      -- activations.
      have hmapped : f first ≠ f task := by
        intro heq
        rw [← hid, ← hid task, heq] at hother
        exact hother rfl
      rw [List.map_cons, List.erase_cons_tail (by simpa using hmapped),
        List.erase_cons_tail (by simpa using hne), List.map_cons, ih hfound]

theorem answer_mapGraph {stage : Stage} (horderly : stage.Orderly)
    (halike : stage.EntersAlike map) (id : String) (answer : Answer)
    (hsame : (stage.answer id answer).1.MeetsSame map) :
    (stage.mapGraph map).answer id answer =
      ((stage.answer id answer).1.mapGraph map,
        (stage.answer id answer).2) := by
  have htasks : (stage.mapGraph map).tasks.find? (·.activationId == id) =
      (stage.tasks.find? (·.activationId == id)).map (Task.mapGraph map) :=
    List.find?_map ..
  cases htask : stage.tasks.find? (·.activationId == id) with
  | none => simp only [Stage.answer, htasks, htask, Option.map_none]
  | some task =>
    cases hstarted : stage.started? id with
    | none =>
      simp only [Stage.answer, htasks, htask, Option.map_some,
        started?_mapGraph, hstarted, Option.map_none]
    | some activation =>
      have hkept := horderly.receives answer htask hstarted
      rw [advance, started?_id hstarted] at hkept
      have herased : { stage.mapGraph map with
          tasks := (stage.mapGraph map).tasks.erase (task.mapGraph map) } =
            mapGraph map { stage with tasks := stage.tasks.erase task } :=
        congrArg (fun tasks => { stage.mapGraph map with tasks := tasks })
          (erase_map_of_find? (Task.mapGraph map) (fun _ => rfl) htask)
      simp only [Stage.answer, htask, hstarted] at hsame
      have hbefore :
          ({ stage with tasks := stage.tasks.erase task }.play activation
            (Turn.receive stage.limit answer)).1.MeetsSame map := by
        cases answer with
        | interrupted text => exact hsame
        | reported report => exact hsame.of_settle hkept
        | deferred => exact hsame.of_settle hkept
        | failed kind text => exact hsame.of_settle hkept
      have hplay :=
        @play_mapGraph_of_meetsSame map
          { stage with tasks := stage.tasks.erase task }
          activation (Turn.receive stage.limit answer)
            (List.mem_of_find?_eq_some hstarted)
          (Turn.receive_responds stage.limit ⟨_, _⟩ answer).grows
          (Turn.receive_mapGraph hcourse stage.limit answer ⟨_, _⟩) hbefore
      rw [← herased] at hplay
      change play _ _ (Turn.receive (stage.mapGraph map).limit answer) =
        _ at hplay
      simp only [Stage.answer, htasks, htask, started?_mapGraph, hstarted,
        Option.map_some, hplay]
      cases answer with
      | interrupted text => rfl
      | reported report =>
        exact settle_mapGraph hcourse (halike.task htask) hkept hsame
      | deferred =>
        exact settle_mapGraph hcourse (halike.task htask) hkept hsame
      | failed kind text =>
        exact settle_mapGraph hcourse (halike.task htask) hkept hsame

theorem step_mapGraph {stage : Stage} (horderly : stage.Orderly)
    (halike : stage.EntersAlike map) {event : Event}
    (hevent : event.EntersAlike map)
    (hsame : (stage.step event).1.MeetsSame map) :
    (stage.mapGraph map).step (event.mapGraph map) =
      ((stage.step event).1.mapGraph map, (stage.step event).2) := by
  cases event with
  | activate graph entry => exact activate_mapGraph hcourse hevent hsame
  | fire graph triggerType => exact fire_mapGraph hcourse horderly hevent hsame
  | resume id report => exact resume_mapGraph hcourse horderly id report hsame
  | cancel id => exact cancel_mapGraph stage id
  | prune => exact prune_mapGraph stage
  | answer id answer =>
    exact answer_mapGraph hcourse horderly halike id answer hsame
  | write context => rfl

/-- A session stays the same with other graphs whose nodes lead on alike, as
long as its activations start at the same nodes and the nodes that it visits
hold the same data. -/
theorem session_mapGraph_of_entersAlike {events : List Event} {stage : Stage}
    (horderly : stage.Orderly) (halike : stage.EntersAlike map)
    (hevents : ∀ event ∈ events, event.EntersAlike map)
    (hsame : (session events stage).1.MeetsSame map) :
    session (events.map (Event.mapGraph map)) (stage.mapGraph map) =
      ((session events stage).1.mapGraph map, (session events stage).2) := by
  induction events generalizing stage with
  | nil => rfl
  | cons event events ih =>
    obtain ⟨hevent, hothers⟩ := List.forall_mem_cons.mp hevents
    have hstep := horderly.step event
    have hbefore := hsame.of_reaches hstep (session_reaches events _)
    rw [List.map_cons, session_cons,
      step_mapGraph hcourse horderly halike hevent hbefore]
    simp only [ih hstep (halike.step hevent) hothers hsame, session_cons]

omit hcourse

theorem initial_entersAlike (limit : Nat) (supported : String)
    (context : Context) :
    (initial limit supported context).EntersAlike map := by
  simp [EntersAlike, initial]

/-! ## Graphs of one outline -/

section SameOutline

variable (houtline : ∀ graph, (map graph).SameOutline graph)

include houtline

theorem entryOf_mapGraph (graph : CompiledGraph) (entry : Option String) :
    entryOf (map graph) entry = entryOf graph entry := by
  have hentrypoint (nodeId : String) :
      (map graph).entrypoint? nodeId = graph.entrypoint? nodeId := by
    rw [CompiledGraph.entrypoint?, CompiledGraph.entrypoint?,
      (houtline graph).entrypoints]
  simp only [entryOf, (houtline graph).startNode, (houtline graph).id,
    hentrypoint]

theorem entersAlike_of_sameOutline (event : Event) : event.EntersAlike map := by
  cases event with
  | activate graph entry => exact entryOf_mapGraph houtline graph entry
  | fire graph triggerType =>
    refine ⟨?_, fun entry _ =>
      entryOf_mapGraph houtline graph (some entry.nodeId)⟩
    rw [CompiledGraph.entrypointsFor, CompiledGraph.entrypointsFor,
      (houtline graph).entrypoints]
  | _ => trivial

/-- A session stays the same with other graphs of the same outline, as long as
the nodes that it visits hold the same data. -/
theorem session_mapGraph {events : List Event} {stage : Stage}
    (horderly : stage.Orderly)
    (hsame : (session events stage).1.MeetsSame map) :
    session (events.map (Event.mapGraph map)) (stage.mapGraph map) =
      ((session events stage).1.mapGraph map, (session events stage).2) :=
  session_mapGraph_of_entersAlike (fun graph => (houtline graph).toSameCourse)
    horderly
    (fun _ _ firing _ entry _ =>
      entryOf_mapGraph houtline firing.graph (some entry.nodeId))
    (fun event _ => entersAlike_of_sameOutline houtline event) hsame

end SameOutline

end Stage

end StoryGraph
