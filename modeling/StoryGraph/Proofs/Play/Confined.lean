import StoryGraph.Proofs.Play.Called
import StoryGraph.Proofs.Play.Chronicle
import StoryGraph.Proofs.Play.Route

/-!
# Failures stay inside their activation

The host starts an activation, or resumes one, and answers its calls until it
makes no more.  However the activation fares, this ends with the activation as
the result, and touches no other one.  If the activation aborts, the variables
and flags are as they were before the step that failed.
-/

namespace StoryGraph

namespace Stage

open Activation Deed

/-! ## Progress of one activation -/

/-- The stage without a task that is over. -/
abbrev dismiss (stage : Stage) (task : Task) : Stage :=
  { stage with tasks := stage.tasks.erase task }

/-- Between two stages nothing has happened but some visits of one
activation. -/
structure Progress (stage later : Stage) (id : String) (graph : CompiledGraph)
    (fresh : List String) : Prop where
  accounts : ∃ made, stage.Accounts (visits id graph fresh) made later
  others : ∀ other ≠ id, later.started? other = stage.started? other
  forgotten : later.forgotten = stage.forgotten

namespace Progress

variable {stage middle later : Stage} {id : String} {graph : CompiledGraph}
variable {fresh more : List String}

theorem refl (stage : Stage) (id : String) (graph : CompiledGraph) :
    stage.Progress stage id graph [] :=
  ⟨⟨[], .refl stage⟩, fun _ _ => rfl, rfl⟩

theorem trans (hfirst : stage.Progress middle id graph fresh)
    (hsecond : middle.Progress later id graph more) :
    stage.Progress later id graph (fresh ++ more) where
  accounts := by
    obtain ⟨before, hbefore⟩ := hfirst.accounts
    obtain ⟨after, hafter⟩ := hsecond.accounts
    rw [visits, List.map_append]
    exact ⟨before ++ after, hbefore.trans hafter⟩
  others other hne := (hsecond.others other hne).trans (hfirst.others other hne)
  forgotten := hsecond.forgotten.trans hfirst.forgotten

variable (hprogress : stage.Progress later id graph fresh)

include hprogress

theorem content :
    later.context.content = (graph.replay fresh stage.context).content := by
  obtain ⟨made, haccounts⟩ := hprogress.accounts
  rw [haccounts.content, replay_visits]

theorem visited : later.visitedBy id = stage.visitedBy id ++ fresh := by
  obtain ⟨made, haccounts⟩ := hprogress.accounts
  rw [haccounts.visited, filterMap_visitBy?_visits, if_pos rfl]

theorem dismiss (task : Task) :
    stage.Progress (later.dismiss task) id graph fresh := by
  obtain ⟨made, haccounts⟩ := hprogress.accounts
  exact ⟨⟨made, haccounts.of_same rfl rfl⟩, hprogress.others,
    hprogress.forgotten⟩

end Progress

theorem advance_progress {stage : Stage} (firing? : Option Firing)
    {activation : Activation} {turn : Turn → Turn × Option Call}
    {fresh : List String}
    (hstarted : stage.started? activation.id = some activation)
    (hcontinues : activation.Continues
      (turn ⟨stage.context, activation⟩).1.activation)
    (hperforms : Turn.Performs ⟨stage.context, activation⟩
      (turn ⟨stage.context, activation⟩).1
      (turn ⟨stage.context, activation⟩).2 fresh) :
    stage.Progress (stage.advance firing? activation turn) activation.id
      activation.graph
      fresh where
  accounts := ⟨_, advance_accounts firing? hstarted hcontinues hperforms⟩
  others _ hne := started?_advance_other firing? hne hcontinues
  forgotten := advance_forgotten _ _ _ _

theorem enroll_progress (stage : Stage) (graph : CompiledGraph)
    (nodeId : String) :
    stage.Progress (stage.enroll graph nodeId).1
      (stage.enroll graph nodeId).2.id graph [] where
  accounts := ⟨[], enroll_accounts graph nodeId⟩
  others other hne := by
    rw [started?_enroll, if_neg (Ne.symm hne), Option.or_none]
  forgotten := rfl

/-! ## Calls of the host and their answers -/

/-- The host answers one call after the other, until no more calls are made. -/
def attend : List Answer → Stage × Response → Stage × Response
  | answer :: answers, (stage, .called caller _) =>
    attend answers (stage.answer caller answer)
  | _, result => result

/-- If the activation has aborted, a step has failed after some visits, unless
the report with which it was resumed could not be read. -/
def FailsWithin (stage later : Stage) (graph : CompiledGraph)
    (fresh : List String) (state : ActivationState) : Prop :=
  ∀ diagnostic, state = .aborted diagnostic →
    graph.FailedAt fresh stage.context later.context diagnostic ∨ fresh = []

/-- What the host finds after a turn: the activation rests, or waits for the
answer to its call. -/
inductive Outcome (stage later : Stage) (activation : Activation)
    (fresh : List String) : Response → Prop where
  | returned
    (hfails : stage.FailsWithin later activation.graph fresh activation.state) :
    Outcome stage later activation fresh (.returned [activation.id])
  | called {call : Call} (hcalled : activation.HasCalled call)
    (htask : later.tasks.find? (·.activationId == activation.id) =
      some ⟨activation.id, none⟩) :
    Outcome stage later activation fresh (.called activation.id call)

/-- A call of the host for one activation is under way. -/
structure Underway (stage : Stage) (result : Stage × Response)
    (activation : Activation) (fresh : List String) : Prop where
  reachable : result.1.Reachable
  started : result.1.started? activation.id = some activation
  progress : stage.Progress result.1 activation.id activation.graph fresh
  outcome : Outcome stage result.1 activation fresh result.2

/-- Where the activation stands, the last visit has not changed the context. -/
def StandsIdle (stage before : Stage) (activation : Activation)
    (fresh : List String) : Prop :=
  ∀ nodeId, activation.cursor = some nodeId → fresh = [] ∨ ∃ completed,
    fresh = completed ++ [nodeId] ∧ before.context.content =
      (activation.graph.replay completed stage.context).content

/-- If the turn of an activation aborts it, a step has failed after all visits
so far, also if the host has failed at the node of the last one. -/
theorem confined_failsWithin {stage before later : Stage}
    {activation : Activation} {turn : Turn} {call? : Option Call}
    {fresh more : List String}
    (hprogress : stage.Progress before activation.id activation.graph fresh)
    (hconfined : Turn.Confined ⟨before.context, activation⟩ turn call? more)
    (hidle : stage.StandsIdle before activation fresh)
    (hlater : later.context = turn.context) :
    stage.FailsWithin later activation.graph (fresh ++ more)
      turn.activation.state := by
  intro diagnostic haborted
  rcases hconfined.failed diagnostic haborted with hfailed | ⟨rfl, hcursor⟩
  -- A step of this turn has failed, or else the node of the last visit, which
  -- changed nothing.
  · rw [hlater]
    exact .inl (hfailed.after hprogress.content)
  · rcases hidle _ hcursor with rfl | ⟨completed, rfl, hcontent⟩
    · exact .inr rfl
    · refine .inl ⟨completed, ?_, .inr (List.append_nil _)⟩
      rw [hlater, hconfined.content]
      exact hcontent

/-- The turn of an activation leads to a rest or to the next call. -/
theorem settle_underway {stage before : Stage} {activation : Activation}
    {turn : Turn → Turn × Option Call} {fresh more : List String}
    (hprogress : stage.Progress before activation.id activation.graph fresh)
    (hstarted : before.started? activation.id = some activation)
    (hcontinues : activation.Continues
      (turn ⟨before.context, activation⟩).1.activation)
    (hperforms : Turn.Performs ⟨before.context, activation⟩
      (turn ⟨before.context, activation⟩).1
      (turn ⟨before.context, activation⟩).2 more)
    (hfails : stage.FailsWithin (before.advance none activation turn)
      activation.graph (fresh ++ more)
      (turn ⟨before.context, activation⟩).1.activation.state)
    (hcalls : ∀ call, (turn ⟨before.context, activation⟩).2 = some call →
      (turn ⟨before.context, activation⟩).1.activation.HasCalled call)
    (hreachable : (before.advance none activation turn).Reachable) :
    stage.Underway ((before.play activation turn).1.settle none activation.id
      (before.play activation turn).2)
        (turn ⟨before.context, activation⟩).1.activation
      (fresh ++ more) := by
  have hself := started?_advance_self none hstarted hcontinues
  have hafter :=
    hprogress.trans (advance_progress none hstarted hcontinues hperforms)
  rw [advance] at hreachable hself hafter hfails
  have hturn : (before.play activation turn).2 =
      (turn ⟨before.context, activation⟩).2 :=
    rfl
  rw [← hcontinues.id, ← hcontinues.graph] at hafter
  rw [← hcontinues.graph] at hfails
  rw [← hcontinues.id] at hself hreachable ⊢
  cases hcall : (before.play activation turn).2 with
  | none =>
    rw [hcall] at hreachable hself hafter hfails
    exact ⟨hreachable, hself, hafter, .returned hfails⟩
  | some call =>
    rw [hcall] at hreachable hself hafter
    refine ⟨hreachable, hself, hafter,
      .called (hcalls call (hturn.symm.trans hcall)) ?_⟩
    simp [settle, await]

theorem settle_none_stage (id : String) (call? : Option Call) (stage : Stage) :
    (stage.settle none id call?).1 = stage.keep none id call? := by
  cases call? <;> rfl

theorem settle_none_called {id other : String} {call? : Option Call}
    {call : Call} {stage : Stage}
    (hresponse : (stage.settle none id call?).2 = .called other call) :
    call? = some call := by
  cases call? with
  | none => cases hresponse
  | some made =>
    cases hresponse
    rfl

/-- The node at which an activation has called changes nothing. -/
theorem effectAt_of_hasCalled {activation : Activation} {call : Call}
    (hcalled : activation.HasCalled call) {nodeId : String}
    (hcursor : activation.cursor = some nodeId) (context : Context) :
    activation.graph.effectAt nodeId context = context := by
  obtain ⟨other, node, ⟨hother, hnode⟩, hmakes⟩ := hcalled.stands
  cases hcursor.symm.trans hother
  rw [CompiledGraph.effectAt_of_find? hnode]
  exact (CompiledNode.visit_ok (hmakes context)).1.symm

namespace Underway

variable {stage current : Stage} {activation : Activation} {fresh : List String}
  {caller : String}
variable {call : Call}
  (hunderway : stage.Underway (current, .called caller call) activation fresh)

include hunderway

theorem hasCalled : activation.HasCalled call := by
  cases hunderway.outcome with
  | called hcalled => exact hcalled

theorem standsIdle : stage.StandsIdle current activation fresh := by
  intro nodeId hcursor
  rcases List.eq_nil_or_concat' fresh with hnone | ⟨completed, last, rfl⟩
  · exact .inl hnone
  · have hvisited := hunderway.progress.visited
    rw [visitedBy_of_started? hunderway.started] at hvisited
    have hlast := (hunderway.reachable.travels
      (List.mem_of_find?_eq_some hunderway.started)).1.cursor
    rw [hvisited, hcursor, ← List.append_assoc, List.getLast?_concat] at hlast
    cases hlast
    refine .inr ⟨completed, rfl, ?_⟩
    rw [hunderway.progress.content, CompiledGraph.replay_append,
      CompiledGraph.replay_cons,
      effectAt_of_hasCalled hunderway.hasCalled hcursor]
    rfl

theorem visited_pos : 0 < activation.visited.size := by
  have hlast := (hunderway.reachable.travels
    (List.mem_of_find?_eq_some hunderway.started)).1.cursor
  obtain ⟨nodeId, node, ⟨hcursor, -⟩, -⟩ := hunderway.hasCalled.stands
  rw [hcursor] at hlast
  have hmem := List.mem_of_getLast? hlast.symm
  rw [← Array.length_toList]
  exact List.length_pos_of_mem hmem

/-- The host answers the call, and the activation goes on. -/
theorem answer {answer : Answer} (hgiven : ∀ text, answer ≠ .interrupted text) :
    ∃ after more,
      stage.Underway (current.answer caller answer) after (fresh ++ more) ∧
      after.id = activation.id ∧
      ∀ other made, (current.answer caller answer).2 = .called other made →
        activation.visited.size < after.visited.size := by
  have hstarted := hunderway.started
  have hcalled := hunderway.hasCalled
  have hreachable := hunderway.reachable.step (.answer caller answer)
  have hidle := hunderway.standsIdle
  have hprogress := hunderway.progress
  cases hunderway.outcome with
  | called _ htask =>
    have hlive : activation.isLive = true := by
      rw [isLive, hcalled.running]
      rfl
    obtain ⟨more, hconfined⟩ := (Turn.receive_responds current.limit
      ⟨current.context, activation⟩ answer).confined hlive
    have hcontinues :=
      Turn.continues_receive current.limit answer ⟨current.context, activation⟩
    have hdismissed := hprogress.dismiss ⟨activation.id, none⟩
    have hanswer : current.answer activation.id answer =
        ((current.dismiss ⟨activation.id, none⟩).play activation
          (Turn.receive current.limit answer)).1.settle none activation.id
        ((current.dismiss ⟨activation.id, none⟩).play activation
          (Turn.receive current.limit answer)).2 := by
      simp only [Stage.answer, htask, hstarted]
    rw [Stage.step, hanswer, settle_none_stage] at hreachable
    rw [hanswer]
    refine ⟨_, more,
      settle_underway hdismissed hstarted hcontinues hconfined.toPerforms
      (confined_failsWithin hdismissed hconfined hidle
        (advance_context none _ _ _))
      (fun _ => (Turn.receive_responds _ _ _).hasCalled) hreachable,
      hcontinues.id, ?_⟩
    intro other made hresponse
    exact hconfined.visited_size_lt (settle_none_called hresponse)

end Underway

/-- A call of the host for an activation is over: its result is the activation,
no other one has changed, and if the activation has aborted, the variables and
flags are what the visits before the step that failed have made of them. -/
structure Contained (stage : Stage) (id : String)
    (result : Stage × Response) : Prop where
  returned : result.2 = .returned [id]
  others : ∀ other ≠ id, result.1.started? other = stage.started? other
  forgotten : result.1.forgotten = stage.forgotten
  confined : ∃ activation fresh, result.1.started? id = some activation ∧
    activation.visited.toList = stage.visitedBy id ++ fresh ∧
    result.1.context.content =
      (activation.graph.replay fresh stage.context).content ∧
    stage.FailsWithin result.1 activation.graph fresh activation.state

theorem attend_returned (answers : List Answer) (stage : Stage)
    (ids : List String) :
    attend answers (stage, .returned ids) = (stage, .returned ids) := by
  cases answers <;> rfl

/-- The activation rests. -/
theorem Underway.contained {stage later : Stage} {ids : List String}
    {activation : Activation} {fresh : List String}
    (hunderway : stage.Underway (later, .returned ids) activation fresh) :
    stage.Contained activation.id (later, .returned ids) := by
  have hvisited := hunderway.progress.visited
  rw [visitedBy_of_started? hunderway.started] at hvisited
  cases hunderway.outcome with
  | returned hfails =>
    exact ⟨rfl, hunderway.progress.others, hunderway.progress.forgotten,
      activation, fresh, hunderway.started, hvisited,
      hunderway.progress.content, hfails⟩

/-- Every call takes a visit, so that the calls come to an end. -/
theorem Underway.attend {stage : Stage} {answers : List Answer}
    (huncancelled : ∀ text, .interrupted text ∉ answers)
    {result : Stage × Response} {activation : Activation} {fresh : List String}
    (hunderway : stage.Underway result activation fresh)
    (hlong : ∀ caller call, result.2 = .called caller call →
      result.1.limit < answers.length + activation.visited.size) :
    stage.Contained activation.id (attend answers result) := by
  induction answers generalizing result activation fresh with
  | nil =>
    obtain ⟨current, response⟩ := result
    cases hunderway.outcome with
    | returned => exact hunderway.contained
    | called =>
      -- No answer is left, but the activation cannot have visited more than the
      -- limit.
      have hmem := List.mem_of_find?_eq_some hunderway.started
      have hbound := hunderway.reachable.visited_size_le hmem
      have hmore := hlong _ _ rfl
      rw [List.length_nil, Nat.zero_add] at hmore
      exact absurd hmore (Nat.not_lt.mpr hbound)
  | cons answer answers ih =>
    obtain ⟨current, response⟩ := result
    cases hunderway.outcome with
    | returned =>
      rw [attend_returned]
      exact hunderway.contained
    | called =>
      have hgiven : ∀ text, answer ≠ .interrupted text := by
        rintro text rfl
        exact huncancelled text (List.mem_cons_self ..)
      obtain ⟨after, more, hnext, hid, hsize⟩ := hunderway.answer hgiven
      have hlimit :
          (current.answer activation.id answer).1.limit = current.limit :=
        (step_reaches current (.answer activation.id answer)).limit
      have hcontained :=
        ih (fun text hmem => huncancelled text (List.mem_cons_of_mem _ hmem))
          hnext (by
            intro caller call hresponse
            have hgrown := hsize caller call hresponse
            have hbefore : current.limit <
                (answer :: answers).length + activation.visited.size :=
              hlong _ _ rfl
            rw [List.length_cons] at hbefore
            rw [hlimit]
            omega)
      rw [hid] at hcontained
      exact hcontained

/-! ## The calls of the host -/

section Calls

variable {stage : Stage} (hreachable : stage.Reachable)

include hreachable

theorem Reachable.activate_underway {graph : CompiledGraph}
    {entry : Option String} {nodeId : String}
    (hversion : stage.checkVersion graph = .ok ())
    (hentry : entryOf graph entry = .ok nodeId) :
    ∃ activation fresh, activation.id = (stage.enroll graph nodeId).2.id ∧
      stage.Underway (stage.activate graph entry) activation fresh := by
  have horderly := hreachable.orderly
  obtain ⟨fresh, hconfined⟩ := (Turn.continueAt_walks stage.limit nodeId
    ⟨(stage.enroll graph nodeId).1.context,
      (stage.enroll graph nodeId).2⟩).confined
  have hactivate :
      stage.activate graph entry =
        ((stage.enroll graph nodeId).1.play (stage.enroll graph nodeId).2
          (Turn.continueAt stage.limit nodeId)).1.settle none
            (stage.enroll graph nodeId).2.id
            ((stage.enroll graph nodeId).1.play (stage.enroll graph nodeId).2
              (Turn.continueAt stage.limit nodeId)).2 := by
    simp only [activate, start, hversion, hentry]
    rfl
  have hnext := hreachable.step (.activate graph entry)
  rw [Stage.step, hactivate, settle_none_stage] at hnext
  have hidle :
      stage.StandsIdle (stage.enroll graph nodeId).1
        (stage.enroll graph nodeId).2 [] :=
    fun _ _ => .inl rfl
  have hprogress := enroll_progress stage graph nodeId
  have hfails :=
    confined_failsWithin hprogress hconfined hidle (advance_context none _ _ _)
  have hcontinues := @continues_firstTurn stage graph nodeId
  rw [hactivate]
  exact ⟨_, _, hcontinues.id, settle_underway hprogress
    (horderly.started?_enroll_self graph nodeId) hcontinues
    hconfined.toPerforms hfails
    (fun _ => (Turn.continueAt_walks _ _ _).hasCalled) hnext⟩

/-- An activation that is not suspended stays as it is. -/
theorem Reachable.resume_underway {id : String} {activation : Activation}
    (report : Report) (hregistered : stage.activation? id = some activation) :
    ∃ after fresh, after.id = id ∧
      stage.Underway (stage.resume id report) after fresh := by
  have hstarted := started?_of_activation? hregistered
  have hid := started?_id hstarted
  subst hid
  obtain ⟨fresh, hperforms, hfails⟩ : ∃ fresh,
      Turn.Performs ⟨stage.context, activation⟩
        (Turn.resume stage.limit report ⟨stage.context, activation⟩).1
        (Turn.resume stage.limit report ⟨stage.context, activation⟩).2 fresh ∧
      stage.FailsWithin (stage.advance none activation
        (Turn.resume stage.limit report))
        activation.graph ([] ++ fresh)
        (Turn.resume stage.limit report
          ⟨stage.context, activation⟩).1.activation.state := by
    by_cases hsuspended : activation.state = .suspended
    · obtain ⟨fresh, hconfined⟩ := (Turn.resume_responds stage.limit
        ⟨stage.context, activation⟩ report).confined hsuspended
      exact ⟨fresh, hconfined.toPerforms,
        confined_failsWithin (.refl stage _ _) hconfined
        (fun _ _ => .inl rfl) (advance_context none _ _ _)⟩
    · refine ⟨[], ?_, fun _ _ => .inr rfl⟩
      rw [Turn.resume_of_not_suspended _ _ hsuspended]
      exact .refl _
  have hcontinues :=
    Turn.continues_resume stage.limit report ⟨stage.context, activation⟩
  have hresume :
      stage.resume activation.id report =
        (stage.play activation (Turn.resume stage.limit report)).1.settle none
          activation.id (stage.play activation
            (Turn.resume stage.limit report)).2 := by
    simp only [resume, hregistered]
  have hnext := hreachable.step (.resume activation.id report)
  rw [Stage.step, hresume, settle_none_stage] at hnext
  rw [hresume]
  exact ⟨_, _, hcontinues.id,
    settle_underway (.refl stage _ _) hstarted hcontinues hperforms
    hfails (fun _ => (Turn.resume_responds _ _ _).hasCalled) hnext⟩

omit hreachable in
/-- A report that cannot be read changes nothing but the activation. -/
theorem resume_of_rejected {id nodeId : String} {activation : Activation}
    {node : CompiledNode} {report : Report} {issues : List Issue}
    (hregistered : stage.activation? id = some activation)
    (hsuspended : activation.state = .suspended)
    (hstands : activation.StandsAt nodeId node)
    (hrejected : report.port node.kind = .rejected issues) :
    (stage.resume id report).2 = .returned [id] ∧
      (stage.resume id report).1.context.content = stage.context.content := by
  have hturn :=
    @Turn.resume_of_suspended stage.limit report ⟨stage.context, activation⟩ _ _
      hsuspended hstands
  rw [hrejected] at hturn
  simp only [resume, hregistered, play, hturn]
  exact ⟨rfl, rfl⟩

end Calls

/-! ## Refusals -/

theorem activate_of_refused {stage : Stage} {graph : CompiledGraph}
    {entry : Option String} {error : StartError}
    (hrefused : (stage.activate graph entry).2 = .refused error) :
    (stage.activate graph entry).1 = stage := by
  unfold activate at hrefused ⊢
  cases hstart : stage.start graph entry with
  | error error => rfl
  | ok started =>
    obtain ⟨later, id, call?⟩ := started
    rw [hstart] at hrefused
    cases call? <;> cases hrefused

theorem length_begins {stage later : Stage} (hbegins : Begins stage later) :
    later.activations.length = stage.activations.length + 1 := by
  cases hbegins with
  | begin =>
    rw [Stage.begin, advance_activations, replace, List.length_map]
    exact List.length_append

theorem length_beginsMany {stage later : Stage}
    (hbegins : BeginsMany stage later) :
    stage.activations.length ≤ later.activations.length := by
  induction hbegins with
  | refl => exact Nat.le_refl _
  | tail _ hlast ih =>
    rw [length_begins hlast]
    exact Nat.le_succ_of_le ih

/-- If no activation has started, the first entrypoint was refused. -/
theorem fireAll_of_refused {graph : CompiledGraph} {left : List Entrypoint}
    {started : List String} {stage : Stage} {error : StartError}
    (hrefused : (fireAll graph left started stage).2 = .refused error)
    (hsame : (fireAll graph left started stage).1.activations =
      stage.activations) : (fireAll graph left started stage).1 = stage := by
  cases left with
  | nil => rfl
  | cons entry left =>
    rw [fireAll] at hrefused hsame ⊢
    cases hstart : stage.start graph (some entry.nodeId) with
    | error error => rfl
    | ok begun =>
      obtain ⟨later, id, call?⟩ := begun
      rw [hstart] at hrefused hsame
      cases call? with
      | some call => cases hrefused
      | none =>
        have hbegun := length_begins (start_begins none hstart)
        have hmore :=
          length_beginsMany (fireAll_begins graph left (started ++ [id]) later)
        simp only [hsame] at hmore
        simp only [keep] at hbegun
        omega

theorem fire_of_refused {stage : Stage} {graph : CompiledGraph}
    {triggerType : String} {error : StartError}
    (hrefused : (stage.fire graph triggerType).2 = .refused error)
    (hsame : (stage.fire graph triggerType).1.activations = stage.activations) :
    (stage.fire graph triggerType).1 = stage := by
  unfold fire at hrefused hsame ⊢
  cases hversion : stage.checkVersion graph with
  | error error => rfl
  | ok _ =>
    rw [hversion] at hrefused hsame
    exact fireAll_of_refused hrefused hsame

/-- A trigger that leads to a payment of two coins, a greeting, and a payment of
no number of coins. -/
def mishap : CompiledGraph :=
  ⟨"mishap", "", some "entry", [⟨"entry", "player_enter", "always"⟩],
    ⟨[("entry", ⟨.trigger, .empty, [["pay"]]⟩),
      ("pay", ⟨.action, ⟨[("actionType", .str "increment_variable"),
        ("target", .str "paid"), ("value", .int 2)], by decide⟩, [["greet"]]⟩),
      ("greet", ⟨.dialogue, .empty, [["tip"]]⟩),
      ("tip", ⟨.action, ⟨[("actionType", .str "increment_variable"),
        ("target", .str "paid"), ("value", .str "many")], by decide⟩, [[]]⟩)],
      by decide⟩,
    ambush.metadata⟩

/-- A stage for activations with few visits, during the encounter of
`ambush`. -/
def crossing : Stage :=
  (session [.activate ambush none] (initial 4 ">=1.0" .empty)).1

/-- The host agrees to everything. -/
def nods : List Answer := List.replicate 4 (.reported (.value .null))

end Stage

end StoryGraph
