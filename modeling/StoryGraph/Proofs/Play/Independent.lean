import StoryGraph.Proofs.Play.Ended
import StoryGraph.Proofs.Play.Footprint
import StoryGraph.Proofs.Play.Route
import StoryGraph.Proofs.Play.Solo

/-!
# Independent activations

The host resumes an activation and answers its calls until it makes no more.
Two activations are independent when the graph of neither changes what the other
one looks at or changes.  It then makes no difference which of them the host
resumes first: each takes the same turns and makes the same calls, and the stage
and its context end up the same.
-/

namespace StoryGraph

/-! ## Conversations -/

/-- What comes of an event once the host has answered the calls that follow from
it: the stage and the response at the end, and the calls with those who made
them. -/
structure Conversation where
  stage : Stage
  response : Response
  calls : List (String × Call)
  deriving DecidableEq

namespace Stage

/-- The host answers one call after the other, at most so many of them, each as
it always answers such a call. -/
def converse (host : Call → Answer) :
    (left : Nat) → Stage × Response → Conversation
  | left + 1, (stage, .called caller call) =>
    let rest := converse host left (stage.answer caller (host call))
    { rest with calls := (caller, call) :: rest.calls }
  | _, (stage, response) => ⟨stage, response, []⟩

/-- The host resumes an activation and answers its calls.  Each of them takes a
visit, so that the limit on visits is enough for all of them. -/
def resumeWith (host : Call → Answer) (id : String) (report : Report)
    (stage : Stage) : Conversation :=
  converse host stage.limit (stage.resume id report)

end Stage

namespace Turn

/-- The response after a turn of an activation. -/
def reported (ended : Turn × Option Call) : Turn × Response :=
  (ended.1, Stage.respond ended.1.activation.id ended.2)

/-- The response after an activation has taken an answer. -/
def answered (answer : Answer) (ended : Turn × Option Call) : Turn × Response :=
  match answer with
  | .interrupted text => (ended.1, .interrupted text)
  | _ => reported ended

/-- What comes of the turns of an activation once the host has answered its
calls. -/
def converse (limit : Nat) (host : Call → Answer) :
    (left : Nat) → Turn × Response → (Turn × Response) × List Call
  | left + 1, (turn, .called _ call) =>
    let rest := converse limit host left
      (answered (host call) (turn.receive limit (host call)))
    (rest.1, call :: rest.2)
  | _, ended => (ended, [])

/-- The activation is resumed, and the host answers its calls. -/
def resumeWith (limit : Nat) (host : Call → Answer) (report : Report)
    (turn : Turn) : (Turn × Response) × List Call :=
  converse limit host limit (reported (turn.resume limit report))

/-! ### Turns of the same activation -/

open Activation

/-- Unless the task was cancelled, the response is that of the turn. -/
theorem answered_cases (answer : Answer) (ended : Turn × Option Call) :
    answered answer ended = reported ended ∨
      ∃ text, answered answer ended = (ended.1, .interrupted text) := by
  cases answer with
  | interrupted text => exact .inr ⟨text, rfl⟩
  | reported report => exact .inl rfl
  | deferred => exact .inl rfl
  | failed kind text => exact .inl rfl

theorem answered_turn (answer : Answer) (ended : Turn × Option Call) :
    (answered answer ended).1 = ended.1 := by
  rcases answered_cases answer ended with heq | ⟨text, heq⟩
  · rw [heq, reported]
  · rw [heq]

/-- An activation calls under its own id. -/
theorem reported_called {ended : Turn × Option Call} {caller : String}
    {call : Call} (hcalled : (reported ended).2 = .called caller call) :
    caller = ended.1.activation.id ∧ ended.2 = some call := by
  obtain ⟨turn, call?⟩ := ended
  cases call? with
  | none => cases hcalled
  | some made =>
    cases hcalled
    exact ⟨rfl, rfl⟩

theorem answered_called {answer : Answer} {ended : Turn × Option Call}
    {caller : String} {call : Call}
    (hcalled : (answered answer ended).2 = .called caller call) :
    caller = ended.1.activation.id ∧ ended.2 = some call := by
  rcases answered_cases answer ended with heq | ⟨text, heq⟩
  · rw [heq] at hcalled
    exact reported_called hcalled
  · rw [heq] at hcalled
    cases hcalled

/-- The host's answers leave the activation the same one. -/
theorem converse_continues (limit : Nat) (host : Call → Answer) (left : Nat)
    (ended : Turn × Response) :
    ended.1.activation.Continues
      (converse limit host left ended).1.1.activation := by
  induction left generalizing ended with
  | zero => exact .refl _
  | succ left ih =>
    obtain ⟨turn, response⟩ := ended
    cases response with
    | called caller call =>
      refine .trans (continues_receive limit (host call) turn) ?_
      have hrest := ih (answered (host call) (turn.receive limit (host call)))
      rwa [answered_turn] at hrest
    | _ => exact .refl _

/-- The host's answers change nothing outside the footprint of the
activation. -/
theorem converse_frame (limit : Nat) (host : Call → Answer) (left : Nat)
    (ended : Turn × Response) :
    ended.1.context.AgreesOutside ended.1.footprint
      (converse limit host left ended).1.1.context := by
  induction left generalizing ended with
  | zero => exact .refl _ _
  | succ left ih =>
    obtain ⟨turn, response⟩ := ended
    cases response with
    | called caller call =>
      have hcontinues := continues_receive limit (host call) turn
      have hrest := ih (answered (host call) (turn.receive limit (host call)))
      rw [answered_turn, footprint, hcontinues.id, hcontinues.graph] at hrest
      exact (receive_responds limit turn (host call)).frame.trans hrest
    | _ => exact .refl _ _

theorem SameEnd.reported {cells : List Cell} {left right : Turn × Option Call}
    (hsame : SameEnd cells left right) :
    SameEnd cells (reported left) (reported right) where
  turns := hsame.turns
  result := by
    simp only [Turn.reported]
    rw [hsame.turns.activation, hsame.result]

theorem SameEnd.answered {cells : List Cell} {left right : Turn × Option Call}
    (hsame : SameEnd cells left right) (answer : Answer) :
    SameEnd cells (answered answer left) (answered answer right) := by
  cases answer with
  | interrupted text => exact ⟨hsame.turns, rfl⟩
  | reported report => exact hsame.reported
  | deferred => exact hsame.reported
  | failed kind text => exact hsame.reported

/-- The same answers to the same activation in contexts that differ
elsewhere. -/
theorem converse_parallel {cells : List Cell} (limit : Nat)
    (host : Call → Answer) (left : Nat) {ended other : Turn × Response}
    (hsame : SameEnd cells ended other) :
    SameEnd cells (converse limit host left ended).1
      (converse limit host left other).1 ∧
      (converse limit host left ended).2 =
        (converse limit host left other).2 := by
  induction left generalizing ended other with
  | zero => exact ⟨hsame, rfl⟩
  | succ left ih =>
    obtain ⟨turn, response⟩ := ended
    obtain ⟨otherTurn, otherResponse⟩ := other
    obtain ⟨hturns, rfl : response = otherResponse⟩ := hsame
    cases response with
    | called caller call =>
      obtain ⟨context, activation⟩ := turn
      obtain ⟨otherContext, otherActivation⟩ := otherTurn
      obtain rfl : activation = otherActivation := hturns.activation
      obtain ⟨hend, hcalls⟩ :=
        ih ((receive_parallel hturns limit (host call)).answered (host call))
      exact ⟨hend, congrArg (call :: ·) hcalls⟩
    | _ => exact ⟨⟨hturns, rfl⟩, rfl⟩

/-- Every call takes a visit, so that the calls come to an end. -/
theorem converse_ends {limit : Nat} (host : Call → Answer) {left : Nat}
    {ended : Turn × Response} (htravels : ended.1.activation.Travels limit)
    (hsteps : ended.1.activation.steps ≤ limit)
    (hlong : ∀ caller call, ended.2 = .called caller call →
      limit < left + ended.1.activation.steps) (caller : String) (call : Call) :
    (converse limit host left ended).1.2 ≠ .called caller call := by
  induction left generalizing ended with
  | zero =>
    intro hcalled
    have hmore := hlong caller call hcalled
    omega
  | succ left ih =>
    obtain ⟨turn, response⟩ := ended
    cases response with
    | called first made =>
      have hbefore := hlong first made rfl
      have hresponds := receive_responds limit turn (host made)
      have hafter := hresponds.travels htravels
      obtain ⟨fresh, hperforms⟩ := hresponds.performs
      -- One answer less is left, and another call means one visit more.
      apply @ih (answered (host made) (turn.receive limit (host made)))
      · rw [answered_turn]
        exact hafter
      · rw [answered_turn]
        exact hresponds.steps_le hsteps
      · intro second next hcalled
        have hgrows := hperforms.visited_size_lt (answered_called hcalled).2
        have hsize : turn.activation.steps = turn.activation.visited.size :=
          htravels.steps
        rw [← hsize, ← hafter.steps] at hgrows
        rw [answered_turn]
        simp only at hbefore
        omega
    | _ => simp [converse]

section Resumed

variable (limit : Nat) (host : Call → Answer) (report : Report)

theorem resumeWith_continues (turn : Turn) :
    turn.activation.Continues
      (turn.resumeWith limit host report).1.1.activation := by
  have hrest :=
    converse_continues limit host limit (reported (turn.resume limit report))
  exact (continues_resume limit report turn).trans hrest

theorem resumeWith_frame (turn : Turn) :
    turn.context.AgreesOutside turn.footprint
    (turn.resumeWith limit host report).1.1.context := by
  have hcontinues := continues_resume limit report turn
  have hfootprint :
      (turn.resume limit report).1.footprint = turn.footprint := by
    rw [footprint, hcontinues.id, hcontinues.graph, footprint]
  have hrest :=
    converse_frame limit host limit (reported (turn.resume limit report))
  exact (resume_responds limit turn report).frame.trans (hfootprint ▸ hrest)

theorem resumeWith_parallel {cells : List Cell} {left right : Context}
    {activation : Activation}
    (hparallel : Parallel cells ⟨left, activation⟩ ⟨right, activation⟩) :
    SameEnd cells (resumeWith limit host report ⟨left, activation⟩).1
        (resumeWith limit host report ⟨right, activation⟩).1 ∧
      (resumeWith limit host report ⟨left, activation⟩).2 =
        (resumeWith limit host report ⟨right, activation⟩).2 :=
  converse_parallel limit host limit
    (resume_parallel hparallel limit report).reported

variable {limit} in
theorem resumeWith_ends {turn : Turn} (htravels : turn.activation.Travels limit)
    (hsteps : turn.activation.steps ≤ limit) (caller : String) (call : Call) :
    (turn.resumeWith limit host report).1.2 ≠ .called caller call := by
  have hresponds := resume_responds limit turn report
  have hafter := hresponds.travels htravels
  obtain ⟨fresh, hperforms⟩ := hresponds.performs
  refine @converse_ends limit host limit
    (reported (turn.resume limit report)) hafter
    (hresponds.steps_le hsteps) ?_ caller call
  intro first made hcalled
  have hgrows := hperforms.visited_size_lt (reported_called hcalled).2
  rw [← htravels.steps, ← hafter.steps] at hgrows
  simp only [reported]
  omega

end Resumed

end Turn

/-! ## One conversation on a stage -/

namespace Stage

open Activation Turn

/-- The stage with the outcome of a turn. -/
def put (turn : Turn) (stage : Stage) : Stage :=
  { stage with context := turn.context }.replace turn.activation

/-- The stage with the outcome of a turn, and with a task if the activation
calls. -/
def after (ended : Turn × Response) (stage : Stage) : Stage :=
  match ended.2 with
  | .called _ _ =>
    { stage.put ended.1 with
      tasks := ⟨ended.1.activation.id, none⟩ :: stage.tasks }
  | _ => stage.put ended.1

theorem replace_replace {first second : Activation} (hid : second.id = first.id)
    (stage : Stage) :
    (stage.replace first).replace second = stage.replace second := by
  simp only [replace, List.map_map, Stage.mk.injEq, true_and, and_true]
  apply List.map_congr_left
  intro old _
  by_cases hold : old.id = first.id <;> simp [hold, hid]

theorem replace_comm {first second : Activation} (hne : first.id ≠ second.id)
    (stage : Stage) :
    (stage.replace first).replace second =
      (stage.replace second).replace first := by
  simp only [replace, List.map_map, Stage.mk.injEq, true_and, and_true]
  apply List.map_congr_left
  intro old _
  by_cases hfirst : old.id = first.id
  · have hsecond : old.id ≠ second.id := hfirst ▸ hne
    simp [hfirst, hne]
  · by_cases hsecond : old.id = second.id
    · simp [hsecond, Ne.symm hne]
    · simp [hfirst, hsecond]

/-- The next turn of an activation takes the place of the earlier one. -/
theorem put_put {turn later : Turn}
    (hid : later.activation.id = turn.activation.id) (stage : Stage) :
    (stage.put turn).put later = stage.put later := by
  have hreplace := replace_replace hid { stage with context := later.context }
  exact hreplace

/-- The order of the turns of two activations shows only in the context. -/
theorem put_comm {first first' second second' : Turn}
    (hfirst : first.activation = first'.activation)
    (hsecond : second.activation = second'.activation)
    (hne : first.activation.id ≠ second.activation.id) (stage : Stage) :
    (stage.put second).put first' =
      { (stage.put first).put second' with context := first'.context } := by
  have hactivations := congrArg Stage.activations (replace_comm hne stage)
  simp only [put, ← hfirst, ← hsecond]
  exact congrArg
    (Stage.mk stage.limit stage.supported first'.context · stage.forgotten
      stage.supply stage.tasks) hactivations.symm

theorem settle_put (ended : Turn × Option Call) (stage : Stage) :
    (stage.put ended.1).settle none ended.1.activation.id ended.2 =
      (stage.after (reported ended), (reported ended).2) := by
  obtain ⟨turn, call?⟩ := ended
  cases call? <;> rfl

/-- The activation takes the answer to its call. -/
theorem answer_after {stage : Stage} {turn : Turn} {old : Activation}
    (hstarted : stage.started? turn.activation.id = some old) (caller : String)
    (call : Call) (answer : Answer) :
    (stage.after (turn, .called caller call)).answer turn.activation.id answer =
      (stage.after (answered answer (turn.receive stage.limit answer)),
        (answered answer (turn.receive stage.limit answer)).2) := by
  have htasks : (stage.after (turn, .called caller call)).tasks =
      ⟨turn.activation.id, none⟩ :: stage.tasks := rfl
  have htask :
      (stage.after (turn, .called caller call)).tasks.find?
        (·.activationId == turn.activation.id) =
          some ⟨turn.activation.id, none⟩ := by
    rw [htasks]
    simp
  have hself :
      (stage.after (turn, .called caller call)).started? turn.activation.id =
        some turn.activation := by
    have hreplaced := started?_replace stage turn.activation turn.activation.id
    rw [if_pos rfl, hstarted] at hreplaced
    exact hreplaced
  have herased : { stage.after (turn, .called caller call) with
      tasks := (stage.after (turn, .called caller call)).tasks.erase
        ⟨turn.activation.id, none⟩ } = stage.put turn := by
    rw [htasks, List.erase_cons_head]
    rfl
  have hcontinues := continues_receive stage.limit answer turn
  have hplay :
      (stage.put turn).play turn.activation (Turn.receive stage.limit answer) =
        (stage.put (turn.receive stage.limit answer).1,
          (turn.receive stage.limit answer).2) :=
    congrArg (·, (turn.receive stage.limit answer).2)
      (put_put hcontinues.id stage)
  have hlimit : (stage.after (turn, .called caller call)).limit = stage.limit :=
    rfl
  simp only [Stage.answer, htask, hself, herased]
  simp only [hlimit, hplay]
  have hsettle := settle_put (turn.receive stage.limit answer) stage
  rw [hcontinues.id] at hsettle
  cases answer with
  | interrupted text => rfl
  | reported report => exact hsettle
  | deferred => exact hsettle
  | failed kind text => exact hsettle

/-- The host answers the calls of an activation that has been put on the
stage. -/
theorem converse_after (host : Call → Answer) (left : Nat) {stage : Stage}
    {ended : Turn × Response} {old : Activation}
    (hstarted : stage.started? ended.1.activation.id = some old)
    (hcaller : ∀ caller call, ended.2 = .called caller call →
      caller = ended.1.activation.id) :
    converse host left (stage.after ended, ended.2) =
      ⟨stage.after (Turn.converse stage.limit host left ended).1,
        (Turn.converse stage.limit host left ended).1.2,
        (Turn.converse stage.limit host left ended).2.map
          (ended.1.activation.id, ·)⟩ := by
  induction left generalizing ended with
  | zero => rfl
  | succ left ih =>
    obtain ⟨turn, response⟩ := ended
    cases response with
    | called caller call =>
      obtain rfl : caller = turn.activation.id := hcaller caller call rfl
      have hcontinues := continues_receive stage.limit (host call) turn
      have hid :
          (answered (host call)
            (turn.receive stage.limit (host call))).1.activation.id =
              turn.activation.id := by
        rw [answered_turn, hcontinues.id]
      have hrest :=
        @ih (answered (host call) (turn.receive stage.limit (host call)))
          (by rw [hid]; exact hstarted) (by
            intro caller next hcalled
            rw [(answered_called hcalled).1, answered_turn])
      rw [hid] at hrest
      simp only [converse, Turn.converse, answer_after hstarted, hrest,
        List.map_cons]
    | _ => rfl

/-- The host resumes an activation: it takes its turns and is put on the
stage. -/
theorem resumeWith_eq (host : Call → Answer) (report : Report) {stage : Stage}
    {id : String} {activation : Activation}
    (hregistered : stage.activation? id = some activation) :
    stage.resumeWith host id report =
      ⟨stage.after (Turn.resumeWith stage.limit host report
        ⟨stage.context, activation⟩).1,
        (Turn.resumeWith stage.limit host report
          ⟨stage.context, activation⟩).1.2,
        (Turn.resumeWith stage.limit host report
          ⟨stage.context, activation⟩).2.map (id, ·)⟩ := by
  have hstarted := started?_of_activation? hregistered
  obtain rfl := started?_id hstarted
  have hcontinues :=
    continues_resume stage.limit report ⟨stage.context, activation⟩
  have hid :
      (reported (Turn.resume stage.limit report
        ⟨stage.context, activation⟩)).1.activation.id = activation.id :=
    hcontinues.id
  have hresume :
      stage.resume activation.id report =
        (stage.after
          (reported (Turn.resume stage.limit report
            ⟨stage.context, activation⟩)),
              (reported (Turn.resume stage.limit report
                ⟨stage.context, activation⟩)).2) := by
    have hsettle :=
      settle_put (Turn.resume stage.limit report ⟨stage.context, activation⟩)
        stage
    rw [hcontinues.id] at hsettle
    simp only [resume, hregistered]
    exact hsettle
  have hrest := @converse_after host stage.limit stage
    (reported (Turn.resume stage.limit report ⟨stage.context, activation⟩))
    activation
    (by rw [hid]; exact hstarted) fun caller call hcalled =>
      (reported_called hcalled).1
  rw [hid] at hrest
  rw [resumeWith, hresume, hrest]
  rfl

end Stage

/-! ## Independence -/

namespace CompiledGraph

/-- A graph changes nothing that another one looks at or changes.  A variable
and a flag of the same name are not the same. -/
def Spares (graph other : CompiledGraph) : Prop :=
  ∀ cell ∈ graph.writes, cell ∉ other.reads ∧ cell ∉ other.writes

instance (graph other : CompiledGraph) : Decidable (graph.Spares other) :=
  inferInstanceAs (Decidable
    (∀ cell ∈ graph.writes, cell ∉ other.reads ∧ cell ∉ other.writes))

/-- Neither of two graphs changes what the other one looks at or changes. -/
structure Independent (graph other : CompiledGraph) : Prop where
  spares : graph.Spares other
  spared : other.Spares graph

theorem Independent.symm {graph other : CompiledGraph}
    (hindependent : graph.Independent other) : other.Independent graph :=
  ⟨hindependent.spared, hindependent.spares⟩

end CompiledGraph

namespace Turn

variable {first second : Turn}

theorem footprint_disjoint (hne : first.activation.id ≠ second.activation.id)
    (hspares : first.activation.graph.Spares second.activation.graph)
    {cell : Cell}
    (hcell : cell ∈ first.footprint) : cell ∉ second.footprint := by
  intro hother
  rcases List.mem_cons.mp hcell with rfl | hwrites
  · rcases List.mem_cons.mp hother with heq | hothers
    · exact hne (Cell.event.inj heq)
    · exact CompiledGraph.event_not_mem_writes _ _ hothers
  · rcases List.mem_cons.mp hother with rfl | hothers
    · exact CompiledGraph.event_not_mem_writes _ _ hwrites
    · exact (hspares cell hwrites).2 hothers

/-- The turns of one activation are no matter to an independent one. -/
theorem parallel_of_spares {activation : Activation} {left right : Context}
    (hspares : second.activation.graph.Spares activation.graph)
    (hagrees : left.AgreesOutside second.footprint right) :
    Parallel second.footprint ⟨left, activation⟩ ⟨right, activation⟩ where
  activation := rfl
  context := hagrees
  apart := by
    intro cell hreads hcell
    rcases List.mem_cons.mp hcell with rfl | hwrites
    · exact CompiledGraph.event_not_mem_reads _ _ hreads
    · exact (hspares cell hwrites).1 hreads

end Turn

/-- Contexts with the same variables, flags and active events, in any order. -/
structure Context.Same (left right : Context) : Prop where
  values : ∀ name, left.getVariable? name = right.getVariable? name
  flags : ∀ name, left.flags.find? name = right.flags.find? name
  activeEvents : ∀ id, id ∈ left.activeEvents ↔ id ∈ right.activeEvents

theorem Context.same_of_holds? {left right : Context}
    (hholds : ∀ cell, left.holds? cell = right.holds? cell) :
    left.Same right where
  values name := getVariable?_congr (hholds (.value name))
  flags name := flags_congr (hholds (.flag name))
  activeEvents id := by
    have hevent := hholds (.event id)
    simp only [holds?] at hevent
    by_cases hleft : id ∈ left.activeEvents <;>
      by_cases hright : id ∈ right.activeEvents <;>
      simp_all

/-- Stages that differ at most in how their contexts are ordered. -/
structure Stage.Same (left right : Stage) : Prop where
  context : left.context.Same right.context
  rest : right = { left with context := right.context }

/-- Two conversations about an activation that take the same course to the end,
with calls of this activation only. -/
structure Conversation.Alike (id : String)
    (left right : Conversation) : Prop where
  response : right.response = left.response
  calls : right.calls = left.calls
  ended : ∀ caller call, left.response ≠ .called caller call
  own : ∀ made ∈ left.calls, made.1 = id

namespace Turn

section Commute

variable (limit : Nat) (host : Call → Answer) (context : Context)
  {first second : Activation}
variable (hne : first.id ≠ second.id)
  (hindependent : first.graph.Independent second.graph)
variable (firstReport secondReport : Report)

include hindependent in
/-- An activation takes the same turns whether an independent one has come first
or not. -/
theorem resumeWith_indifferent :
    SameEnd (footprint ⟨context, second⟩)
        (resumeWith limit host firstReport ⟨context, first⟩).1
        (resumeWith limit host firstReport
          ⟨(resumeWith limit host secondReport ⟨context, second⟩).1.1.context,
            first⟩).1 ∧
      (resumeWith limit host firstReport ⟨context, first⟩).2 =
        (resumeWith limit host firstReport
          ⟨(resumeWith limit host secondReport ⟨context, second⟩).1.1.context,
            first⟩).2 :=
  resumeWith_parallel limit host firstReport
    (parallel_of_spares hindependent.spared
      (resumeWith_frame limit host secondReport ⟨context, second⟩))

include hne hindependent in
/-- Two independent activations leave the same context, whichever comes
first. -/
theorem holds?_resumeWith_comm (cell : Cell) :
    (resumeWith limit host secondReport
        ⟨(resumeWith limit host firstReport ⟨context, first⟩).1.1.context,
          second⟩).1.1.context.holds?
          cell =
      (resumeWith limit host firstReport
        ⟨(resumeWith limit host secondReport ⟨context, second⟩).1.1.context,
          first⟩).1.1.context.holds?
          cell := by
  have hfirst :=
    (resumeWith_indifferent limit host context hindependent firstReport
      secondReport).1.turns.context cell
  have hsecond :=
    (resumeWith_indifferent limit host context hindependent.symm secondReport
      firstReport).1.turns.context cell
  have hbehind := resumeWith_frame limit host firstReport
    ⟨(resumeWith limit host secondReport ⟨context, second⟩).1.1.context, first⟩
    cell
  have hbehind' := resumeWith_frame limit host secondReport
    ⟨(resumeWith limit host firstReport ⟨context, first⟩).1.1.context, second⟩
    cell
  -- The cell is out of reach for one of the two, so that the other one alone
  -- decides.
  by_cases hcell : cell ∈ footprint ⟨context, first⟩
  · have hother : cell ∉ footprint ⟨context, second⟩ :=
      @footprint_disjoint ⟨context, first⟩ ⟨context, second⟩ hne
        hindependent.spares _ hcell
    exact (hbehind' hother).symm.trans (hfirst hother)
  · exact (hsecond hcell).symm.trans (hbehind hcell)

end Commute

end Turn

namespace Stage

open Activation Turn

theorem activation?_eq_some_iff {stage : Stage} {id : String}
    {activation : Activation} :
    stage.activation? id = some activation ↔
      stage.started? id = some activation ∧ id ∉ stage.forgotten := by
  constructor
  · intro hregistered
    refine ⟨started?_of_activation? hregistered, ?_⟩
    have hid : activation.id = id := by simpa using List.find?_some hregistered
    have hkept := (List.mem_filter.mp (List.mem_of_find?_eq_some hregistered)).2
    simpa [hid] using hkept
  · rintro ⟨hstarted, hkept⟩
    rw [activation?, registered, List.find?_filter, ← hstarted, started?]
    congr 1
    funext other
    by_cases hother : other.id = id
    · simp [hother, hkept]
    · simp [hother]

/-- The turns of an activation are no matter to the search for another one. -/
theorem activation?_put_other {stage : Stage} {turn : Turn} {id : String}
    (hne : id ≠ turn.activation.id) :
    (stage.put turn).activation? id = stage.activation? id := by
  apply Option.ext
  intro activation
  rw [activation?_eq_some_iff, activation?_eq_some_iff]
  have hstarted : (stage.put turn).started? id = stage.started? id := by
    have hreplaced := started?_replace stage turn.activation id
    rw [if_neg hne] at hreplaced
    exact hreplaced
  have hforgotten : (stage.put turn).forgotten = stage.forgotten := rfl
  rw [hstarted, hforgotten]

theorem after_of_over {ended : Turn × Response} (stage : Stage)
    (hover : ∀ caller call, ended.2 ≠ .called caller call) :
    stage.after ended = stage.put ended.1 := by
  obtain ⟨turn, response⟩ := ended
  cases response with
  | called caller call => exact absurd rfl (hover caller call)
  | _ => rfl

section Commute

variable {stage : Stage} (hreachable : stage.Reachable) (host : Call → Answer)
variable (report : Report) {id : String} {activation : Activation}
variable (hregistered : stage.activation? id = some activation)

include hreachable hregistered

/-- The host is done with the calls of an activation. -/
theorem Reachable.resumeWith_over (caller : String) (call : Call) :
    (Turn.resumeWith stage.limit host report ⟨stage.context, activation⟩).1.2 ≠
      .called caller call := by
  have hmem := mem_of_activation? hregistered
  have htravels := (hreachable.travels hmem).1
  have hsteps := hreachable.visited_size_le hmem
  rw [← htravels.steps] at hsteps
  exact @Turn.resumeWith_ends stage.limit host report
    ⟨stage.context, activation⟩ htravels hsteps caller call

theorem Reachable.resumeWith_eq_put :
    stage.resumeWith host id report =
      ⟨stage.put (Turn.resumeWith stage.limit host report
        ⟨stage.context, activation⟩).1.1,
        (Turn.resumeWith stage.limit host report
          ⟨stage.context, activation⟩).1.2,
        (Turn.resumeWith stage.limit host report
          ⟨stage.context, activation⟩).2.map (id, ·)⟩ := by
  rw [resumeWith_eq host report hregistered,
    after_of_over _ (hreachable.resumeWith_over host report hregistered)]

omit hreachable hregistered in
/-- An activation is resumed after an independent one has been, as it would have
been without. -/
theorem Reachable.resumeWith_behind (hreachable : stage.Reachable)
    {first second : Activation} {firstId secondId : String}
    (hfirst : stage.activation? firstId = some first)
    (hsecond : stage.activation? secondId = some second)
    (hne : firstId ≠ secondId)
    (hindependent : first.graph.Independent second.graph)
    (firstReport secondReport : Report) :
    (stage.resumeWith host secondId secondReport).stage.resumeWith host firstId
      firstReport =
      ⟨(stage.resumeWith host secondId secondReport).stage.put
          (Turn.resumeWith stage.limit host firstReport
            ⟨(Turn.resumeWith stage.limit host secondReport
              ⟨stage.context, second⟩).1.1.context, first⟩).1.1,
        (Turn.resumeWith stage.limit host firstReport
          ⟨stage.context, first⟩).1.2,
        (Turn.resumeWith stage.limit host firstReport
          ⟨stage.context, first⟩).2.map
          (firstId, ·)⟩ := by
  have hsame :=
    Turn.resumeWith_indifferent stage.limit host stage.context hindependent
      firstReport secondReport
  have hover := hreachable.resumeWith_over host firstReport hfirst
  rw [hsame.1.result] at hover
  have hid : (Turn.resumeWith stage.limit host secondReport
      ⟨stage.context, second⟩).1.1.activation.id = secondId :=
    (Turn.resumeWith_continues stage.limit host secondReport
      ⟨stage.context, second⟩).id.trans
      (started?_id (started?_of_activation? hsecond))
  have hstill :
      (stage.resumeWith host secondId secondReport).stage.activation? firstId =
        some first := by
    rw [hreachable.resumeWith_eq_put host secondReport hsecond]
    exact (activation?_put_other (hid.symm ▸ hne)).trans hfirst
  rw [resumeWith_eq host firstReport hstill,
    hreachable.resumeWith_eq_put host secondReport hsecond, hsame.1.result,
    hsame.2]
  exact congrArg (Conversation.mk · _ _) (after_of_over _ hover)

omit hreachable hregistered in
theorem Reachable.alike_behind (hreachable : stage.Reachable)
    {first second : Activation} {firstId secondId : String}
    (hfirst : stage.activation? firstId = some first)
    (hsecond : stage.activation? secondId = some second)
    (hne : firstId ≠ secondId)
    (hindependent : first.graph.Independent second.graph)
    (firstReport secondReport : Report) :
    (stage.resumeWith host firstId firstReport).Alike firstId
      ((stage.resumeWith host secondId secondReport).stage.resumeWith host
        firstId firstReport) := by
  rw [hreachable.resumeWith_behind host hfirst hsecond hne hindependent,
    hreachable.resumeWith_eq_put host firstReport hfirst]
  refine ⟨rfl, rfl, hreachable.resumeWith_over host firstReport hfirst, ?_⟩
  intro made hmem
  obtain ⟨call, -, rfl⟩ := List.mem_map.mp hmem
  rfl

end Commute

/-- Two independent activations may be resumed in either order: each takes the
same course, and the stage ends up the same. -/
theorem resumes_commute {stage : Stage} (hreachable : stage.Reachable)
    {firstId secondId : String} {first second : Activation}
    (hfirst : stage.activation? firstId = some first)
    (hsecond : stage.activation? secondId = some second)
      (hne : firstId ≠ secondId)
    (hindependent : first.graph.Independent second.graph) (host : Call → Answer)
    (firstReport secondReport : Report) :
    let ahead := stage.resumeWith host firstId firstReport
    let ahead' := stage.resumeWith host secondId secondReport
    let behind := ahead'.stage.resumeWith host firstId firstReport
    let behind' := ahead.stage.resumeWith host secondId secondReport
    behind'.stage.Same behind.stage ∧
      ahead.Alike firstId behind ∧ ahead'.Alike secondId behind' := by
  intro ahead ahead' behind behind'
  refine ⟨?_, hreachable.alike_behind host hfirst hsecond hne hindependent _ _,
    hreachable.alike_behind host hsecond hfirst hne.symm hindependent.symm _ _⟩
  have hbehind : behind.stage = _ := congrArg Conversation.stage
    (hreachable.resumeWith_behind host hfirst hsecond hne hindependent
      firstReport secondReport)
  have hbehind' : behind'.stage = _ := congrArg Conversation.stage
    (hreachable.resumeWith_behind host hsecond hfirst hne.symm hindependent.symm
      secondReport firstReport)
  have hfirstId := started?_id (started?_of_activation? hfirst)
  have hsecondId := started?_id (started?_of_activation? hsecond)
  have hids : first.id ≠ second.id := by rwa [hfirstId, hsecondId]
  rw [hbehind, hbehind', hreachable.resumeWith_eq_put host firstReport hfirst,
    hreachable.resumeWith_eq_put host secondReport hsecond]
  constructor
  case context =>
    exact Context.same_of_holds? fun cell =>
      Turn.holds?_resumeWith_comm stage.limit host stage.context hids
        hindependent _ _ cell
  case rest =>
    have hturns :=
      (Turn.resumeWith_indifferent stage.limit host stage.context hindependent
        firstReport secondReport).1.turns.activation
    have hturns' :=
      (Turn.resumeWith_indifferent stage.limit host stage.context
        hindependent.symm secondReport firstReport).1.turns.activation
    have hcontinues :=
      Turn.resumeWith_continues stage.limit host firstReport
        ⟨stage.context, first⟩
    have hcontinues' :=
      Turn.resumeWith_continues stage.limit host secondReport
        ⟨stage.context, second⟩
    exact put_comm hturns hturns'
      (by rw [hcontinues.id, hcontinues'.id]; exact hids) stage

/-! ## A market and a bell -/

/-- A trigger that leads to an offer, the payment of two coins, and thanks. -/
def market : CompiledGraph :=
  ⟨"market", "", some "entry", [⟨"entry", "player_enter", "always"⟩],
    ⟨[("entry", ⟨.trigger, .empty, [["offer"]]⟩),
      ("offer", ⟨.dialogue, ⟨[("text", .str "Two coins!")], by decide⟩,
        [["pay"]]⟩),
      ("pay",
        ⟨.action,
          ⟨[("actionType", .str "increment_variable"), ("target", .str "coins"),
            ("value", .int 2)], by decide⟩, [["thanks"]]⟩),
      ("thanks", ⟨.dialogue, ⟨[("text", .str "Thanks!")], by decide⟩, [[]]⟩)],
      by decide⟩,
    ambush.metadata⟩

/-- A trigger that leads to an invitation, and to a bell that rings once. -/
def bell : CompiledGraph :=
  ⟨"bell", "", some "entry", [⟨"entry", "player_enter", "always"⟩],
    ⟨[("entry", ⟨.trigger, .empty, [["invite"]]⟩),
      ("invite", ⟨.dialogue, ⟨[("text", .str "Ring it!")], by decide⟩,
        [["still"]]⟩),
      ("still", ⟨.condition,
        ⟨[("conditionType", .str "flag"), ("key", .str "rung"),
          ("operator", .str "falsy")], by decide⟩, [["ring"], []]⟩),
      ("ring",
        ⟨.action, ⟨[("actionType", .str "set_flag"), ("target", .str "rung")],
          by decide⟩, [[]]⟩)],
      by decide⟩,
    ambush.metadata⟩

/-- Both of them wait for the player. -/
def square : Stage :=
  (session [.activate market none, .answer "act_1" .deferred,
    .activate bell none, .answer "act_2" .deferred]
      (initial 256 ">=1.0" .empty)).1

/-- The host has nothing to say. -/
def silent : Call → Answer := fun _ => .reported (.value .null)

theorem market_and_bell_commute :
    (square.activations.map Activation.state = [.suspended, .suspended] ∧
      market.Spares bell ∧ bell.Spares market) ∧
    ((square.resumeWith silent "act_1" (.value .null)).stage.resumeWith
        silent "act_2" (.value .null)).stage.Same
      ((square.resumeWith silent "act_2" (.value .null)).stage.resumeWith
        silent "act_1" (.value .null)).stage ∧
    ((square.resumeWith silent "act_2" (.value .null)).stage.resumeWith
        silent "act_1" (.value .null)).calls =
      [("act_1", .presentDialogue ⟨"NPC", "Thanks!", ""⟩)] := by
  have hindependent : market.Independent bell :=
    ⟨by decide +kernel, by decide +kernel⟩
  have hreachable : square.Reachable := ⟨256, ">=1.0", .empty, _, rfl⟩
  have hfirst :
      square.activation? "act_1" = some ⟨"act_1", market, "entry", .suspended,
        some "offer", 2, #["entry", "offer"]⟩ := by
    decide +kernel
  have hsecond :
      square.activation? "act_2" = some ⟨"act_2", bell, "entry", .suspended,
        some "invite", 2, #["entry", "invite"]⟩ := by
    decide +kernel
  obtain ⟨hsame, halike, -⟩ :=
    resumes_commute hreachable hfirst hsecond (by decide) hindependent
      silent (.value .null) (.value .null)
  refine ⟨⟨by decide +kernel, hindependent.spares, hindependent.spared⟩, hsame,
    ?_⟩
  rw [halike.calls]
  decide +kernel

end Stage

end StoryGraph
