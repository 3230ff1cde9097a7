import StoryGraph.Proofs.Play.Session
import StoryGraph.Proofs.Play.Visit

/-!
# Who has called

Some nodes call the host whenever they are visited.  A turn that ends in a call
leaves its activation running at such a node, and a response that makes a call
names this activation, whose task waits for the answer.
-/

namespace StoryGraph

/-- The record calls the host, whatever the context is. -/
theorem Properties.visit_call {properties : Properties}
    {context after : Context} {call : Call}
    (hvisit : properties.visit context = .ok (.call call, after))
    (other : Context) : properties.visit other = .ok (.call call, other) := by
  cases properties with
  | trigger properties =>
    simp only [visit] at hvisit
    split at hvisit
    · split at hvisit <;> cases hvisit
    · cases hvisit
  | condition properties =>
    simp only [visit] at hvisit
    split at hvisit <;> cases hvisit
  | action properties =>
    simp only [visit] at hvisit ⊢
    split at hvisit
    · cases hvisit
    · next change _ =>
      cases hchange : properties.change change context with
      | ok changed => simp [hchange, Except.map] at hvisit
      | error failure => simp [hchange, Except.map] at hvisit
    · cases hvisit
      rfl
  | dialogue properties => cases hvisit; rfl
  | encounter properties => cases hvisit; rfl
  | teleport properties => cases hvisit; rfl

/-- Every visit of the node makes the call. -/
def CompiledNode.Makes (node : CompiledNode) (call : Call) : Prop :=
  ∀ context, node.visit context = .ok (.call call, context)

theorem CompiledNode.makes_of_visit {node : CompiledNode}
    {context after : Context} {call : Call}
    (hvisit : node.visit context = .ok (.call call, after)) :
    node.Makes call := by
  intro other
  rw [visit] at hvisit ⊢
  split at hvisit
  · exact Properties.visit_call hvisit other
  · cases hvisit

namespace Activation

/-- The activation stands at a node of its graph that makes the call. -/
def StandsByCall (activation : Activation) (call : Call) : Prop :=
  ∃ nodeId node, activation.StandsAt nodeId node ∧ node.Makes call

/-- The activation has made the call and is running. -/
structure HasCalled (activation : Activation) (call : Call) : Prop where
  running : activation.state = .running
  stands : activation.StandsByCall call

theorem StandsByCall.withState {activation : Activation} {call : Call}
    (hstands : activation.StandsByCall call) (state : ActivationState) :
    (activation.withState state).StandsByCall call := hstands

end Activation

/-! ## Turns that end in a call -/

namespace Turn

open Activation

section Turns

variable {limit : Nat} {turn later : Turn} {call? : Option Call} {call : Call}

theorem Walks.hasCalled {nodeId : String}
    (hwalks : Walks limit turn nodeId later call?) (hcall : call? = some call) :
    later.activation.HasCalled call := by
  induction hwalks with
  | missing => cases hcall
  | exhausted => cases hcall
  | ended => cases hcall
  | called hnode _ hrunning hvisited =>
    cases hcall
    cases hvisited with
    | called hvisit =>
      exact ⟨hrunning, _, _, ⟨rfl, hnode⟩, CompiledNode.makes_of_visit hvisit⟩
  | followed _ _ _ _ ih => exact ih hcall

theorem Responds.hasCalled {prompt : Prompt}
    (hresponds : Responds limit turn prompt later call?)
    (hcall : call? = some call) : later.activation.HasCalled call := by
  cases hresponds with
  | continued _ _ _ _ _ hwalks => exact hwalks.hasCalled hcall
  | _ => cases hcall

end Turns

end Turn

/-! ## Responses that make a call -/

namespace Stage

open Activation

/-- If the response makes a call, its activation has made it on the stage. -/
def Backs (stage : Stage) (response : Response) : Prop :=
  ∀ id call, response = .called id call →
    ∃ activation, stage.started? id = some activation ∧
      activation.HasCalled call

theorem backs_of_call?_eq_none {stage : Stage} {response : Response}
    (hnone : ∀ id call, response ≠ .called id call) : stage.Backs response :=
  fun id call hcalled => absurd hcalled (hnone id call)

theorem started?_keep (firing? : Option Firing) (id : String)
    (call? : Option Call) (stage : Stage) :
    (stage.keep firing? id call?).started? = stage.started? := by
  cases call? <;> rfl

theorem started?_play {stage : Stage} {activation : Activation}
    {turn : Turn → Turn × Option Call}
    (hstarted : stage.started? activation.id = some activation)
    (hcontinues : activation.Continues
      (turn ⟨stage.context, activation⟩).1.activation) :
    (stage.play activation turn).1.started? activation.id =
      some (turn ⟨stage.context, activation⟩).1.activation := by
  have hself := started?_advance_self none hstarted hcontinues
  rwa [advance, started?_keep] at hself

theorem Orderly.start_hasCalled {stage later : Stage} (horderly : stage.Orderly)
    {graph : CompiledGraph} {entry : Option String} {id : String} {call : Call}
    (hstart : stage.start graph entry = .ok (later, id, some call)) :
    ∃ activation, later.started? id = some activation ∧
      activation.HasCalled call := by
  obtain ⟨nodeId, -, hplay, rfl⟩ := start_eq_ok hstart
  have hfresh :
      (stage.enroll graph nodeId).1.started? (stage.enroll graph nodeId).2.id =
        some (stage.enroll graph nodeId).2 := by
    rw [started?_enroll, horderly.started?_enroll_id, if_pos rfl,
      Option.none_or]
  have hstarted :=
    started?_play hfresh (Turn.continues_continueAt stage.limit nodeId ⟨_, _⟩)
  rw [hplay] at hstarted
  have hcall := congrArg Prod.snd hplay
  exact ⟨_, hstarted, (Turn.continueAt_walks _ _ _).hasCalled hcall⟩

theorem Orderly.begins {stage later : Stage} (horderly : stage.Orderly)
    (hbegins : Begins stage later) : later.Orderly :=
  horderly.advances (.begins hbegins)

theorem Orderly.fireAll_backs (graph : CompiledGraph) {left : List Entrypoint}
    {started : List String} {stage : Stage} (horderly : stage.Orderly) :
    (stage.fireAll graph left started).1.Backs
      (stage.fireAll graph left started).2 := by
  induction left generalizing started stage with
  | nil => exact backs_of_call?_eq_none (by simp [fireAll])
  | cons entry left ih =>
    rw [fireAll]
    split
    · exact backs_of_call?_eq_none (by simp)
    · next hstart =>
      intro id call hcalled
      cases hcalled
      obtain ⟨activation, hstarted, hcall⟩ := horderly.start_hasCalled hstart
      exact ⟨activation, hstarted, hcall⟩
    · next hstart => exact ih (horderly.begins (start_begins none hstart))

theorem settle_backs {stage : Stage} {firing? : Option Firing} {id : String}
    {call? : Option Call} (horderly : (stage.keep firing? id call?).Orderly)
    (hcall : ∀ call, call? = some call → ∃ activation,
      stage.started? id = some activation ∧ activation.HasCalled call) :
    (stage.settle firing? id call?).1.Backs
      (stage.settle firing? id call?).2 := by
  cases call? with
  | some call =>
    intro other made hcalled
    cases hcalled
    exact hcall call rfl
  | none =>
    cases firing? with
    | none => exact backs_of_call?_eq_none (by simp [settle])
    | some firing => exact Orderly.fireAll_backs _ horderly

/-- A call that ends an event has been made by the activation that it names. -/
theorem Orderly.step_backs {stage : Stage} (horderly : stage.Orderly)
    (event : Event) : (stage.step event).1.Backs (stage.step event).2 := by
  cases event with
  | activate graph entry =>
    simp only [step, activate]
    split
    · exact backs_of_call?_eq_none (by simp)
    · next hstart =>
      apply settle_backs (horderly.begins (start_begins none hstart))
      rintro call rfl
      exact horderly.start_hasCalled hstart
  | fire graph triggerType =>
    simp only [step, fire]
    split
    · exact backs_of_call?_eq_none (by simp)
    · exact horderly.fireAll_backs graph
  | resume id report =>
    simp only [step, resume]
    split
    · exact backs_of_call?_eq_none (by simp)
    · next activation hregistered =>
      have hstarted := started?_of_activation? hregistered
      have hid := started?_id hstarted
      have hafter := horderly.resumes report hregistered
      rw [Stage.advance, hid] at hafter
      apply settle_backs hafter
      intro call hcall
      rw [← hid] at hstarted ⊢
      exact ⟨_, started?_play hstarted (Turn.continues_resume _ _ ⟨_, _⟩),
        (Turn.resume_responds _ _ _).hasCalled hcall⟩
  | cancel id =>
    simp only [step, cancel]
    split <;> exact backs_of_call?_eq_none (by simp)
  | prune => exact backs_of_call?_eq_none (by simp [step, prune])
  | answer id answer =>
    simp only [step, Stage.answer]
    split
    · next task activation htask hstarted =>
      have hid := started?_id hstarted
      have hafter := horderly.receives answer htask hstarted
      rw [Stage.advance, hid] at hafter
      split
      · exact backs_of_call?_eq_none (by simp)
      · apply settle_backs hafter
        intro call hcall
        rw [← hid] at hstarted ⊢
        exact ⟨_, started?_play hstarted (Turn.continues_receive _ _ ⟨_, _⟩),
          (Turn.receive_responds _ _ _).hasCalled hcall⟩
    · exact backs_of_call?_eq_none (by simp)
  | write context => exact backs_of_call?_eq_none (by simp [step])

end Stage

end StoryGraph
