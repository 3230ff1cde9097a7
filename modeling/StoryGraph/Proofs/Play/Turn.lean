import StoryGraph.Proofs.Play.Response

/-!
# How turns end

When a turn ends with a call of the host, the activation is running and its last
visited node is a node of its graph; when it ends without one, the activation is
over, or the turn has left it as it was.
-/

namespace StoryGraph

namespace Turn

open Activation

theorem Responds.ended {limit : Nat} {turn later : Turn} {prompt : Prompt}
    {call? : Option Call} (hresponds : Responds limit turn prompt later call?)
    (hended : turn.activation.isLive = false) :
    later.activation.isLive = false := by
  cases hresponds with
  | ignored => exact hended
  | continued hacts => cases hended.symm.trans hacts.isLive
  | suspended hlive => cases hended.symm.trans hlive
  | _ => rfl

theorem cancel_ended (turn : Turn) : turn.cancel.activation.isLive = false := by
  unfold cancel
  split
  · rfl
  · next hended => exact eq_false_of_ne_true hended

/-- The end of a turn that has gone on: a call, or the end of the activation. -/
def Rests (turn : Turn) : Option Call → Prop
  | some _ => turn.activation.IsCalling
  | none => turn.activation.isLive = false

theorem Rests.not_suspended {turn : Turn} {call? : Option Call}
    (hrests : turn.Rests call?) : turn.activation.state ≠ .suspended := by
  intro hsuspended
  cases call? with
  | some call => cases hsuspended.symm.trans hrests.1
  | none =>
    have hended : turn.activation.isLive = false := hrests
    simp [isLive, hsuspended, ActivationState.isLive] at hended

theorem Walks.rests {limit : Nat} {turn later : Turn} {nodeId : String}
    {call? : Option Call}
    (hwalks : Walks limit turn nodeId later call?) : later.Rests call? := by
  induction hwalks with
  | missing => rfl
  | exhausted => rfl
  | ended _ _ hvisited => cases hvisited <;> rfl
  | called hnode _ hrunning hvisited =>
    cases hvisited with
    | called => exact ⟨hrunning, _, _, rfl, hnode⟩
  | followed _ _ _ _ ih => exact ih

theorem Walks.calling {limit : Nat} {turn later : Turn} {nodeId : String}
    {call? : Option Call} {call : Call}
    (hwalks : Walks limit turn nodeId later call?) (hcall : call? = some call) :
    later.activation.IsCalling := by
  subst hcall
  exact hwalks.rests

theorem continueAt_rests (limit : Nat) (nodeId : String) (turn : Turn) :
    (turn.continueAt limit nodeId).1.Rests (turn.continueAt limit nodeId).2 :=
  (continueAt_walks limit nodeId turn).rests

section Rests

variable {limit : Nat} {turn later : Turn} {prompt : Prompt}
  {call? : Option Call}

/-- An activation goes on with everything on which it acts, unless this suspends
it. -/
theorem Responds.rests (hresponds : Responds limit turn prompt later call?)
    (hacts : turn.ActsOn prompt) (hprompt : prompt ≠ .answer .deferred) :
    later.Rests call? := by
  cases hresponds with
  | ignored hignores => exact absurd hacts hignores
  | continued _ _ _ _ _ hwalks => exact hwalks.rests
  | suspended => exact absurd rfl hprompt
  | _ => rfl

/-- A call leaves the activation calling. -/
theorem Responds.calling {call : Call}
    (hresponds : Responds limit turn prompt later call?)
    (hcall : call? = some call) : later.activation.IsCalling := by
  subst hcall
  cases hresponds with
  | continued _ _ _ _ _ hwalks => exact hwalks.rests

/-- Only a deferral suspends an activation. -/
theorem Responds.of_suspended
    (hresponds : Responds limit turn prompt later call?)
    (hbefore : turn.activation.state ≠ .suspended)
    (hsuspended : later.activation.state = .suspended) :
    prompt = .answer .deferred ∧
      later.activation = turn.activation.withState .suspended := by
  cases hresponds with
  | ignored => exact absurd hsuspended hbefore
  | continued _ _ _ _ _ hwalks =>
    exact absurd hsuspended hwalks.rests.not_suspended
  | suspended => exact ⟨rfl, rfl⟩
  | _ => cases hsuspended

end Rests

/-- A resumed activation goes on only if it was suspended. -/
theorem resume_rests (limit : Nat) (report : Report) (turn : Turn)
    (hsuspended : turn.activation.state = .suspended) :
    (turn.resume limit report).1.Rests (turn.resume limit report).2 :=
  (resume_responds limit turn report).rests hsuspended (by simp)

/-- An activation is not suspended any more after a report. -/
theorem resume_not_suspended (limit : Nat) (report : Report) (turn : Turn) :
    (turn.resume limit report).1.activation.state ≠ .suspended := by
  by_cases hsuspended : turn.activation.state = .suspended
  · exact (resume_rests limit report turn hsuspended).not_suspended
  · rw [resume_of_not_suspended limit report hsuspended]
    exact hsuspended

/-- A suspended activation goes on with the report, from the node where it
stands. -/
theorem resume_of_suspended (limit : Nat) (report : Report) {turn : Turn}
    {nodeId : String} {node : CompiledNode}
    (hsuspended : turn.activation.state = .suspended)
    (hstands : turn.activation.StandsAt nodeId node) :
    turn.resume limit report =
      match report.port node.kind with
      | .rejected issues => (turn.abort nodeId (.invalidReport issues), none)
      | .accepted port => turn.follow limit node port := by
  have hcurrent := current?_eq_some.mpr hstands
  cases hport : report.port node.kind with
  | rejected issues => simp [resume, hsuspended, hcurrent, hport]
  | accepted port => simp [resume, hsuspended, hcurrent, hport]

/-- An activation that is calling goes on with the answer, from the node where
it stands. -/
theorem receive_of_calling (limit : Nat) (answer : Answer) {turn : Turn}
    {nodeId : String} {node : CompiledNode}
    (hrunning : turn.activation.state = .running)
    (hstands : turn.activation.StandsAt nodeId node) :
    turn.receive limit answer =
      match answer with
      | .reported report =>
        match report.port node.kind with
        | .rejected issues => (turn.abort nodeId (.invalidReport issues), none)
        | .accepted port => turn.follow limit node port
      | .deferred =>
        ({ turn with activation := turn.activation.withState .suspended }, none)
      | .failed kind text => (turn.abort nodeId (.host kind text), none)
      | .interrupted _ => (turn.finish .cancelled, none) := by
  have hlive : turn.activation.isLive = true := by
    rw [isLive, hrunning]
    rfl
  have hcurrent := current?_eq_some.mpr hstands
  cases answer with
  | reported report =>
    cases hport : report.port node.kind with
    | rejected issues => simp [receive, hcurrent, hport]
    | accepted port => simp [receive, hcurrent, hport, hlive]
  | deferred => simp [receive, hcurrent, hlive]
  | failed kind text => simp [receive, hcurrent, hlive]
  | interrupted text => simp [receive, hcurrent, cancel, hlive]

/-- Nothing follows the answer that the task was cancelled. -/
theorem receive_interrupted_call (limit : Nat) (text : String) (turn : Turn) :
    (turn.receive limit (.interrupted text)).2 = none := by
  unfold receive
  split <;> rfl

/-- Every answer but a deferral lets the turn of a calling activation go on. -/
theorem receive_rests (limit : Nat) {answer : Answer} {turn : Turn}
    (hcalling : turn.activation.IsCalling) (hanswer : answer ≠ .deferred) :
    (turn.receive limit answer).1.Rests (turn.receive limit answer).2 := by
  have hlive : turn.activation.isLive = true := by
    rw [isLive, hcalling.1]
    rfl
  exact (receive_responds limit turn answer).rests hlive
    (by simpa using hanswer)

/-- Between its turns, an activation waits for an answer to its call, waits for
a report at the node where it stands, or has ended. -/
def Pauses (turn : Turn) (call? : Option Call) : Prop :=
  turn.Rests call? ∨
    (call? = none ∧ turn.activation.state = .suspended ∧
      ∃ nodeId node, turn.activation.StandsAt nodeId node)

theorem Pauses.calling {turn : Turn} {call : Call}
    (hpauses : turn.Pauses (some call)) : turn.activation.IsCalling := by
  rcases hpauses with hrests | ⟨hcall, -⟩
  · exact hrests
  · cases hcall

theorem Pauses.not_running {turn : Turn} (hpauses : turn.Pauses none) :
    turn.activation.state ≠ .running := by
  intro hrunning
  rcases hpauses with hended | ⟨-, hsuspended, -⟩
  · have hended : turn.activation.isLive = false := hended
    simp [isLive, hrunning, ActivationState.isLive] at hended
  · cases hrunning.symm.trans hsuspended

theorem Pauses.suspended {turn : Turn} {call? : Option Call}
    (hpauses : turn.Pauses call?)
    (hsuspended : turn.activation.state = .suspended) :
    call? = none ∧ ∃ nodeId node, turn.activation.StandsAt nodeId node := by
  rcases hpauses with hrests | ⟨hcall, -, hstands⟩
  · exact absurd hsuspended hrests.not_suspended
  · exact ⟨hcall, hstands⟩

theorem receive_pauses (limit : Nat) (answer : Answer) {turn : Turn}
    (hcalling : turn.activation.IsCalling) :
    (turn.receive limit answer).1.Pauses (turn.receive limit answer).2 := by
  by_cases hdeferred : answer = .deferred
  · obtain ⟨hrunning, nodeId, node, hstands⟩ := hcalling
    rw [hdeferred, receive_of_calling _ _ hrunning hstands]
    exact .inr ⟨rfl, rfl, nodeId, node, hstands⟩
  · exact .inl (receive_rests limit hcalling hdeferred)

end Turn

end StoryGraph
