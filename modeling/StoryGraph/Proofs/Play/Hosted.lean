import StoryGraph.Proofs.Play.Effect
import StoryGraph.Proofs.Play.Postponed
import StoryGraph.Proofs.Play.Walk

/-!
# An activation and its host

While an activation is under way the host answers its calls and sends it
reports.  On a stage with nothing else these moves are turns of the activation,
and when it is over they change nothing any more.
-/

namespace StoryGraph

/-- A move of the host as an event on the stage of an activation. -/
def HostMove.event (id : String) : HostMove → Event
  | .answer given => .answer id given
  | .resume report => .resume id report

namespace Turn

/-! ## Moves of the host -/

/-- What an activation comes to after a move of the host, with the call that is
open then.  Without an open call there is nothing to answer, and a report is
only heard while the activation is suspended. -/
def heed (limit : Nat) (move : HostMove)
    (standing : Turn × Option Call) : Turn × Option Call :=
  match move, standing.2 with
  | .answer answer, some _ => standing.1.receive limit answer
  | .answer _, none => standing
  | .resume report, _ =>
    if standing.1.activation.state = .suspended then
      standing.1.resume limit report
    else standing

/-- The response to a move of the host, given the call that is open
afterwards. -/
def response (move : HostMove) (standing : Turn × Option Call)
    (call? : Option Call) : Response :=
  match move, standing.2 with
  | .answer (.interrupted text), some _ => .interrupted text
  | .answer _, some _ => Stage.respond standing.1.activation.id call?
  | .answer _, none => .unknownActivation standing.1.activation.id
  | .resume _, _ =>
    if standing.1.activation.state = .suspended then
      Stage.respond standing.1.activation.id call?
    else .returned [standing.1.activation.id]

/-- What an activation comes to after some moves of the host, and the
responses. -/
def heedAll (limit : Nat) : List HostMove → Turn × Option Call →
    (Turn × Option Call) × List Response
  | [], standing => (standing, [])
  | move :: moves, standing =>
    let next := heed limit move standing
    let (last, responses) := heedAll limit moves next
    (last, response move standing next.2 :: responses)

section Heed

variable {standing : Turn × Option Call} (move : HostMove)

theorem heed_continues (limit : Nat) (standing : Turn × Option Call) :
    standing.1.activation.Continues
      (heed limit move standing).1.activation := by
  unfold heed
  split
  · exact continues_receive _ _ _
  · exact .refl _
  · split
    · exact continues_resume _ _ _
    · exact .refl _

theorem heed_visited (limit : Nat) (standing : Turn × Option Call) :
    ∃ rest, (heed limit move standing).1.activation.visited.toList =
      standing.1.activation.visited.toList ++ rest := by
  unfold heed
  split
  · obtain ⟨fresh, hperforms⟩ := (receive_responds limit standing.1 _).performs
    exact ⟨fresh, hperforms.visited⟩
  · exact ⟨[], (List.append_nil _).symm⟩
  · split
    · obtain ⟨fresh, hperforms⟩ := (resume_responds limit standing.1 _).performs
      exact ⟨fresh, hperforms.visited⟩
    · exact ⟨[], (List.append_nil _).symm⟩

theorem heed_pauses (limit : Nat) (hpauses : standing.1.Pauses standing.2) :
    (heed limit move standing).1.Pauses (heed limit move standing).2 := by
  unfold heed
  split
  · next hcall =>
    rw [hcall] at hpauses
    exact receive_pauses limit _ hpauses.calling
  · exact hpauses
  · split
    · next hsuspended => exact .inl (resume_rests limit _ _ hsuspended)
    · exact hpauses

/-- Nothing happens any more when an activation neither calls nor is
suspended. -/
theorem heed_of_over (limit : Nat) (hcall : standing.2 = none)
    (hstate : standing.1.activation.state ≠ .suspended) :
    heed limit move standing = standing := by
  unfold heed
  rw [hcall]
  cases move with
  | answer answer => rfl
  | resume report => exact if_neg hstate

end Heed

section HeedAll

variable {standing : Turn × Option Call}

theorem heedAll_cons (limit : Nat) (move : HostMove) (moves : List HostMove)
    (standing : Turn × Option Call) :
    heedAll limit (move :: moves) standing =
      ((heedAll limit moves (heed limit move standing)).1,
        response move standing (heed limit move standing).2 ::
          (heedAll limit moves (heed limit move standing)).2) := rfl

theorem heedAll_continues (limit : Nat) (moves : List HostMove)
    (standing : Turn × Option Call) :
    standing.1.activation.Continues
      (heedAll limit moves standing).1.1.activation := by
  induction moves generalizing standing with
  | nil => exact .refl _
  | cons move moves ih =>
    exact (heed_continues move limit standing).trans (ih _)

theorem heedAll_visited (limit : Nat) (moves : List HostMove)
    (standing : Turn × Option Call) :
    ∃ rest, (heedAll limit moves standing).1.1.activation.visited.toList =
      standing.1.activation.visited.toList ++ rest := by
  induction moves generalizing standing with
  | nil => exact ⟨[], (List.append_nil _).symm⟩
  | cons move moves ih =>
    obtain ⟨first, hfirst⟩ := heed_visited move limit standing
    obtain ⟨rest, hrest⟩ := ih (heed limit move standing)
    rw [hfirst, List.append_assoc] at hrest
    exact ⟨_, hrest⟩

theorem heedAll_pauses (limit : Nat) (moves : List HostMove)
    (hpauses : standing.1.Pauses standing.2) :
    (heedAll limit moves standing).1.1.Pauses
      (heedAll limit moves standing).1.2 := by
  induction moves generalizing standing with
  | nil => exact hpauses
  | cons move moves ih => exact ih (heed_pauses move limit hpauses)

/-- When an activation is over, no move of the host changes it or lets it
call. -/
theorem heedAll_of_over (limit : Nat) (moves : List HostMove)
    (hcall : standing.2 = none)
    (hstate : standing.1.activation.state ≠ .suspended) :
    (heedAll limit moves standing).1 = standing ∧
      Stage.calls (heedAll limit moves standing).2 = [] := by
  induction moves with
  | nil => exact ⟨rfl, rfl⟩
  | cons move moves ih =>
    have hresponse : (response move standing standing.2).call? = none := by
      unfold response
      rw [hcall]
      cases move with
      | answer answer => cases answer <;> rfl
      | resume report =>
        simp only [if_neg hstate]
        rfl
    rw [heedAll_cons, heed_of_over move limit hcall hstate]
    refine ⟨ih.1, ?_⟩
    rw [Stage.calls_cons, hresponse, ih.2]
    rfl

end HeedAll

end Turn

namespace Stage

open Turn

/-! ## On a stage -/

section Solo

variable {limit : Nat} {supported : String} {standing : Turn × Option Call}

theorem step_heed (move : HostMove) (hpauses : standing.1.Pauses standing.2) :
    (solo limit supported standing.1 standing.2).step
      (move.event standing.1.activation.id) =
      (solo limit supported (heed limit move standing).1
        (heed limit move standing).2,
        response move standing (heed limit move standing).2) := by
  obtain ⟨turn, call?⟩ := standing
  cases move with
  | answer answer =>
    cases call? with
    | none =>
      refine (step_answer_solo_none _ answer).trans ?_
      cases answer <;> rfl
    | some call =>
      refine (step_answer_solo call answer).trans ?_
      cases answer <;> rfl
  | resume report =>
    by_cases hsuspended : turn.activation.state = .suspended
    · obtain ⟨rfl, -⟩ := hpauses.suspended hsuspended
      refine (step_resume_solo_none report).trans ?_
      simp only [heed, response, hsuspended, if_true]
    · refine (step_resume_solo_running report hsuspended).trans ?_
      simp only [heed, response, hsuspended, if_false]

theorem session_heedAll (moves : List HostMove)
    (hpauses : standing.1.Pauses standing.2) :
    session (moves.map (HostMove.event standing.1.activation.id))
        (solo limit supported standing.1 standing.2) =
      (solo limit supported (heedAll limit moves standing).1.1
        (heedAll limit moves standing).1.2,
        (heedAll limit moves standing).2) := by
  induction moves generalizing standing with
  | nil => rfl
  | cons move moves ih =>
    have hrest := ih (heed_pauses move limit hpauses)
    rw [(heed_continues move limit standing).id] at hrest
    rw [List.map_cons, session_cons, step_heed move hpauses, hrest]
    rfl

end Solo

/-! ## The first activation of a stage -/

/-- What the first activation on a stage comes to after some moves of the host,
and the responses to these. -/
def hosted (limit : Nat) (context : Context) (graph : CompiledGraph)
    (nodeId : String) (moves : List HostMove) :
    (Turn × Option Call) × List Response :=
  heedAll limit moves (opening limit context graph nodeId)

section Hosted

variable (limit : Nat) (context : Context) (graph : CompiledGraph)
  (nodeId : String) (moves : List HostMove)

theorem hosted_continues : (Activation.start firstId graph nodeId).Continues
    (hosted limit context graph nodeId moves).1.1.activation :=
  (Turn.continues_continueAt limit nodeId
    ⟨context.activate firstId, .start firstId graph nodeId⟩).trans
      (heedAll_continues _ _ _)

theorem opening_pauses : (opening limit context graph nodeId).1.Pauses
    (opening limit context graph nodeId).2 :=
  .inl (Turn.continueAt_rests limit nodeId _)

theorem hosted_pauses : (hosted limit context graph nodeId moves).1.1.Pauses
    (hosted limit context graph nodeId moves).1.2 :=
  heedAll_pauses limit moves (opening_pauses limit context graph nodeId)

variable {limit context graph nodeId moves}

theorem session_hosted {supported : String} {entry : Option String}
    (hsupported : supportOf graph.metadata.version supported = .satisfied)
    (hentry : entryOf graph entry = .ok nodeId) :
    session (.activate graph entry :: moves.map (HostMove.event firstId))
        (initial limit supported context) =
      (solo limit supported (hosted limit context graph nodeId moves).1.1
          (hosted limit context graph nodeId moves).1.2,
        respond firstId (opening limit context graph nodeId).2 ::
          (hosted limit context graph nodeId moves).2) := by
  have hversion :
      (initial limit supported context).checkVersion graph = .ok () := by
    simp [checkVersion, initial, hsupported]
  have hsession := @session_heedAll limit supported _ moves
    (opening_pauses limit context graph nodeId)
  rw [opening_id] at hsession
  rw [session_cons, step, activate_initial hversion hentry, hsession]
  rfl

/-- When the activation is over, no move of the host changes anything. -/
theorem session_over {supported : String}
    (hcall : (hosted limit context graph nodeId moves).1.2 = none)
    (hstate : (hosted limit context graph nodeId moves).1.1.activation.state ≠
      .suspended)
    (more : List HostMove) :
    let stage :=
      solo limit supported (hosted limit context graph nodeId moves).1.1
        (hosted limit context graph nodeId moves).1.2
    (session (more.map (HostMove.event firstId)) stage).1 = stage ∧
      calls (session (more.map (HostMove.event firstId)) stage).2 = [] := by
  intro stage
  have hsession := @session_heedAll limit supported _ more
    (hosted_pauses limit context graph nodeId moves)
  obtain ⟨hsame, hsilent⟩ := heedAll_of_over limit more hcall hstate
  rw [(hosted_continues limit context graph nodeId moves).id, hsame] at hsession
  have hstage : session (more.map (HostMove.event firstId)) stage = _ :=
    hsession
  rw [hstage]
  exact ⟨rfl, hsilent⟩

end Hosted

end Stage

end StoryGraph
