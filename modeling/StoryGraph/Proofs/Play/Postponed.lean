import StoryGraph.Proofs.Play.Solo

/-!
# Answers that are put off

The host may answer a call at once, or put the answer off and deliver it by
resuming the activation.  As long as it does nothing else meanwhile, both ways
lead to the same stage and to the same further calls.
-/

namespace StoryGraph

namespace Turn

/-- A suspended activation takes a report in the same way as one that is still
calling. -/
theorem resume_deferred (limit : Nat) (report : Report) {turn : Turn}
    (hcalling : turn.activation.IsCalling) :
    (turn.receive limit .deferred).1.resume limit report =
      turn.receive limit (.reported report) := by
  obtain ⟨hrunning, nodeId, node, hstands⟩ := hcalling
  have hsuspended :
      { turn with activation := turn.activation.withState .suspended }.resume
        limit report = _ :=
    resume_of_suspended limit report rfl hstands
  rw [receive_of_calling _ _ hrunning hstands,
    receive_of_calling _ _ hrunning hstands]
  simp only [hsuspended]
  cases report.port node.kind with
  | rejected issues => rfl
  | accepted port => rfl

theorem receive_deferred_call (limit : Nat) (turn : Turn) :
    (turn.receive limit .deferred).2 = none := by
  rw [receive]
  split
  · rfl
  · simp only
    split <;> rfl

end Turn

/-- How the host answers a call: by a report, at once or later, or by a
failure. -/
inductive Reply where
  | reported (report : Report) (postponed : Bool)
  | failed (kind text : String)
  | interrupted (text : String)
  deriving DecidableEq

namespace Reply

/-- The answer itself, whenever it comes. -/
def answer : Reply → Answer
  | reported report _ => .reported report
  | failed kind text => .failed kind text
  | interrupted text => .interrupted text

/-- The call of an activation is answered at once. -/
def atOnce (id : String) (reply : Reply) : Event := .answer id reply.answer

/-- The call of an activation is answered at once, or put off and answered by
resuming the activation. -/
def inTime (id : String) : Reply → List Event
  | reported report true => [.answer id .deferred, .resume id report]
  | reply => [reply.atOnce id]

theorem answer_ne_deferred (reply : Reply) : reply.answer ≠ .deferred := by
  cases reply <;> simp [answer]

end Reply

namespace Stage

/-- The calls that responses make. -/
def calls (responses : List Response) : List Call :=
  responses.filterMap Response.call?

theorem calls_append (first second : List Response) :
    calls (first ++ second) = calls first ++ calls second :=
  List.filterMap_append

theorem calls_cons (response : Response) (responses : List Response) :
    calls (response :: responses) = response.call?.toList ++
      calls responses := by
  rw [calls, List.filterMap_cons, calls]
  cases response.call? <;> rfl

section Replies

variable {limit : Nat} {supported : String} {turn : Turn} {call? : Option Call}

/-- One reply leads to the same stage and to the same call, whenever it
comes. -/
theorem session_inTime (reply : Reply) (hrests : turn.Rests call?) :
    (session (reply.inTime turn.activation.id)
      (solo limit supported turn call?)).1 =
        ((solo limit supported turn call?).step
          (reply.atOnce turn.activation.id)).1 ∧
      calls (session (reply.inTime turn.activation.id)
        (solo limit supported turn call?)).2 =
        calls
          [((solo limit supported turn call?).step
            (reply.atOnce turn.activation.id)).2] := by
  match reply with
  | .failed kind text => exact ⟨rfl, rfl⟩
  | .interrupted text => exact ⟨rfl, rfl⟩
  | .reported report false => exact ⟨rfl, rfl⟩
  | .reported report true =>
    have hid := (Turn.continues_receive limit .deferred turn).id
    simp only [Reply.inTime, Reply.atOnce, Reply.answer, session_cons,
      session_nil]
    cases call? with
    | none =>
      have hsuspended : turn.activation.state ≠ .suspended := by
        intro hstate
        have hended : turn.activation.isLive = false := hrests
        simp [Activation.isLive, hstate, ActivationState.isLive] at hended
      rw [step_answer_solo_none, step_answer_solo_none,
        step_resume_solo_running _ hsuspended]
      exact ⟨rfl, rfl⟩
    | some call =>
      have hcalling : turn.activation.IsCalling := hrests
      rw [step_answer_solo, step_answer_solo, Turn.receive_deferred_call, ← hid,
        step_resume_solo_none, Turn.resume_deferred limit report hcalling]
      refine ⟨rfl, ?_⟩
      simp only [calls_cons, call?_respond]
      rfl

/-- After a reply, the activation calls again or has ended. -/
theorem step_atOnce (reply : Reply) (hrests : turn.Rests call?) :
    ∃ later laterCall?, later.Rests laterCall? ∧
      later.activation.id = turn.activation.id ∧
      ((solo limit supported turn call?).step
        (reply.atOnce turn.activation.id)).1 =
        solo limit supported later laterCall? := by
  cases call? with
  | none =>
    exact ⟨turn, none, hrests, rfl, by rw [Reply.atOnce, step_answer_solo_none]⟩
  | some call =>
    refine ⟨(turn.receive limit reply.answer).1,
      (turn.receive limit reply.answer).2,
      Turn.receive_rests limit hrests reply.answer_ne_deferred,
      (Turn.continues_receive _ _ _).id, ?_⟩
    rw [Reply.atOnce, step_answer_solo]

/-- Any number of replies leads to the same stage and to the same calls,
whenever each of them comes. -/
theorem session_replies (replies : List Reply) (hrests : turn.Rests call?) :
    (session (replies.flatMap (Reply.inTime turn.activation.id))
        (solo limit supported turn call?)).1 =
        (session (replies.map (Reply.atOnce turn.activation.id))
          (solo limit supported turn call?)).1 ∧
      calls (session (replies.flatMap (Reply.inTime turn.activation.id))
          (solo limit supported turn call?)).2 =
        calls (session (replies.map (Reply.atOnce turn.activation.id))
          (solo limit supported turn call?)).2 := by
  induction replies generalizing turn call? with
  | nil => exact ⟨rfl, rfl⟩
  | cons reply replies ih =>
    obtain ⟨hstage, hcalls⟩ :=
      @session_inTime limit supported turn call? reply hrests
    obtain ⟨later, laterCall?, hlater, hid, hstep⟩ :=
      @step_atOnce limit supported turn call? reply hrests
    have hrest := ih hlater
    rw [hid] at hrest
    rw [List.flatMap_cons, session_append, List.map_cons, session_cons, hstage,
      hstep]
    refine ⟨hrest.1, ?_⟩
    rw [calls_append, hcalls, hrest.2, ← calls_append]
    rfl

end Replies

/-- Events for activations that do not exist change nothing. -/
theorem session_of_unknown {stage : Stage} {events : List Event}
    (hunknown : ∀ event ∈ events, ∃ id,
      stage.step event = (stage, .unknownActivation id)) :
    (session events stage).1 = stage ∧ calls (session events stage).2 = [] := by
  induction events with
  | nil => exact ⟨rfl, rfl⟩
  | cons event events ih =>
    obtain ⟨id, hstep⟩ := hunknown event (List.mem_cons_self ..)
    have hrest :=
      ih fun other hmem => hunknown other (List.mem_cons_of_mem _ hmem)
    rw [session_cons, hstep]
    exact ⟨hrest.1, by rw [calls_cons, hrest.2]; rfl⟩

theorem reply_unknown (limit : Nat) (supported : String) (context : Context)
    (id : String) (reply : Reply) : ∀ event ∈ reply.inTime id, ∃ other,
      (initial limit supported context).step event =
        (initial limit supported context, .unknownActivation other) := by
  intro event hmem
  match reply with
  | .failed kind text => exact ⟨id, List.mem_singleton.mp hmem ▸ rfl⟩
  | .interrupted text => exact ⟨id, List.mem_singleton.mp hmem ▸ rfl⟩
  | .reported report false => exact ⟨id, List.mem_singleton.mp hmem ▸ rfl⟩
  | .reported report true =>
    simp only [Reply.inTime, List.mem_cons, List.not_mem_nil, or_false] at hmem
    rcases hmem with rfl | rfl
    · exact ⟨id, rfl⟩
    · exact ⟨id, rfl⟩

/-- Whether each answer to a call comes at once or is put off until the host
resumes the activation, the stage is the same in the end, and so are the calls
that the activation has made. -/
theorem postponed_eq_direct (limit : Nat) (supported : String)
    (context : Context) (graph : CompiledGraph) (entry : Option String)
    (replies : List Reply) :
    let start := initial limit supported context
    let direct :=
      session (.activate graph entry :: replies.map (Reply.atOnce firstId))
        start
    let postponed :=
      session (.activate graph entry :: replies.flatMap (Reply.inTime firstId))
        start
    postponed.1 = direct.1 ∧ calls postponed.2 = calls direct.2 := by
  intro start direct postponed
  by_cases hstarts : ∃ nodeId, start.checkVersion graph = .ok () ∧
    entryOf graph entry = .ok nodeId
  · obtain ⟨nodeId, hversion, hentry⟩ := hstarts
    have hactivate := activate_initial hversion hentry
    have hrests : (opening limit context graph nodeId).1.Rests
        (opening limit context graph nodeId).2 := Turn.continueAt_rests _ _ _
    have hreplies := @session_replies limit supported _ _ replies hrests
    rw [opening_id] at hreplies
    have hdirect : direct = session (.activate graph entry :: _) start := rfl
    have hpostponed : postponed = session (.activate graph entry :: _) start :=
      rfl
    rw [hdirect, hpostponed, session_cons, session_cons, step, hactivate]
    refine ⟨hreplies.1, ?_⟩
    rw [calls_cons, calls_cons, hreplies.2]
  · obtain ⟨error, hrefused⟩ := activate_refused hstarts
    have hdirect :=
      @session_of_unknown start (replies.map (Reply.atOnce firstId)) (by
        intro event hmem
        obtain ⟨reply, -, rfl⟩ := List.mem_map.mp hmem
        exact ⟨firstId, rfl⟩)
    have hpostponed :=
      @session_of_unknown start (replies.flatMap (Reply.inTime firstId)) (by
        intro event hmem
        obtain ⟨reply, -, hevent⟩ := List.mem_flatMap.mp hmem
        exact reply_unknown limit supported context firstId reply event hevent)
    simp only [direct, postponed, session_cons, step, hrefused, calls_cons]
    rw [hdirect.1, hdirect.2, hpostponed.1, hpostponed.2]
    exact ⟨rfl, rfl⟩

end Stage

end StoryGraph
