import StoryGraph.Proofs.Play.Session

/-!
# An activation on its own

On a stage that has a single activation, an event is a turn of that activation:
the stage is determined by the turn so far and by the call that waits for an
answer.
-/

namespace StoryGraph

/-- The call that a response makes. -/
def Response.call? : Response → Option Call
  | .called _ call => some call
  | _ => none

namespace Stage

/-- The id of the first activation of a stage. -/
def firstId : String := ((IdSupply.mk 1).take "act").1.val

/-- A stage on which nothing has happened but the turns of a single activation,
which may wait for the answer to a call. -/
def solo (limit : Nat) (supported : String) (turn : Turn)
    (call? : Option Call) : Stage :=
  ⟨limit, supported, turn.context, [turn.activation], [], ⟨2⟩,
    if call?.isSome then [⟨turn.activation.id, none⟩] else []⟩

/-- The end of an event at which an activation has taken its turn. -/
def respond (id : String) : Option Call → Response
  | some call => .called id call
  | none => .returned [id]

@[simp]
theorem call?_respond (id : String) (call? : Option Call) :
    (respond id call?).call? = call? := by
  cases call? <;> rfl

section Solo

variable {limit : Nat} {supported : String} {turn : Turn} {call? : Option Call}

theorem started?_solo :
    (solo limit supported turn call?).started? turn.activation.id =
    some turn.activation := by
  simp [started?, solo]

theorem activation?_solo :
    (solo limit supported turn call?).activation? turn.activation.id =
    some turn.activation := by
  simp [activation?, registered, solo]

/-- The turn of the activation replaces it. -/
theorem play_solo {next : Turn → Turn × Option Call}
    (hcontinues : turn.activation.Continues (next turn).1.activation) :
    (solo limit supported turn none).play turn.activation next =
      (solo limit supported (next turn).1 none, (next turn).2) := by
  have hid := hcontinues.id
  simp [play, replace, solo, hid]

/-- After its turn, the activation waits for the answer to its call. -/
theorem settle_solo :
    (solo limit supported turn none).settle none turn.activation.id call? =
      (solo limit supported turn call?, respond turn.activation.id call?) := by
  cases call? <;> rfl

/-! ## Events -/

theorem step_answer_solo_none (id : String) (answer : Answer) :
    (solo limit supported turn none).step (.answer id answer) =
      (solo limit supported turn none, .unknownActivation id) := by
  simp [step, Stage.answer, solo]

/-- The answer to the call of the activation. -/
theorem step_answer_solo (call : Call) (answer : Answer) :
    (solo limit supported turn (some call)).step
      (.answer turn.activation.id answer) =
      (solo limit supported (turn.receive limit answer).1
        (turn.receive limit answer).2,
        match answer with
        | .interrupted text => .interrupted text
        | _ => respond turn.activation.id (turn.receive limit answer).2) := by
  have htask :
      (solo limit supported turn (some call)).tasks.find?
        (·.activationId == turn.activation.id) =
          some ⟨turn.activation.id, none⟩ := by
    simp [solo]
  have herased : { solo limit supported turn (some call) with
      tasks := (solo limit supported turn (some call)).tasks.erase
        ⟨turn.activation.id, none⟩ } = solo limit supported turn none := by
    simp [solo]
  have hcontinues := Turn.continues_receive limit answer turn
  simp only [step, Stage.answer, htask, started?_solo, herased]
  have hlimit : (solo limit supported turn (some call)).limit = limit := rfl
  rw [hlimit, play_solo hcontinues]
  cases answer with
  | interrupted text => rw [Turn.receive_interrupted_call]
  | reported report => rw [← hcontinues.id, settle_solo]
  | deferred => rw [← hcontinues.id, settle_solo]
  | failed kind text => rw [← hcontinues.id, settle_solo]

/-- A report to the activation while it makes no call. -/
theorem step_resume_solo_none (report : Report) :
    (solo limit supported turn none).step (.resume turn.activation.id report) =
      (solo limit supported (turn.resume limit report).1
        (turn.resume limit report).2,
        respond turn.activation.id (turn.resume limit report).2) := by
  have hcontinues := Turn.continues_resume limit report turn
  have hlimit : (solo limit supported turn none).limit = limit := rfl
  simp only [step, resume, activation?_solo, hlimit]
  rw [play_solo hcontinues, ← hcontinues.id, settle_solo]

/-- A report to the activation while its call is open comes too early. -/
theorem step_resume_solo_running (report : Report)
    (hsuspended : turn.activation.state ≠ .suspended) :
    (solo limit supported turn call?).step (.resume turn.activation.id report) =
      (solo limit supported turn call?, .returned [turn.activation.id]) := by
  have hturn :
      (⟨(solo limit supported turn call?).context, turn.activation⟩ : Turn) =
        turn :=
    rfl
  simp only [step, resume, activation?_solo, play]
  rw [hturn, Turn.resume_of_not_suspended _ _ hsuspended]
  simp [replace, solo, settle]

end Solo

/-! ## The beginning -/

/-- The first turn of the first activation. -/
def opening (limit : Nat) (context : Context) (graph : CompiledGraph)
    (nodeId : String) : Turn × Option Call :=
  Turn.continueAt limit nodeId
    ⟨context.activate firstId, Activation.start firstId graph nodeId⟩

theorem opening_id (limit : Nat) (context : Context) (graph : CompiledGraph)
    (nodeId : String) :
    (opening limit context graph nodeId).1.activation.id = firstId :=
  (Turn.continues_continueAt limit nodeId
    ⟨_, Activation.start firstId graph nodeId⟩).id

/-- The first activation begins. -/
theorem activate_initial {limit : Nat} {supported : String} {context : Context}
    {graph : CompiledGraph} {entry : Option String} {nodeId : String}
    (hversion : (initial limit supported context).checkVersion graph = .ok ())
    (hentry : entryOf graph entry = .ok nodeId) :
    (initial limit supported context).activate graph entry =
      (solo limit supported (opening limit context graph nodeId).1
        (opening limit context graph nodeId).2,
        respond firstId (opening limit context graph nodeId).2) := by
  have henroll :
      (initial limit supported context).enroll graph nodeId =
        (solo limit supported ⟨context.activate firstId,
          Activation.start firstId graph nodeId⟩ none,
            Activation.start firstId graph nodeId) :=
    rfl
  have hlimit (turn : Turn) : (solo limit supported turn none).limit = limit :=
    rfl
  have hplay := @play_solo limit supported
    ⟨context.activate firstId, Activation.start firstId graph nodeId⟩
    (Turn.continueAt limit nodeId) (Turn.continues_continueAt _ _ _)
  have hstart :
      (initial limit supported context).start graph entry =
        .ok (solo limit supported (opening limit context graph nodeId).1 none,
          firstId, (opening limit context graph nodeId).2) := by
    simp only [start, hversion, hentry, henroll, hlimit, hplay]
    rfl
  rw [activate, hstart]
  simp only
  rw [← opening_id limit context graph nodeId, settle_solo]

/-- Without a supported version and an entrypoint nothing begins. -/
theorem activate_refused {stage : Stage} {graph : CompiledGraph}
    {entry : Option String}
    (hrefused : ¬ ∃ nodeId, stage.checkVersion graph = .ok () ∧
      entryOf graph entry = .ok nodeId) :
    ∃ error, stage.activate graph entry = (stage, .refused error) := by
  rw [activate, start]
  split
  · next error hstart =>
    exact ⟨error, rfl⟩
  · next hstart =>
    split at hstart
    · cases hstart
    · cases hstart
    · next nodeId hversion hentry =>
        exact absurd ⟨nodeId, hversion, hentry⟩ hrefused

end Stage

end StoryGraph
