import StoryGraph.Proofs.Play.Active
import StoryGraph.Proofs.Play.Effect

/-!
# Footprints

The properties of a node name the variables and flags that its visit may read
and those that it may change.  A turn changes nothing but what the nodes of its
graph name and its own mark among the active events, and it goes the same way in
all contexts that agree on what these nodes read.
-/

namespace StoryGraph

/-- A part of the context that changes on its own: a variable, a flag, or the
mark that an activation is under way. -/
inductive Cell where
  | value (name : String)
  | flag (name : String)
  | event (id : String)
  deriving DecidableEq

/-! ## Contexts that agree -/

namespace Context

/-- What a cell holds, if anything. -/
def holds? (context : Context) : Cell → Option Value
  | .value name => context.values.find? name
  | .flag name => (context.flags.find? name).map .bool
  | .event id => if id ∈ context.activeEvents then some (.bool true) else none

/-- Two contexts hold the same in some cells. -/
def AgreesOn (cells : List Cell) (left right : Context) : Prop :=
  ∀ cell ∈ cells, left.holds? cell = right.holds? cell

/-- Two contexts hold the same, except perhaps in some cells. -/
def AgreesOutside (cells : List Cell) (left right : Context) : Prop :=
  ∀ cell ∉ cells, left.holds? cell = right.holds? cell

variable {cells : List Cell} {left middle right : Context}

theorem AgreesOutside.refl (cells : List Cell) (context : Context) :
    context.AgreesOutside cells context := fun _ _ => rfl

theorem AgreesOutside.trans (hfirst : left.AgreesOutside cells middle)
    (hsecond : middle.AgreesOutside cells right) :
    left.AgreesOutside cells right :=
  fun cell hcell => (hfirst cell hcell).trans (hsecond cell hcell)

theorem AgreesOutside.mono {more : List Cell}
    (hagrees : left.AgreesOutside cells right) (hmore : cells ⊆ more) :
    left.AgreesOutside more right :=
  fun cell hcell => hagrees cell fun hmem => hcell (hmore hmem)

theorem AgreesOutside.on {others : List Cell}
    (hagrees : left.AgreesOutside cells right)
    (happart : ∀ cell ∈ others, cell ∉ cells) : left.AgreesOn others right :=
  fun cell hcell => hagrees cell (happart cell hcell)

/-! ### What a cell holds after a change -/

theorem holds?_setVariable (context : Context) (name : String) (value : Value)
    (cell : Cell) :
    (context.setVariable name value).holds? cell =
      if cell = .value name then some value else context.holds? cell := by
  cases cell with
  | value other =>
    simp only [holds?, setVariable, Table.find?_insert, Cell.value.injEq]
  | flag other => rfl
  | event id => rfl

theorem holds?_setFlag (context : Context) (name : String) (truth : Bool)
    (cell : Cell) :
    (context.setFlag name truth).holds? cell =
      if cell = .flag name then some (.bool truth)
      else context.holds? cell := by
  cases cell with
  | value other => rfl
  | flag other =>
    simp only [holds?, setFlag, Table.find?_insert, Cell.flag.injEq]
    split <;> rfl
  | event id => rfl

theorem holds?_deactivate (context : Context) (id : String) (cell : Cell) :
    (context.deactivate id).holds? cell =
      if cell = .event id then none else context.holds? cell := by
  cases cell with
  | value other => rfl
  | flag other => rfl
  | event other =>
    simp only [holds?, mem_deactivate, Cell.event.injEq]
    by_cases hid : other = id <;> simp [hid]

/-- What two contexts hold in a cell when their variables and flags are the
same. -/
theorem holds?_of_content (hcontent : left.content = right.content)
    {cell : Cell} (hcell : ∀ id, cell ≠ .event id) :
    left.holds? cell = right.holds? cell := by
  rw [eq_of_content hcontent]
  cases cell with
  | value name => rfl
  | flag name => rfl
  | event id => exact absurd rfl (hcell id)

theorem AgreesOutside.setVariable (hagrees : left.AgreesOutside cells right)
    (name : String) (value : Value) :
    (left.setVariable name value).AgreesOutside cells
      (right.setVariable name value) := by
  intro cell hcell
  rw [holds?_setVariable, holds?_setVariable, hagrees cell hcell]

theorem AgreesOutside.setFlag (hagrees : left.AgreesOutside cells right)
    (name : String) (truth : Bool) :
    (left.setFlag name truth).AgreesOutside cells
      (right.setFlag name truth) := by
  intro cell hcell
  rw [holds?_setFlag, holds?_setFlag, hagrees cell hcell]

theorem AgreesOutside.deactivate (hagrees : left.AgreesOutside cells right)
    (id : String) :
    (left.deactivate id).AgreesOutside cells (right.deactivate id) := by
  intro cell hcell
  rw [holds?_deactivate, holds?_deactivate, hagrees cell hcell]

/-- An increment sets its variable to the sum. -/
theorem eq_of_increment {context changed : Context} {name : String}
    {amount total : Value}
    (hincrement : context.increment name amount = .ok (changed, total)) :
    changed = context.setVariable name total := by
  unfold increment at hincrement
  split at hincrement
  · cases hincrement
  · split at hincrement
    · cases hincrement
    · split at hincrement
      · cases hincrement
        rfl
      · cases hincrement

/-! ### Reading -/

theorem getVariable?_congr {name : String}
    (hsame : left.holds? (.value name) = right.holds? (.value name)) :
    left.getVariable? name = right.getVariable? name := hsame

theorem flags_congr {name : String}
    (hsame : left.holds? (.flag name) = right.holds? (.flag name)) :
    left.flags.find? name = right.flags.find? name :=
  Option.map_injective (fun _ _ => Value.bool.inj) hsame

theorem getFlag_congr {name : String}
    (hsame : left.holds? (.flag name) = right.holds? (.flag name)) :
    left.getFlag name = right.getFlag name := by
  rw [getFlag, getFlag, flags_congr hsame]

theorem lookup_congr {key : String}
    (hvariable : left.holds? (.value key) = right.holds? (.value key))
    (hflag : left.holds? (.flag key) = right.holds? (.flag key)) :
    left.lookup key = right.lookup key := by
  have hvalues : left.values.find? key = right.values.find? key := hvariable
  rw [lookup, lookup, hvalues, flags_congr hflag]

theorem numericVariable_congr {name : String}
    (hsame : left.holds? (.value name) = right.holds? (.value name)) :
    left.numericVariable name = right.numericVariable name := by
  have hvalues : left.values.find? name = right.values.find? name := hsame
  rw [numericVariable, numericVariable, hvalues]

end Context

/-! ## What nodes read and change -/

/-- The cells that a trigger looks at.  A comparison finds a variable under its
key, or else a flag. -/
def Trigger.reads : Trigger → List Cell
  | constant _ => []
  | flag name _ => [.flag name]
  | .variable name => [.value name]
  | comparison key _ _ => [.value key, .flag key]

/-- The cells that a condition looks at; without a key there are none. -/
def ConditionProperties.reads (properties : ConditionProperties) : List Cell :=
  if properties.key = "" then []
  else
    match properties.conditionType with
    | .always => []
    | .flag => [.flag properties.key]
    | .variable => [.value properties.key, .flag properties.key]

namespace ActionProperties

/-- The cells that an action changes; without a target there are none. -/
def writes (properties : ActionProperties)
    (action : ContextAction) : List Cell :=
  if properties.target = "" then []
  else
    match action with
    | .setVariable | .incrementVariable => [.value properties.target]
    | .setFlag | .clearFlag => [.flag properties.target]

/-- The cells that an action looks at.  An increment looks at the variable that
it changes. -/
def reads (properties : ActionProperties)
    (action : ContextAction) : List Cell :=
  if action = .incrementVariable then properties.writes action else []

end ActionProperties

namespace Properties

/-- The cells that the visit of a record may look at. -/
def reads : Properties → List Cell
  | .trigger properties =>
    match Trigger.parse properties.condition with
    | .ok parsed => parsed.reads
    | .error _ => []
  | .condition properties => properties.reads
  | properties =>
    match properties.contextAction? with
    | some (change, details) => details.reads change
    | none => []

/-- The cells that the visit of a record may change. -/
def writes (properties : Properties) : List Cell :=
  match properties.contextAction? with
  | some (change, details) => details.writes change
  | none => []

end Properties

theorem ActionProperties.event_not_mem_writes (properties : ActionProperties)
    (action : ContextAction) (id : String) :
    .event id ∉ properties.writes action := by
  unfold writes
  split
  · exact List.not_mem_nil
  · cases action <;> simp

namespace Properties

theorem event_not_mem_writes (properties : Properties) (id : String) :
    .event id ∉ properties.writes := by
  unfold writes
  split
  · exact ActionProperties.event_not_mem_writes _ _ _
  · exact List.not_mem_nil

theorem event_not_mem_reads (properties : Properties) (id : String) :
    .event id ∉ properties.reads := by
  unfold reads
  split
  · split
    · next parsed _ => cases parsed <;> simp [Trigger.reads]
    · exact List.not_mem_nil
  · next properties =>
    unfold ConditionProperties.reads
    split
    · exact List.not_mem_nil
    · split <;> simp
  · split
    · next change details _ =>
      unfold ActionProperties.reads
      split
      · exact ActionProperties.event_not_mem_writes _ _ _
      · exact List.not_mem_nil
    · exact List.not_mem_nil

end Properties

namespace CompiledNode

/-- The cells that the visit of a node may look at; with invalid data there are
none. -/
def reads (node : CompiledNode) : List Cell :=
  match node.properties with
  | .accepted properties => properties.reads
  | .rejected _ => []

/-- The cells that the visit of a node may change. -/
def writes (node : CompiledNode) : List Cell :=
  match node.properties with
  | .accepted properties => properties.writes
  | .rejected _ => []

theorem event_not_mem_reads (node : CompiledNode)
    (id : String) : .event id ∉ node.reads := by
  unfold reads
  split
  · exact Properties.event_not_mem_reads _ id
  · exact List.not_mem_nil

theorem event_not_mem_writes (node : CompiledNode)
    (id : String) : .event id ∉ node.writes := by
  unfold writes
  split
  · exact Properties.event_not_mem_writes _ id
  · exact List.not_mem_nil

end CompiledNode

namespace CompiledGraph

/-- The cells that the nodes of a graph may look at. -/
def reads (graph : CompiledGraph) : List Cell :=
  graph.nodes.entries.flatMap fun entry => entry.2.reads

/-- The cells that the nodes of a graph may change. -/
def writes (graph : CompiledGraph) : List Cell :=
  graph.nodes.entries.flatMap fun entry => entry.2.writes

variable {graph : CompiledGraph} {nodeId : String} {node : CompiledNode}

/-- Graphs name no marks of activations. -/
theorem event_not_mem_reads (graph : CompiledGraph)
    (id : String) : .event id ∉ graph.reads := by
  intro hmem
  obtain ⟨entry, -, hnode⟩ := List.mem_flatMap.mp hmem
  exact entry.2.event_not_mem_reads id hnode

theorem event_not_mem_writes (graph : CompiledGraph)
    (id : String) : .event id ∉ graph.writes := by
  intro hmem
  obtain ⟨entry, -, hnode⟩ := List.mem_flatMap.mp hmem
  exact entry.2.event_not_mem_writes id hnode

theorem reads_subset (hnode : graph.nodes.find? nodeId = some node) :
    node.reads ⊆ graph.reads := by
  have hmem := (Table.lookup_eq_some_iff_mem graph.nodes.distinct).mp hnode
  intro cell hcell
  exact List.mem_flatMap.mpr ⟨(nodeId, node), hmem, hcell⟩

theorem writes_subset (hnode : graph.nodes.find? nodeId = some node) :
    node.writes ⊆ graph.writes := by
  have hmem := (Table.lookup_eq_some_iff_mem graph.nodes.distinct).mp hnode
  intro cell hcell
  exact List.mem_flatMap.mpr ⟨(nodeId, node), hmem, hcell⟩

end CompiledGraph

/-! ## What a visit depends on -/

/-- Two visits end alike: both fail for the same reason, or both make the same
move in contexts that agree outside some cells. -/
inductive EndAlike (cells : List Cell) :
    Except Failure (Move × Context) →
      Except Failure (Move × Context) → Prop where
  | failed (failure : Failure) :
      EndAlike cells (.error failure) (.error failure)
  | moved (move : Move) {left right : Context}
    (hagrees : left.AgreesOutside cells right) :
    EndAlike cells (.ok (move, left)) (.ok (move, right))

section Visits

variable {cells : List Cell} {left right : Context}

theorem Trigger.holds_congr {trigger : Trigger}
    (hreads : left.AgreesOn trigger.reads right) :
    trigger.holds left = trigger.holds right := by
  cases trigger with
  | constant truth => rfl
  | flag name truth =>
    have hflag := Context.getFlag_congr (hreads _ (List.mem_singleton_self _))
    rw [holds, holds, hflag]
  | comparison key operator text =>
    have hlookup := Context.lookup_congr (hreads (.value key) (by simp [reads]))
      (hreads (.flag key) (by simp [reads]))
    rw [holds, holds, hlookup]
  | _ name =>
    have hvariable :=
      Context.getVariable?_congr (hreads _ (List.mem_singleton_self _))
    rw [holds, holds, hvariable]

theorem ConditionProperties.evaluate_congr {properties : ConditionProperties}
    (hreads : left.AgreesOn properties.reads right) :
    Condition.evaluate properties.conditionType properties.operator
        properties.value properties.key left =
      Condition.evaluate properties.conditionType properties.operator
        properties.value properties.key right := by
  by_cases halways : properties.conditionType = .always
  · simp only [Condition.evaluate, halways, if_true]
  · by_cases hkey : properties.key = ""
    · simp only [Condition.evaluate, halways, hkey, if_false, if_true]
    · have hstored :
          Condition.stored properties.conditionType properties.key left =
            Condition.stored properties.conditionType properties.key right := by
        rw [reads, if_neg hkey] at hreads
        cases hkind : properties.conditionType with
        | always => exact absurd hkind halways
        | flag =>
          rw [hkind] at hreads
          have hflag :=
            Context.getFlag_congr (hreads _ (List.mem_singleton_self _))
          simp only [Condition.stored, if_true, hflag]
        | _ =>
          rw [hkind] at hreads
          have hlookup :=
            Context.lookup_congr (hreads (.value properties.key) (by simp))
              (hreads (.flag properties.key) (by simp))
          rw [Condition.stored, Condition.stored, hlookup]
          rfl
      simp only [Condition.evaluate, halways, hkey, if_false, hstored]

namespace ActionProperties

/-- An action fails in both contexts, or changes both in the same way. -/
theorem change_congr {properties : ActionProperties} {action : ContextAction}
    (hreads : left.AgreesOn (properties.reads action) right)
    (hagrees : left.AgreesOutside cells right) :
    EndAlike cells ((properties.change action left).map fun changed =>
      (.follow 0, changed))
      ((properties.change action right).map fun changed =>
        (.follow 0, changed)) := by
  by_cases htarget : properties.target = ""
  · simp only [change, htarget, if_true]
    exact .failed _
  · cases action with
    | setVariable =>
      simp only [change, htarget, if_false]
      exact .moved _ (hagrees.setVariable _ _)
    | setFlag =>
      simp only [change, htarget, if_false]
      exact .moved _ (hagrees.setFlag _ _)
    | clearFlag =>
      simp only [change, htarget, if_false]
      exact .moved _ (hagrees.setFlag _ _)
    | incrementVariable =>
      have hcurrent : left.numericVariable properties.target =
          right.numericVariable properties.target :=
        Context.numericVariable_congr
          (hreads _ (by simp [reads, writes, htarget]))
      simp only [change, htarget, if_false]
      cases properties.amount? with
      | none => cases properties.value.isSpellable <;> exact .failed _
      | some amount =>
        simp only [Context.increment, hcurrent]
        cases right.numericVariable properties.target with
        | error error => exact .failed _
        | ok current =>
          simp only
          cases amount.number? with
          | none => exact .failed _
          | some number =>
            simp only
            cases Context.sum? current number with
            | none => exact .failed _
            | some total => exact .moved _ (hagrees.setVariable _ _)

/-- An action changes no cells but its own. -/
theorem change_frame {properties : ActionProperties} {action : ContextAction}
    {context changed : Context}
    (hchange : properties.change action context = .ok changed) :
    context.AgreesOutside (properties.writes action) changed := by
  intro cell hcell
  unfold change at hchange
  unfold writes at hcell
  split at hchange
  · cases hchange
  · next htarget =>
    rw [if_neg htarget] at hcell
    cases action with
    | setVariable =>
      cases hchange
      rw [Context.holds?_setVariable, if_neg (by simpa using hcell)]
    | setFlag =>
      cases hchange
      rw [Context.holds?_setFlag, if_neg (by simpa using hcell)]
    | clearFlag =>
      cases hchange
      rw [Context.clearFlag, Context.holds?_setFlag,
        if_neg (by simpa using hcell)]
    | incrementVariable =>
      simp only at hchange
      split at hchange
      · split at hchange <;> cases hchange
      · split at hchange
        · next hincrement =>
          cases hchange
          rw [Context.eq_of_increment hincrement, Context.holds?_setVariable,
            if_neg (by simpa using hcell)]
        · cases hchange

end ActionProperties

namespace Properties

theorem visit_congr {properties : Properties}
    (hreads : left.AgreesOn properties.reads right)
    (hagrees : left.AgreesOutside cells right) :
    EndAlike cells (properties.visit left) (properties.visit right) := by
  cases properties with
  | trigger properties =>
    simp only [reads] at hreads
    simp only [visit, Trigger.evaluate]
    cases hparsed : Trigger.parse properties.condition with
    | error error => exact .failed _
    | ok trigger =>
      rw [hparsed] at hreads
      simp only [Except.bind, Trigger.holds_congr hreads]
      cases trigger.holds right with
      | error error => exact .failed _
      | ok passed => exact .moved _ hagrees
  | condition properties =>
    simp only [visit, ConditionProperties.evaluate_congr hreads]
    cases Condition.evaluate properties.conditionType properties.operator
      properties.value properties.key right with
    | error error => exact .failed _
    | ok passed => exact .moved _ hagrees
  | action properties =>
    simp only [reads, contextAction?] at hreads
    simp only [visit]
    cases hword : ActionKind.ofWord? properties.actionType with
    | none => exact .failed _
    | some kind =>
      cases kind with
      | onContext change =>
        rw [hword] at hreads
        exact ActionProperties.change_congr hreads hagrees
      | delegated request => exact .moved _ hagrees
  | dialogue properties => exact .moved _ hagrees
  | encounter properties => exact .moved _ hagrees
  | teleport properties => exact .moved _ hagrees

theorem effect_frame (properties : Properties) (context : Context) :
    context.AgreesOutside properties.writes (properties.effect context) := by
  rw [effect, writes]
  cases properties.contextAction? with
  | none => exact .refl _ _
  | some action =>
    obtain ⟨change, details⟩ := action
    simp only
    split
    · next hchange => exact ActionProperties.change_frame hchange
    · exact .refl _ _

end Properties

theorem CompiledNode.visit_congr {node : CompiledNode}
    (hreads : left.AgreesOn node.reads right)
    (hagrees : left.AgreesOutside cells right) :
    EndAlike cells (node.visit left) (node.visit right) := by
  rw [reads] at hreads
  rw [visit, visit]
  cases hproperties : node.properties with
  | accepted properties =>
    rw [hproperties] at hreads
    exact Properties.visit_congr hreads hagrees
  | rejected issues => exact .failed _

theorem CompiledNode.effect_frame (node : CompiledNode) (context : Context) :
    context.AgreesOutside node.writes (node.effect context) := by
  rw [effect, writes]
  cases node.properties with
  | accepted properties => exact properties.effect_frame context
  | rejected issues => exact .refl _ _

/-- Visits change only what the nodes of their graph name. -/
theorem CompiledGraph.replay_frame (graph : CompiledGraph)
    (nodeIds : List String) (context : Context) :
    context.AgreesOutside graph.writes (graph.replay nodeIds context) := by
  induction nodeIds generalizing context with
  | nil => exact .refl _ _
  | cons nodeId nodeIds ih =>
    rw [replay_cons]
    refine .trans ?_ (ih _)
    rw [effectAt]
    split
    · next hnode =>
        exact (CompiledNode.effect_frame _ _).mono (writes_subset hnode)
    · exact .refl _ _

end Visits

/-! ## Turns -/

namespace Turn

open Activation

/-- The cells that the turns of an activation may change. -/
def footprint (turn : Turn) : List Cell :=
  .event turn.activation.id :: turn.activation.graph.writes

/-- A turn changes nothing outside the footprint of its activation. -/
theorem Performs.frame {turn later : Turn} {call? : Option Call}
    {fresh : List String} (hperforms : turn.Performs later call? fresh)
    (hlists : turn.Lists later) :
    turn.context.AgreesOutside turn.footprint later.context := by
  intro cell hcell
  rw [footprint, List.mem_cons, not_or] at hcell
  -- Visits decide about variables and flags, the list of live activations about
  -- marks.
  by_cases hevent : ∃ id, cell = .event id
  · obtain ⟨id, rfl⟩ := hevent
    have hother := hlists.others id (by simpa using hcell.1)
    simp only [Context.holds?, hother]
  · have hreplay :=
      turn.activation.graph.replay_frame fresh turn.context cell hcell.2
    rw [hreplay, Context.holds?_of_content hperforms.content fun id heq =>
      hevent ⟨id, heq⟩]

theorem Responds.frame {limit : Nat} {turn later : Turn} {prompt : Prompt}
    {call? : Option Call} (hresponds : Responds limit turn prompt later call?) :
    turn.context.AgreesOutside turn.footprint later.context := by
  obtain ⟨fresh, hperforms⟩ := hresponds.performs
  exact hperforms.frame hresponds.lists

/-- The same activation in two contexts that agree outside some cells, at none
of which its graph looks. -/
structure Parallel (cells : List Cell) (left right : Turn) : Prop where
  activation : left.activation = right.activation
  context : left.context.AgreesOutside cells right.context
  apart : ∀ cell ∈ left.activation.graph.reads, cell ∉ cells

/-- Parallel turns with the same result. -/
structure SameEnd {β : Type} (cells : List Cell)
    (left right : Turn × β) : Prop where
  turns : left.1.Parallel cells right.1
  result : left.2 = right.2

section Parallel

variable {cells : List Cell} {left right : Context} {activation : Activation}
variable (hparallel : Parallel cells ⟨left, activation⟩ ⟨right, activation⟩)

include hparallel

theorem Parallel.finish (state : ActivationState) :
    Parallel cells (finish ⟨left, activation⟩ state)
      (finish ⟨right, activation⟩ state) :=
  ⟨rfl, hparallel.context.deactivate _, hparallel.apart⟩

theorem Parallel.abort (nodeId : String) (failure : Failure) :
    Parallel cells (abort ⟨left, activation⟩ nodeId failure)
      (abort ⟨right, activation⟩ nodeId failure) := hparallel.finish _

theorem Parallel.withState (state : ActivationState) :
    Parallel cells ⟨left, activation.withState state⟩
      ⟨right, activation.withState state⟩ :=
  ⟨rfl, hparallel.context, hparallel.apart⟩

end Parallel

section Turns

variable {cells : List Cell}

/-- The visit of one node. -/
theorem Visited.parallel {turn later other : Turn} {nodeId : String}
    {node : CompiledNode} {destination : Destination}
    (hvisited : Visited turn nodeId node later destination)
    (hparallel : turn.Parallel cells other)
    (hnode : turn.activation.graph.nodes.find? nodeId = some node) :
    ∃ otherLater, Visited other nodeId node otherLater destination ∧
      later.Parallel cells otherLater := by
  obtain ⟨context, activation⟩ := turn
  obtain ⟨otherContext, otherActivation⟩ := other
  obtain rfl : activation = otherActivation := hparallel.activation
  have hreads : context.AgreesOn node.reads otherContext :=
    hparallel.context.on fun cell hcell =>
      hparallel.apart cell (CompiledGraph.reads_subset hnode hcell)
  have halike := CompiledNode.visit_congr hreads hparallel.context
  have henter {before after : Context}
    (hagrees : before.AgreesOutside cells after) :
      Parallel cells ⟨before, activation.enter nodeId⟩
        ⟨after, activation.enter nodeId⟩ :=
    ⟨rfl, hagrees, hparallel.apart⟩
  generalize hother : node.visit otherContext = otherVisit at halike
  cases hvisited with
  | failed hvisit =>
    rw [hvisit] at halike
    cases halike
    exact ⟨_, .failed hother, (henter hparallel.context).abort _ _⟩
  | stopped hvisit =>
    rw [hvisit] at halike
    obtain - | ⟨-, hagrees⟩ := halike
    exact ⟨_, .stopped hother, (henter hagrees).finish _⟩
  | called hvisit =>
    rw [hvisit] at halike
    obtain - | ⟨-, hagrees⟩ := halike
    exact ⟨_, .called hother, henter hagrees⟩
  | closed hvisit hnext =>
    rw [hvisit] at halike
    obtain - | ⟨-, hagrees⟩ := halike
    exact ⟨_, .closed hother hnext, (henter hagrees).finish _⟩
  | followed hvisit hnext =>
    rw [hvisit] at halike
    obtain - | ⟨-, hagrees⟩ := halike
    exact ⟨_, .followed hother hnext, henter hagrees⟩

theorem Walks.parallel {limit : Nat} {turn later other : Turn} {nodeId : String}
    {call? : Option Call} (hwalks : Walks limit turn nodeId later call?)
    (hparallel : turn.Parallel cells other) :
    ∃ otherLater, Walks limit other nodeId otherLater call? ∧
      later.Parallel cells otherLater := by
  induction hwalks generalizing other with
  | @missing turn _ hnode =>
    obtain ⟨context, activation⟩ := turn
    obtain ⟨otherContext, otherActivation⟩ := other
    obtain rfl : activation = otherActivation := hparallel.activation
    exact ⟨_, .missing hnode, hparallel.abort _ _⟩
  | @exhausted turn _ _ hnode hsteps =>
    obtain ⟨context, activation⟩ := turn
    obtain ⟨otherContext, otherActivation⟩ := other
    obtain rfl : activation = otherActivation := hparallel.activation
    exact ⟨_, .exhausted hnode hsteps, hparallel.abort _ _⟩
  | ended hnode hsteps hvisited =>
    obtain ⟨otherLater, hother, hlater⟩ := hvisited.parallel hparallel hnode
    rw [hparallel.activation] at hnode hsteps
    exact ⟨otherLater, .ended hnode hsteps hother, hlater⟩
  | called hnode hsteps hrunning hvisited =>
    obtain ⟨otherLater, hother, hlater⟩ := hvisited.parallel hparallel hnode
    rw [hparallel.activation] at hnode hsteps
    rw [hlater.activation] at hrunning
    exact ⟨otherLater, .called hnode hsteps hrunning hother, hlater⟩
  | followed hnode hsteps hvisited _ ih =>
    obtain ⟨otherMiddle, hother, hmiddle⟩ := hvisited.parallel hparallel hnode
    obtain ⟨otherLater, hrest, hlater⟩ := ih hmiddle
    rw [hparallel.activation] at hnode hsteps
    exact ⟨otherLater, .followed hnode hsteps hother hrest, hlater⟩

variable {left right : Context} {activation : Activation}
variable (hparallel : Parallel cells ⟨left, activation⟩ ⟨right, activation⟩)

include hparallel

theorem continueAt_parallel (limit : Nat) (nodeId : String) :
    SameEnd cells (continueAt limit nodeId ⟨left, activation⟩)
      (continueAt limit nodeId ⟨right, activation⟩) := by
  obtain ⟨later, hwalks, hlater⟩ :=
    (continueAt_walks limit nodeId ⟨left, activation⟩).parallel
      (hparallel.withState .running)
  have heq : continueAt limit nodeId ⟨right, activation⟩ = _ :=
    hwalks.continueAt_eq
  rw [heq]
  exact ⟨hlater, rfl⟩

theorem follow_parallel (limit : Nat) (node : CompiledNode) (port : Nat) :
    SameEnd cells (follow limit node port ⟨left, activation⟩)
      (follow limit node port ⟨right, activation⟩) := by
  unfold follow
  split
  · exact ⟨hparallel.finish _, rfl⟩
  · exact continueAt_parallel hparallel limit _

/-- A suspended activation takes the same turn in both contexts. -/
theorem resume_parallel (limit : Nat) (report : Report) :
    SameEnd cells (resume limit report ⟨left, activation⟩)
      (resume limit report ⟨right, activation⟩) := by
  have hcurrent : current? ⟨left, activation⟩ = current? ⟨right, activation⟩ :=
    rfl
  simp only [resume, hcurrent]
  split
  · split
    · exact ⟨hparallel.abort _ _, rfl⟩
    · split
      · exact ⟨hparallel.abort _ _, rfl⟩
      · exact follow_parallel hparallel limit _ _
  · exact ⟨hparallel, rfl⟩

theorem cancel_parallel : Parallel cells (cancel ⟨left, activation⟩)
    (cancel ⟨right, activation⟩) := by
  unfold cancel
  split
  · exact hparallel.finish _
  · exact hparallel

/-- An activation takes an answer in the same way in both contexts. -/
theorem receive_parallel (limit : Nat) (answer : Answer) :
    SameEnd cells (receive limit answer ⟨left, activation⟩)
      (receive limit answer ⟨right, activation⟩) := by
  have hcurrent : current? ⟨left, activation⟩ = current? ⟨right, activation⟩ :=
    rfl
  simp only [receive, hcurrent]
  split
  · exact ⟨hparallel.abort _ _, rfl⟩
  · split
    · split
      · exact ⟨hparallel.abort _ _, rfl⟩
      · split
        · exact follow_parallel hparallel limit _ _
        · exact ⟨hparallel, rfl⟩
    · split
      · exact ⟨hparallel.withState _, rfl⟩
      · exact ⟨hparallel, rfl⟩
    · split
      · exact ⟨hparallel.abort _ _, rfl⟩
      · exact ⟨hparallel, rfl⟩
    · exact ⟨cancel_parallel hparallel, rfl⟩

end Turns

end Turn

end StoryGraph
