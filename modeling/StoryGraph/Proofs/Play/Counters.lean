import Mathlib.Algebra.BigOperators.Group.List.Basic
import Mathlib.Algebra.Ring.Int.Defs
import Mathlib.Data.List.Nodup
import StoryGraph.Proofs.Number.Digits
import StoryGraph.Proofs.Play.Chronicle
import StoryGraph.Proofs.Play.Solo
import StoryGraph.Proofs.Table

/-!
# Counters

A variable that starts as an integer, and that all graphs change by integer
increments only, is a counter.  As long as the host does not edit the context, a
counter has been incremented exactly once for every visit of a node that
increments it, whatever becomes of the activations that make the visits: none of
their increments is lost, and none is repeated.
-/

namespace StoryGraph

/-! ## Increments by integers -/

namespace ActionProperties

/-- The amount of an increment, if it is an integer: the value, or the integer
that it spells, or one when it is null or empty.  Truth values are no integers
here. -/
def integerAmount? (properties : ActionProperties) : Option Int :=
  match properties.value with
  | .null => some 1
  | .int number => some number
  | .str text => if text = "" then some 1 else Numeral.integer? text
  | _ => none

theorem amount?_of_integerAmount? {properties : ActionProperties} {amount : Int}
    (hamount : properties.integerAmount? = some amount) :
    properties.amount? = some (.int amount) := by
  unfold integerAmount? at hamount
  unfold amount?
  split at hamount
  · next hvalue =>
    cases hamount
    rw [hvalue]
  · next number hvalue =>
    cases hamount
    rw [hvalue]
  · next text hvalue =>
    rw [hvalue]
    by_cases hempty : text = ""
    · rw [if_pos hempty] at hamount
      cases hamount
      simp [hempty]
    · rw [if_neg hempty] at hamount
      simp [hempty, Number.ofText?, hamount, Number.toValue]
  · cases hamount

end ActionProperties

namespace Context

/-- The variable is an integer, where a missing one is zero. -/
def IsCount (context : Context) (name : String) (count : Int) : Prop :=
  (context.getVariable? name).getD (.int 0) = .int count

variable {context : Context} {name : String} {count : Int}

theorem IsCount.congr (hcount : context.IsCount name count) {other : Context}
    (hsame : other.getVariable? name = context.getVariable? name) :
    other.IsCount name count := by
  rw [IsCount, hsame]
  exact hcount

theorem getVariable?_setVariable (context : Context) (target name : String)
    (value : Value) :
    (context.setVariable target value).getVariable? name =
      if name = target then some value else context.getVariable? name :=
  Table.find?_insert _ _ _ _

/-- An integer is added to an integer. -/
theorem IsCount.increment (hcount : context.IsCount name count) (amount : Int) :
    context.increment name (.int amount) =
      .ok (context.setVariable name (.int (count + amount)),
        .int (count + amount)) := by
  have hnumeric : context.numericVariable name = .ok (.int count) := by
    have hvalue : (context.values.find? name).getD (.int 0) = .int count :=
      hcount
    rw [numericVariable, hvalue]
  rw [Context.increment, hnumeric]
  rfl

/-- An increment changes no other variable. -/
theorem getVariable?_of_increment {target : String} {amount total : Value}
    {changed : Context}
    (hincrement : context.increment target amount = .ok (changed, total))
    (hother : name ≠ target) :
    changed.getVariable? name = context.getVariable? name := by
  unfold Context.increment at hincrement
  split at hincrement
  · cases hincrement
  · split at hincrement
    · cases hincrement
    · split at hincrement
      · cases hincrement
        rw [getVariable?_setVariable, if_neg hother]
      · cases hincrement

end Context

/-- An action on one variable changes no other one. -/
theorem ActionProperties.getVariable?_of_change {properties : ActionProperties}
    {action : ContextAction} {context changed : Context}
    (hchange : properties.change action context = .ok changed) {name : String}
    (hother : properties.target ≠ name ∨ action = .setFlag ∨
      action = .clearFlag) :
    changed.getVariable? name = context.getVariable? name := by
  unfold change at hchange
  split at hchange
  · cases hchange
  · cases action with
    | setVariable =>
      cases hchange
      rw [Context.getVariable?_setVariable,
        if_neg (Ne.symm (by simpa using hother))]
    | incrementVariable =>
      have hne : name ≠ properties.target := Ne.symm (by simpa using hother)
      simp only at hchange
      split at hchange
      · split at hchange <;> cases hchange
      · split at hchange
        · next hincrement =>
          cases hchange
          exact Context.getVariable?_of_increment hincrement hne
        · cases hchange
    | setFlag =>
      cases hchange
      rfl
    | clearFlag =>
      cases hchange
      rfl

namespace ActionProperties

variable {properties : ActionProperties} {action : ContextAction}
  {name : String}

/-- If the action works on the variable, it is an increment by an integer. -/
def IsCounter (properties : ActionProperties) (action : ContextAction)
    (name : String) : Prop :=
  properties.target = name → action ≠ .setVariable ∧
    (action = .incrementVariable → properties.integerAmount?.isSome = true)

instance (properties : ActionProperties) (action : ContextAction)
    (name : String) : Decidable (properties.IsCounter action name) :=
  inferInstanceAs (Decidable (_ → _ ∧ (_ → _)))

/-- By how much an action increments a variable. -/
def amountFor (properties : ActionProperties) (action : ContextAction)
    (name : String) : Int :=
  if action = .incrementVariable ∧ properties.target = name then
    properties.integerAmount?.getD 0
  else 0

theorem IsCounter.change_increment
    (hcounter : properties.IsCounter .incrementVariable name)
    (htarget : properties.target = name) (hname : name ≠ "") {context : Context}
    {count : Int} (hcount : context.IsCount name count) :
    properties.change .incrementVariable context = .ok (context.setVariable name
      (.int (count + properties.amountFor .incrementVariable name))) := by
  obtain ⟨amount, hamount⟩ :=
    Option.isSome_iff_exists.mp ((hcounter htarget).2 rfl)
  have hown : properties.amountFor .incrementVariable name = amount := by
    simp [amountFor, htarget, hamount]
  rw [change, if_neg (htarget ▸ hname), amount?_of_integerAmount? hamount,
    htarget, hown]
  simp only [hcount.increment]

/-- An action that is no increment of a counter leaves it alone. -/
theorem IsCounter.getVariable?_of_change
    (hcounter : properties.IsCounter action name)
    (hother : ¬ (action = .incrementVariable ∧ properties.target = name))
    {context changed : Context}
    (hchange : properties.change action context = .ok changed) :
    changed.getVariable? name = context.getVariable? name := by
  apply ActionProperties.getVariable?_of_change hchange
  by_cases htarget : properties.target = name
  · have hset := (hcounter htarget).1
    cases action with
    | setVariable => exact absurd rfl hset
    | incrementVariable => exact absurd ⟨rfl, htarget⟩ hother
    | setFlag => exact .inr (.inl rfl)
    | clearFlag => exact .inr (.inr rfl)
  · exact .inl htarget

end ActionProperties

namespace CompiledNode

/-- The action on the context that a node with valid data stands for. -/
def contextAction? (node : CompiledNode) :
    Option (ContextAction × ActionProperties) :=
  match node.properties with
  | .accepted properties => properties.contextAction?
  | .rejected _ => none

theorem effect_eq (node : CompiledNode) (context : Context) :
    node.effect context =
      match node.contextAction? with
      | some (change, details) =>
        match details.change change context with
        | .ok changed => changed
        | .error _ => context
      | none => context := by
  unfold effect contextAction? Properties.effect
  cases node.properties <;> rfl

/-- What a node with valid data does to the variable is to increment it by an
integer, if anything. -/
def IsCounter (node : CompiledNode) (name : String) : Prop :=
  ∀ found ∈ node.contextAction?, found.2.IsCounter found.1 name

instance (node : CompiledNode) (name : String) :
    Decidable (node.IsCounter name) :=
  inferInstanceAs
    (Decidable (∀ found ∈ node.contextAction?, found.2.IsCounter found.1 name))

/-- By how much a node increments a variable; one with invalid data does not. -/
def amountFor (node : CompiledNode) (name : String) : Int :=
  match node.contextAction? with
  | some (change, details) => details.amountFor change name
  | none => 0

theorem IsCounter.effect {node : CompiledNode} {name : String}
    (hcounter : node.IsCounter name) (hname : name ≠ "") {context : Context}
    {count : Int} (hcount : context.IsCount name count) :
    (node.effect context).IsCount name (count + node.amountFor name) := by
  rw [effect_eq]
  unfold amountFor
  cases haction : node.contextAction? with
  | none => simpa using hcount
  | some found =>
    obtain ⟨change, details⟩ := found
    have hdetails : details.IsCounter change name := hcounter _ haction
    by_cases hincrements : change = .incrementVariable ∧ details.target = name
    · obtain ⟨rfl, htarget⟩ := hincrements
      simp only [hdetails.change_increment htarget hname hcount]
      rw [Context.IsCount, Context.getVariable?_setVariable, if_pos rfl]
      rfl
    · have hnone : details.amountFor change name = 0 := if_neg hincrements
      simp only [hnone, Int.add_zero]
      split
      · next hchange =>
          exact hcount.congr
            (hdetails.getVariable?_of_change hincrements hchange)
      · exact hcount

end CompiledNode

namespace CompiledGraph

/-- The variable is a counter for all nodes. -/
def IsCounter (graph : CompiledGraph) (name : String) : Prop :=
  ∀ entry ∈ graph.nodes.entries, entry.2.IsCounter name

instance (graph : CompiledGraph) (name : String) :
    Decidable (graph.IsCounter name) :=
  inferInstanceAs
    (Decidable (∀ entry ∈ graph.nodes.entries, entry.2.IsCounter name))

/-- By how much the visit of a node increments a variable. -/
def amountAt (graph : CompiledGraph) (name nodeId : String) : Int :=
  match graph.nodes.find? nodeId with
  | some node => node.amountFor name
  | none => 0

/-- A visit increments a counter by the amount of its node. -/
theorem IsCounter.effectAt {graph : CompiledGraph} {name : String}
    (hcounter : graph.IsCounter name) (hname : name ≠ "") {context : Context}
    {count : Int} (hcount : context.IsCount name count) (nodeId : String) :
    (graph.effectAt nodeId context).IsCount name
      (count + graph.amountAt name nodeId) := by
  unfold CompiledGraph.effectAt amountAt
  cases hnode : graph.nodes.find? nodeId with
  | none => simpa using hcount
  | some node =>
    have hmem := (Table.lookup_eq_some_iff_mem graph.nodes.distinct).mp hnode
    exact (hcounter _ hmem).effect hname hcount

end CompiledGraph

/-! ## Deeds -/

namespace Deed

/-- By how much a deed increments a variable. -/
def amount (name : String) : Deed → Int
  | visit _ graph nodeId => graph.amountAt name nodeId
  | edit _ => 0

/-- The deed is a visit in a graph for which the variable is a counter. -/
def IsCounter (name : String) : Deed → Prop
  | visit _ graph _ => graph.IsCounter name
  | edit _ => False

/-- Visits increment a counter by the sum of their amounts. -/
theorem isCount_replay {deeds : List Deed} {name : String}
    (hcounter : ∀ deed ∈ deeds, deed.IsCounter name) (hname : name ≠ "")
    {context : Context} {count : Int} (hcount : context.IsCount name count) :
    (replay deeds context).IsCount name
      (count + (deeds.map (amount name)).sum) := by
  induction deeds generalizing context count with
  | nil =>
    rw [List.map_nil, List.sum_nil, Int.add_zero]
    exact hcount
  | cons deed deeds ih =>
    have hrest : ∀ other ∈ deeds, other.IsCounter name :=
      fun other hmem => hcounter other (List.mem_cons_of_mem _ hmem)
    have hfirst := hcounter deed (List.mem_cons_self ..)
    cases deed with
    | edit written => exact hfirst.elim
    | visit id graph nodeId =>
      have hgraph : graph.IsCounter name := hfirst
      have hafter := ih hrest (hgraph.effectAt hname hcount nodeId)
      rw [Int.add_assoc] at hafter
      exact hafter

/-- The deeds of some activations, summed up activation by activation. -/
theorem sum_amount_by_visitor {activations : List Activation}
    (hdistinct : (activations.map Activation.id).Nodup) {deeds : List Deed}
    (name : String)
    (hvisits : ∀ deed ∈ deeds, ∃ activation ∈ activations, ∃ nodeId,
      deed = .visit activation.id activation.graph nodeId) :
    (deeds.map (amount name)).sum = (activations.map fun activation =>
      ((deeds.filterMap (visitBy? activation.id)).map
        (activation.graph.amountAt name)).sum).sum := by
  induction deeds with
  | nil => simp
  | cons deed deeds ih =>
    obtain ⟨visitor, hvisitor, nodeId, rfl⟩ := hvisits _ (List.mem_cons_self ..)
    -- Only the visitor of the first deed has one more visit than the other
    -- deeds give it.
    have hparts : ∀ activation ∈ activations,
        (((Deed.visit visitor.id visitor.graph nodeId :: deeds).filterMap
          (visitBy? activation.id)).map (activation.graph.amountAt name)).sum =
        (if activation = visitor then visitor.graph.amountAt name nodeId
          else 0) +
          ((deeds.filterMap (visitBy? activation.id)).map
            (activation.graph.amountAt name)).sum := by
      intro activation hmem
      by_cases hsame : activation = visitor
      · subst hsame
        simp [visitBy?]
      · have hid : visitor.id ≠ activation.id :=
          fun hid => hsame (eq_of_distinct hdistinct hmem hvisitor hid.symm)
        simp [visitBy?, hsame, hid]
    have hcount : activations.count visitor = 1 :=
      List.count_eq_one_of_mem (List.Nodup.of_map _ hdistinct) hvisitor
    rw [List.map_congr_left hparts, List.sum_map_add, List.sum_map_ite_eq,
      hcount, ← ih fun other hmem =>
        hvisits other (List.mem_cons_of_mem _ hmem)]
    simp [amount]

end Deed

namespace Stage

open Deed

/-! ## Sessions -/

/-- The deeds of an event are visits, unless the host edits the context. -/
theorem edit_mem_deeds {stage : Stage} {event : Event} {context : Context}
    (hmem : .edit context ∈ stage.deeds event) : event = .write context := by
  unfold deeds at hmem
  split at hmem
  · cases List.mem_singleton.mp hmem
    rfl
  · obtain ⟨activation, -, hvisit⟩ := List.mem_flatMap.mp hmem
    obtain ⟨nodeId, -, heq⟩ := List.mem_map.mp hvisit
    cases heq

theorem edit_mem_chronicle {events : List Event} {stage : Stage}
    {context : Context}
    (hmem : .edit context ∈ chronicle events stage) :
    .write context ∈ events := by
  induction events generalizing stage with
  | nil => cases hmem
  | cons event events ih =>
    rcases List.mem_append.mp hmem with hfirst | hrest
    · rw [edit_mem_deeds hfirst]
      exact List.mem_cons_self ..
    · exact List.mem_cons_of_mem _ (ih hrest)

/-- If the host does not edit the context, a counter is at any time what it was
at the start and the sum of the amounts of all nodes that increment it, for each
visit that any activation has made. -/
theorem counter_exact {limit : Nat} {supported : String} {context : Context}
    {events : List Event} {name : String} {start : Int} (hname : name ≠ "")
    (hstart : (context.getVariable? name).getD (.int 0) = .int start)
    (hunwritten : ∀ written, .write written ∉ events)
    (hcounter :
      ∀ activation ∈
        (session events (initial limit supported context)).1.activations,
      activation.graph.IsCounter name) :
    let stage := (session events (initial limit supported context)).1
    (stage.context.getVariable? name).getD (.int 0) =
      .int (start + (stage.activations.map fun activation =>
        (activation.visited.toList.map
          (activation.graph.amountAt name)).sum).sum) := by
  intro stage
  have hstage : stage.Orderly :=
    Reachable.orderly ⟨limit, supported, context, events, rfl⟩
  have haccounts :=
    (initial_orderly limit supported context).session_accounts events
  have hvisits : ∀ deed ∈ chronicle events (initial limit supported context),
      ∃ activation ∈ stage.activations, ∃ nodeId,
        deed = .visit activation.id activation.graph nodeId := by
    intro deed hdeed
    cases deed with
    | edit written =>
      exact absurd (edit_mem_chronicle hdeed) (hunwritten written)
    | visit id graph nodeId =>
      obtain ⟨activation, hmem, rfl, rfl⟩ := haccounts.visitor hdeed
      exact ⟨activation, hmem, nodeId, rfl⟩
  have hcounts : ∀ deed ∈ chronicle events (initial limit supported context),
      deed.IsCounter name := by
    intro deed hdeed
    obtain ⟨activation, hmem, nodeId, rfl⟩ := hvisits deed hdeed
    exact hcounter activation hmem
  have hcount := isCount_replay hcounts hname hstart
  rw [sum_amount_by_visitor hstage.distinct name hvisits] at hcount
  have hsums :
      (stage.activations.map fun activation =>
        (((chronicle events (initial limit supported context)).filterMap
          (visitBy? activation.id)).map (activation.graph.amountAt name)).sum) =
            stage.activations.map fun activation =>
              (activation.visited.toList.map
                (activation.graph.amountAt name)).sum := by
    apply List.map_congr_left
    intro activation hmem
    rw [haccounts.visits_of_mem hstage hmem]
  rw [hsums] at hcount
  have hvalues :
      stage.context.values =
        (replay (chronicle events (initial limit supported context))
          context).values :=
    congrArg Prod.fst haccounts.content
  exact hcount.congr (congrArg (Table.find? · name) hvalues)

/-- Each of the two activations has paid once, also the one that was resumed
twice. -/
theorem tollgate_paid :
    (travelled.1.context.getVariable? "paid").getD (.int 0) =
        .int (0 + (travelled.1.activations.map fun activation =>
          (activation.visited.toList.map
            (activation.graph.amountAt "paid")).sum).sum) ∧
      travelled.1.activations.map (fun activation =>
        activation.visited.toList.map (activation.graph.amountAt "paid")) =
          [[0, 2, 0, 0], [0, 2, 0, 0]] := by
  refine ⟨?_, by decide +kernel⟩
  refine @counter_exact 256 ">=1.0" .empty travellers "paid" 0
    (by decide) rfl ?_ ?_
  · simp [travellers]
  · decide +kernel

/-! ## A numeral that is too long -/

/-- An increment by the number that a text spells. -/
def payment (amount : String) : CompiledNode :=
  ⟨.action,
    ⟨[("actionType", .str "increment_variable"), ("target", .str "paid"),
      ("value", .str amount)], by simp⟩, [[]]⟩

/-- A trigger that leads to a payment. -/
def ransom (amount : String) : CompiledGraph :=
  ⟨"ransom", "", some "letter", [⟨"letter", "player_enter", "always"⟩],
    ⟨[("letter", ⟨.trigger, .empty, [["pay"]]⟩),
      ("pay", payment amount)], by simp⟩,
    ambush.metadata⟩

section Ransom

variable {amount : String} {number : Number} {total : Value}
  (hfilled : amount ≠ "") (hread : Number.ofText? amount = some number)
  (htotal : Context.sum? (.int 0) number = some total)

include hfilled hread htotal

theorem visit_payment {context : Context} (hcontext : context.values = .empty) :
    (payment amount).visit context =
      .ok (.follow 0, context.setVariable "paid" total) := by
  have hnumber : number.toValue.number? = some number := by cases number <;> rfl
  have hnumeric : context.numericVariable "paid" = .ok (.int 0) := by
    rw [Context.numericVariable, hcontext]
    rfl
  have hincrement : context.increment "paid" number.toValue =
      .ok (context.setVariable "paid" total, total) := by
    rw [Context.increment, hnumeric]
    simp only [hnumber, htotal]
  have hchange :
      ActionProperties.change ⟨"increment_variable", "paid", .str amount⟩
        .incrementVariable context =
          .ok (context.setVariable "paid" total) := by
    simp [ActionProperties.change, ActionProperties.amount?, hfilled, hread,
      hincrement]
  have hproperties : (payment amount).properties =
      .accepted (.action ⟨"increment_variable", "paid", .str amount⟩) := rfl
  have hkind : ActionKind.ofWord? "increment_variable" =
      some (.onContext .incrementVariable) := by decide
  rw [CompiledNode.visit, hproperties]
  simp only [Properties.visit, hkind, hchange]
  rfl

theorem opening_ransom :
    opening 256 .empty (ransom amount) "letter" =
      ((Turn.mk ((Context.empty.activate firstId).setVariable "paid" total)
        ((((Activation.start firstId (ransom amount) "letter").withState
          .running).enter "letter").enter "pay")).finish .completed, none) := by
  have hfirst : (ransom amount).nodes.find? "letter" =
      some ⟨.trigger, .empty, [["pay"]]⟩ := rfl
  have hsecond : (ransom amount).nodes.find? "pay" = some (payment amount) :=
    rfl
  have hletter (turn : Turn) :
    turn.visitNode "letter" ⟨.trigger, .empty, [["pay"]]⟩ =
      (turn.enter "letter", .node "pay") := rfl
  have hpay (turn : Turn) (hcontext : turn.context.values = .empty) :
      turn.visitNode "pay" (payment amount) =
        ((Turn.mk (turn.context.setVariable "paid" total)
          (turn.activation.enter "pay")).finish .completed, .nowhere) := by
    simp only [Turn.visitNode, visit_payment hfilled hread htotal
      (show (turn.enter "pay").context.values = .empty from hcontext)]
    rfl
  rw [opening, Turn.continueAt, Turn.run]
  simp only [Activation.start, Activation.withState, hfirst, hletter]
  change Turn.run 256 255 "pay" _ = _
  rw [Turn.run]
  simp only [Turn.enter, Activation.enter, hsecond]
  rw [hpay]
  · rfl
  · rfl

/-- A single payment into an empty context. -/
theorem ransom_paid :
    let stage :=
      (session [.activate (ransom amount) none] (initial 256 ">=1.0" .empty)).1
    stage.activations.map (·.visited.toList) = [["letter", "pay"]] ∧
      stage.context.getVariable? "paid" = some total := by
  have hversion :
      (initial 256 ">=1.0" .empty).checkVersion (ransom amount) = .ok () := by
    have hsupported :
        supportOf ambush.metadata.version ">=1.0" = .satisfied := by
      decide +kernel
    unfold checkVersion
    split <;> simp_all [ransom, initial]
  have hentry : entryOf (ransom amount) none = .ok "letter" := rfl
  simp only [session_cons, session_nil, step, activate_initial hversion hentry,
    opening_ransom hfilled hread htotal]
  exact ⟨rfl, rfl⟩

end Ransom

theorem ofText?_long :
    Number.ofText? (Numeral.ones (Numeral.digitBound + 1)) =
      some (.float (.infinity false)) := by
  have hfloat : Decimal.toBinary64 false
      ⟨Numeral.ofDigits (List.replicate (Numeral.digitBound + 1) 1), 0⟩ =
        .infinity false := by
    decide +kernel
  rw [Number.ofText?, Numeral.integer?_ones (Nat.le_refl _),
    Numeral.float?_ones, hfloat]
  rfl

/-- A numeral with too many digits is counted as infinite. -/
theorem long_numeral_uncounted :
    let amount := Numeral.ones (Numeral.digitBound + 1)
    let stage :=
      (session [.activate (ransom amount) none] (initial 256 ">=1.0" .empty)).1
    ∃ count : Int,
      Numeral.integerOf? Numeral.groupedDigits (Text.trimNumeral amount) =
        some count ∧
      stage.activations.map (·.visited.toList) = [["letter", "pay"]] ∧
      (stage.context.getVariable? "paid").getD (.int 0) =
        .float (.infinity false) ∧
      (stage.context.getVariable? "paid").getD (.int 0) ≠ .int (0 + count) := by
  have htotal : Context.sum? (.int 0) (.float (.infinity false)) =
      some (.float (.infinity false)) := by
    decide +kernel
  obtain ⟨hvisited, hpaid⟩ :=
    ransom_paid (Numeral.ones_succ_ne_empty Numeral.digitBound)
      ofText?_long htotal
  refine ⟨_, Numeral.integerOf?_ones _, hvisited, ?_, ?_⟩
  · rw [hpaid, Option.getD_some]
  · rw [hpaid, Option.getD_some]
    exact nofun

end Stage

end StoryGraph
