import Mathlib.Algebra.Ring.Int.Defs
import StoryGraph.Proofs.Play.Cause
import StoryGraph.Proofs.Play.Exchange
import StoryGraph.Proofs.Trigger

/-!
# Who is to blame

The code of a failure tells who is to blame.  A node that makes no call fails
with a code of its own kind, whatever the values in the context and in its data
are, with two exceptions: the sum of an integer and a floating point number may
be too large, and a value that should be shown may hold an integer without a
numeral.  Both are reported like a failure of the host.  All other failures that
are reported as those of the host are its own: it has failed to answer the call
that the activation had made at the node where it stands.
-/

namespace StoryGraph

/-! ## Codes of nodes -/

/-- A trigger fails on a value that cannot be shown if it compares one. -/
theorem Trigger.evaluate_eq_unspellable_iff {text : String}
    {context : Context} :
    evaluate text context = .error .unspellable ↔
      ∃ trigger, parse text = .ok trigger ∧ trigger.CannotShow context := by
  rw [evaluate]
  cases hparse : parse text with
  | ok trigger => simp [Except.bind, holds_eq_error_iff]
  | error error =>
    have hother : error ≠ .unspellable := fun heq =>
      parse_ne_unspellable text (heq ▸ hparse)
    simp [Except.bind, hother]

namespace ConditionProperties

/-- The condition compares two values that cannot be compared, and one of them
cannot be shown. -/
def CannotShow (properties : ConditionProperties) (context : Context) : Prop :=
  properties.conditionType ≠ .always ∧ properties.key ≠ "" ∧
    Condition.CannotShow properties.operator
      (Condition.stored properties.conditionType properties.key context)
      properties.value

theorem evaluate_eq_unspellable_iff {properties : ConditionProperties}
    {context : Context} :
    Condition.evaluate properties.conditionType properties.operator
        properties.value properties.key context = .error .unspellable ↔
      properties.CannotShow context := by
  unfold Condition.evaluate CannotShow
  split
  · next halways => simp [halways]
  · next halways =>
    split
    · next hkey => simp [hkey]
    · next hkey => simp [Condition.compare_eq_error_iff, halways, hkey]

end ConditionProperties

namespace Properties

/-- The record is an increment whose sum is too large. -/
def Overflows (properties : Properties) (context : Context) : Prop :=
  ∃ details, properties.contextAction? = some (.incrementVariable, details) ∧
    details.Overflows context

/-- The record is a comparison or an increment that has to show a value that
cannot be shown. -/
def CannotShow (properties : Properties) (context : Context) : Prop :=
  match properties with
  | .trigger properties =>
    ∃ trigger, Trigger.parse properties.condition = .ok trigger ∧
      trigger.CannotShow context
  | .condition properties => properties.CannotShow context
  | properties =>
    ∃ details, properties.contextAction? = some (.incrementVariable, details) ∧
      details.CannotShow context

/-- The code with which a record fails, unless it calls the host. -/
def ownCode? : Properties → Option String
  | .trigger _ | .condition _ => some "INVALID_CONDITION"
  | .action properties =>
    match ActionKind.ofWord? properties.actionType with
    | none => some "UNKNOWN_ACTION_TYPE"
    | some (.onContext _) => some "INVALID_ACTION"
    | some (.delegated _) => none
  | .dialogue _ | .encounter _ | .teleport _ => none

theorem visit_of_overflows {properties : Properties} {context : Context}
    (hoverflows : properties.Overflows context) :
    properties.visit context = .error (.increment .tooLarge) := by
  obtain ⟨details, haction, hdetails⟩ := hoverflows
  cases properties with
  | action properties =>
    simp only [contextAction?] at haction
    split at haction
    · next hknown =>
      cases haction
      simp [visit, hknown, ActionProperties.change_of_overflows hdetails,
        Except.map]
    · cases haction
  | trigger properties => cases haction
  | condition properties => cases haction
  | dialogue properties => cases haction
  | encounter properties => cases haction
  | teleport properties => cases haction

theorem visit_of_cannotShow {properties : Properties} {context : Context}
    (hshown : properties.CannotShow context) :
    ∃ failure, properties.visit context = .error failure ∧
      failure.isUnspellable = true := by
  cases properties with
  | trigger properties =>
    have hevaluate := Trigger.evaluate_eq_unspellable_iff.mpr hshown
    exact ⟨.condition .unspellable, by simp only [visit, hevaluate], rfl⟩
  | condition properties =>
    have hevaluate := ConditionProperties.evaluate_eq_unspellable_iff.mpr hshown
    exact ⟨.condition .unspellable, by simp only [visit, hevaluate], rfl⟩
  | action properties =>
    obtain ⟨details, haction, hdetails⟩ := hshown
    simp only [contextAction?] at haction
    split at haction
    · next hknown =>
      cases haction
      obtain ⟨failure, hchange, hunspellable⟩ :=
        ActionProperties.change_of_cannotShow hdetails
      exact ⟨failure, by simp [visit, hknown, hchange, Except.map],
        hunspellable⟩
    · cases haction
  | dialogue properties => cases hshown.choose_spec.1
  | encounter properties => cases hshown.choose_spec.1
  | teleport properties => cases hshown.choose_spec.1

/-- A visit fails with the code of the record, unless a sum is too large or a
value cannot be shown. -/
theorem code_of_visit {properties : Properties} {context : Context}
    {failure : Failure} (hvisit : properties.visit context = .error failure) :
    properties.ownCode? = some failure.code ∨
      failure = .increment .tooLarge ∧ properties.Overflows context ∨
        failure.isUnspellable = true ∧ properties.CannotShow context := by
  cases properties with
  | trigger properties =>
    simp only [visit] at hvisit
    split at hvisit
    · cases hvisit
    · next error herror =>
      cases hvisit
      by_cases hunspellable : error = .unspellable
      · subst hunspellable
        exact .inr (.inr ⟨rfl, Trigger.evaluate_eq_unspellable_iff.mp herror⟩)
      · exact .inl (by rw [Failure.code_condition, if_neg hunspellable]; rfl)
  | condition properties =>
    simp only [visit] at hvisit
    split at hvisit
    · cases hvisit
    · next error herror =>
      cases hvisit
      by_cases hunspellable : error = .unspellable
      · subst hunspellable
        exact .inr (.inr
          ⟨rfl, ConditionProperties.evaluate_eq_unspellable_iff.mp herror⟩)
      · exact .inl (by rw [Failure.code_condition, if_neg hunspellable]; rfl)
  | action properties =>
    simp only [visit] at hvisit
    split at hvisit
    · next hunknown =>
      cases hvisit
      simp [ownCode?, hunknown, Failure.code]
    · next change hknown =>
      cases hchange : properties.change change context with
      | ok changed =>
        rw [hchange] at hvisit
        cases hvisit
      | error error =>
        rw [hchange] at hvisit
        cases hvisit
        have haction : (Properties.action properties).contextAction? =
            some (change, properties) := by
          simp [contextAction?, hknown]
        rcases ActionProperties.code_of_change hchange with
          hcode | ⟨rfl, ⟨rfl, hoverflows⟩ | ⟨hunspellable, hshown⟩⟩
        · simp [ownCode?, hknown, hcode]
        · exact .inr (.inl ⟨rfl, properties, haction, hoverflows⟩)
        · exact .inr (.inr ⟨hunspellable, properties, haction, hshown⟩)
    · cases hvisit
  | dialogue properties => cases hvisit
  | encounter properties => cases hvisit
  | teleport properties => cases hvisit

end Properties

namespace CompiledNode

/-- The node is an increment whose sum is too large in the context. -/
def Overflows (node : CompiledNode) (context : Context) : Prop :=
  ∃ properties, node.properties = .accepted properties ∧
    properties.Overflows context

/-- The node has to show a value in the context that cannot be shown. -/
def CannotShow (node : CompiledNode) (context : Context) : Prop :=
  ∃ properties, node.properties = .accepted properties ∧
    properties.CannotShow context

/-- The code with which a node fails, unless it calls the host. -/
def ownCode? (node : CompiledNode) : Option String :=
  match node.properties with
  | .accepted properties => properties.ownCode?
  | .rejected _ => some "INVALID_NODE_DATA"

/-- The node has one of four codes. -/
theorem ownCode?_mem {node : CompiledNode} {code : String}
    (hown : node.ownCode? = some code) :
    code ∈ ["INVALID_CONDITION", "INVALID_ACTION", "UNKNOWN_ACTION_TYPE",
      "INVALID_NODE_DATA"] := by
  unfold ownCode? Properties.ownCode? at hown
  split at hown
  · split at hown
    · cases hown
      decide
    · cases hown
      decide
    · split at hown
      · cases hown
        decide
      · cases hown
        decide
      · cases hown
    all_goals cases hown
  · cases hown
    decide

theorem visit_of_overflows {node : CompiledNode} {context : Context}
    (hoverflows : node.Overflows context) :
    node.visit context = .error (.increment .tooLarge) := by
  obtain ⟨properties, hproperties, hsum⟩ := hoverflows
  rw [visit, hproperties]
  exact Properties.visit_of_overflows hsum

theorem visit_of_cannotShow {node : CompiledNode} {context : Context}
    (hshown : node.CannotShow context) :
    ∃ failure, node.visit context = .error failure ∧
      failure.isUnspellable = true := by
  obtain ⟨properties, hproperties, hvalue⟩ := hshown
  rw [visit, hproperties]
  exact Properties.visit_of_cannotShow hvalue

/-- A visit fails with the code of the node, unless a sum is too large or a
value cannot be shown. -/
theorem code_of_visit {node : CompiledNode} {context : Context}
    {failure : Failure} (hvisit : node.visit context = .error failure) :
    node.ownCode? = some failure.code ∨
      failure = .increment .tooLarge ∧ node.Overflows context ∨
        failure.isUnspellable = true ∧ node.CannotShow context := by
  rw [visit] at hvisit
  rw [ownCode?]
  cases hproperties : node.properties with
  | accepted properties =>
    rw [hproperties] at hvisit
    rcases Properties.code_of_visit hvisit with
      hcode | ⟨hfailure, hsum⟩ | ⟨hfailure, hshown⟩
    · exact .inl hcode
    · exact .inr (.inl ⟨hfailure, properties, hproperties, hsum⟩)
    · exact .inr (.inr ⟨hfailure, properties, hproperties, hshown⟩)
  | rejected issues =>
    rw [hproperties] at hvisit
    cases hvisit
    exact .inl rfl

/-- The code of a visit that fails is the node's own or the host's. -/
theorem own_or_host {node : CompiledNode} {context : Context}
    {failure : Failure} (hvisit : node.visit context = .error failure) :
    (failure = .increment .tooLarge ↔ node.Overflows context) ∧
      (failure.isUnspellable = true ↔ node.CannotShow context) ∧
      (¬ node.Overflows context → ¬ node.CannotShow context →
        node.ownCode? = some failure.code) := by
  -- The codes of the node and of the host are different.
  have hother : node.ownCode? = some failure.code →
      failure.code ≠ "COLLABORATOR_FAILURE" := by
    intro hown hcode
    have hmem := ownCode?_mem hown
    simp [hcode] at hmem
  refine ⟨⟨?_, ?_⟩, ⟨?_, ?_⟩, ?_⟩
  · rintro rfl
    rcases code_of_visit hvisit with hown | ⟨-, hoverflows⟩ | ⟨hunspellable, -⟩
    · exact absurd rfl (hother hown)
    · exact hoverflows
    · cases hunspellable
  · intro hoverflows
    cases (visit_of_overflows hoverflows).symm.trans hvisit
    rfl
  · intro hunspellable
    rcases code_of_visit hvisit with hown | ⟨rfl, -⟩ | ⟨-, hshown⟩
    · exact absurd (Failure.code_of_isUnspellable hunspellable) (hother hown)
    · cases hunspellable
    · exact hshown
  · intro hshown
    obtain ⟨other, hfails, hunspellable⟩ := visit_of_cannotShow hshown
    cases hfails.symm.trans hvisit
    exact hunspellable
  · intro hfits hspellable
    rcases code_of_visit hvisit with hown | ⟨-, hoverflows⟩ | ⟨-, hshown⟩
    · exact hown
    · exact absurd hoverflows hfits
    · exact absurd hshown hspellable

end CompiledNode

/-! ## Failures in a session -/

namespace Stage

open Activation Deed

/-- The host has failed: after some of the events the activation was running at
the node of the diagnostic, with the call of this node open, and the next event
was the answer that the host had failed, which has aborted the activation. -/
inductive HostFails (start : Stage) (events : List Event)
    (activation : Activation) (diagnostic : Diagnostic) : Prop where
  | answered {before rest : List Event} {kind text : String}
    {earlier : Activation} {node : CompiledNode} {call : Call}
    (hevents : events = before ++ .answer activation.id (.failed kind text) ::
      rest)
    (hstarted : (session before start).1.started? activation.id = some earlier)
    (hrunning : earlier.state = .running)
    (hstands : earlier.StandsAt diagnostic.nodeId node)
    (hmakes : node.Makes call)
    (hcall : Exchange.latest (before.zip (session before start).2)
      activation.id = some ⟨call, none⟩)
    (hfailure : diagnostic.failure = .host kind text)
    (haborted : activation = earlier.withState (.aborted diagnostic)) :
    HostFails start events activation diagnostic

/-- The last visit of the activation has failed for a reason that the node had
in the context to which the earlier deeds of the session led. -/
inductive VisitFails (reason : CompiledNode → Context → Failure → Prop)
    (start : Stage) (events : List Event) (activation : Activation)
    (diagnostic : Diagnostic) : Prop where
  | visited {earlier : List Deed} {node : CompiledNode}
    (hlast : LastVisit (chronicle events start) earlier activation
      diagnostic.nodeId)
    (hnode : activation.graph.nodes.find? diagnostic.nodeId = some node)
    (hreason : reason node (replay earlier start.context) diagnostic.failure) :
    VisitFails reason start events activation diagnostic

/-- The last visit of the activation was at an increment whose sum was too
large. -/
abbrev SumFails : Stage → List Event → Activation → Diagnostic → Prop :=
  VisitFails fun node context failure =>
    failure = .increment .tooLarge ∧ node.Overflows context

/-- At its last visit the activation had to show a value that cannot be
shown. -/
abbrev ShowFails : Stage → List Event → Activation → Diagnostic → Prop :=
  VisitFails fun node context failure =>
    failure.isUnspellable = true ∧ node.CannotShow context

/-- An activation with an open call stands at the node that makes it. -/
theorem latest_of_task {limit : Nat} {supported : String} {context : Context}
    {events : List Event} {activation : Activation}
    (hstarted : (session events (initial limit supported context)).1.started?
      activation.id = some activation)
    (htask : activation.id ∈
      (session events (initial limit supported context)).1.tasks.map
        Task.activationId) :
    ∃ call, activation.StandsByCall call ∧ Exchange.latest
      (events.zip (session events (initial limit supported context)).2)
      activation.id =
        some ⟨call, none⟩ := by
  have htracks :=
    @Tracks.session _ events _ (initial_tracks limit supported context)
      (initial_orderly limit supported context)
  obtain ⟨task, hmem, hid⟩ := List.mem_map.mp htask
  obtain ⟨found, call, hfound, hlatest, hstands⟩ := htracks.awaited task hmem
  rw [hid] at hfound hlatest
  rw [hstarted] at hfound
  cases hfound
  exact ⟨call, hstands, hlatest⟩

/-- What is reported as a failure of the host is one, or a sum was too large, or
a value could not be shown. -/
theorem Cause.blame {limit : Nat} {supported : String} {context : Context}
    {events : List Event} {activation : Activation} {diagnostic : Diagnostic}
    (hcause : (initial limit supported context).Cause events
      (chronicle events (initial limit supported context)) activation)
    (haborted : activation.state = .aborted diagnostic)
    (hcode : diagnostic.code = "COLLABORATOR_FAILURE") :
    (initial limit supported context).HostFails events activation diagnostic ∨
      (initial limit supported context).SumFails events activation diagnostic ∨
      (initial limit supported context).ShowFails events activation
        diagnostic := by
  cases hcause with
  | visit hlast hnode hends =>
    rw [haborted] at hends
    cases hends with
    | failed hvisit =>
      rcases CompiledNode.code_of_visit hvisit with hown | hoverflows | hshown
      · have hmem := CompiledNode.ownCode?_mem hown
        rw [Diagnostic.code] at hcode
        simp [hcode] at hmem
      · exact .inr (.inl (.visited hlast hnode hoverflows))
      · exact .inr (.inr (.visited hlast hnode hshown))
  | @blocked nodeId failure hbefore hstate =>
    cases haborted.symm.trans hstate
    cases failure <;>
      simp [Failure.beforeVisit, Diagnostic.code, Failure.code] at hbefore hcode
  | @host before rest event earlier hevents hstarted hopen hended =>
    cases hended with
    | closed => cases haborted
    | unreadable =>
      cases haborted
      simp [Diagnostic.code, Failure.code] at hcode
    | @failed kind text nodeId node hrunning hstands =>
      cases haborted
      obtain ⟨call, ⟨caller, calling, hcaller, hmakes⟩, hlatest⟩ :=
        latest_of_task hstarted (hopen _ rfl)
      -- The node that made the open call is the one where the activation
      -- stands.
      have hsame : caller = nodeId :=
        Option.some.inj (hcaller.1.symm.trans hstands.1)
      subst hsame
      exact .inl (.answered hevents hstarted hrunning hcaller hmakes
        hlatest rfl rfl)
    | cancelled => cases haborted
    | interrupted => cases haborted

/-- In every session an activation is aborted with the code for failures of the
host exactly if the host has failed to answer the call of the node where it
stands, or if a sum was too large there, or a value could not be shown there.
Every visit that fails is one of a node that makes no call; it aborts its
activation, and unless a sum is too large or a value cannot be shown, it does so
with the code of the node. -/
theorem failures_blamed (limit : Nat) (supported : String) (context : Context)
    (events : List Event) :
    let start := initial limit supported context
    (∀ activation ∈ (session events start).1.activations, ∀ diagnostic,
      activation.state = .aborted diagnostic →
      (diagnostic.code = "COLLABORATOR_FAILURE" ↔
        start.HostFails events activation diagnostic ∨
          start.SumFails events activation diagnostic ∨
          start.ShowFails events activation diagnostic)) ∧
    ∀ earlier id graph nodeId later node failure,
      chronicle events start = earlier ++ .visit id graph nodeId :: later →
      graph.nodes.find? nodeId = some node →
      node.visit (replay earlier context) = .error failure →
      node.call? = none ∧
      (∃ activation ∈ (session events start).1.activations, activation.id = id ∧
        activation.state = .aborted ⟨nodeId, failure⟩) ∧
      (failure = .increment .tooLarge ↔
        node.Overflows (replay earlier context)) ∧
      (failure.isUnspellable = true ↔
        node.CannotShow (replay earlier context)) ∧
      (¬ node.Overflows (replay earlier context) →
        ¬ node.CannotShow (replay earlier context) →
        node.ownCode? = some failure.code) := by
  intro start
  have hexplains := session_explains limit supported context events
  constructor
  · intro activation hmem diagnostic haborted
    have hended : activation.isLive = false := by rw [isLive, haborted]; rfl
    constructor
    · exact (hexplains.causes activation hmem hended).blame haborted
    · rintro (⟨-, -, -, -, -, -, hfailure, -⟩ | ⟨-, -, hfailure, -⟩ |
        ⟨-, -, hunspellable, -⟩)
      · rw [Diagnostic.code, hfailure]
        rfl
      · rw [Diagnostic.code, hfailure]
        rfl
      · exact Failure.code_of_isUnspellable hunspellable
  · intro earlier id graph nodeId later node failure hdeeds hnode hfailed
    obtain ⟨activation, hstarted, hstate⟩ :=
      hexplains.surfaces earlier id graph nodeId later node failure hdeeds
        hnode hfailed
    exact ⟨(CompiledNode.visit_failed hfailed).2,
      ⟨activation, List.mem_of_find?_eq_some hstarted, started?_id hstarted,
        hstate⟩,
      CompiledNode.own_or_host hfailed⟩

/-- A gift of one and a half coins, a fee in the name of the owner, and a
trigger that compares a fame with a word. -/
def ledger : CompiledGraph :=
  ⟨"ledger", "", some "gift",
    [⟨"gift", "interact", "always"⟩, ⟨"fee", "interact", "always"⟩,
      ⟨"boast", "interact", "fame > abc"⟩],
    ⟨[("gift", ⟨.trigger, .empty, [["pay"]]⟩),
      ("pay", ⟨.action,
        ⟨[("actionType", .str "increment_variable"), ("target", .str "coins"),
          ("value", .float (Decimal.toBinary64 false ⟨15, -1⟩))], by decide⟩,
            [[]]⟩),
      ("fee", ⟨.trigger, .empty, [["charge"]]⟩),
      ("charge", ⟨.action,
        ⟨[("actionType", .str "increment_variable"), ("target", .str "owner")],
          by decide⟩, [[]]⟩),
      ("boast", ⟨.trigger, ⟨[("condition", .str "fame > abc")], by decide⟩,
        [[]]⟩)],
      by decide⟩,
    ambush.metadata⟩

/-- More coins than any floating point number can count, and more fame than any
numeral can tell. -/
def wealth : Context :=
  ⟨⟨[("coins", .int (10 ^ 400)), ("owner", .str "Ann"),
    ("fame", .int Numeral.leastUnspellable)], by decide⟩, .empty, .empty⟩

/-- The entries of `ledger`, and an encounter in which the host fails. -/
def audit : List Event :=
  [.activate ledger none, .activate ledger (some "fee"), .activate ambush none,
    .answer "act_3" (.failed "RuntimeError" "no creature"),
    .activate ledger (some "boast")]

/-- The failure of an activation of the audit. -/
def Audited (id : String) (diagnostic : Diagnostic) : Prop :=
  ∃ activation ∈ (session audit (initial 256 ">=1.0" wealth)).1.activations,
    activation.id = id ∧ activation.state = .aborted diagnostic

instance (id : String) (diagnostic : Diagnostic) :
    Decidable (Audited id diagnostic) :=
  inferInstanceAs (Decidable (∃ activation ∈ _, _ ∧ _))

theorem coins_audited :
    Audited "act_1" ⟨"pay", .increment .tooLarge⟩ := by decide +kernel

theorem audit_blamed :
    (∃ activation ∈ (session audit (initial 256 ">=1.0" wealth)).1.activations,
      activation.id = "act_1" ∧
        (initial 256 ">=1.0" wealth).SumFails audit activation
        ⟨"pay", .increment .tooLarge⟩) ∧
    (∃ failure, Audited "act_2" ⟨"charge", failure⟩ ∧
      failure.code = "INVALID_ACTION") ∧
    (∃ activation ∈ (session audit (initial 256 ">=1.0" wealth)).1.activations,
      activation.id = "act_3" ∧
        (initial 256 ">=1.0" wealth).HostFails audit activation
        ⟨"wild", .host "RuntimeError" "no creature"⟩) ∧
    ∃ activation ∈ (session audit (initial 256 ">=1.0" wealth)).1.activations,
      activation.id = "act_4" ∧
        (initial 256 ">=1.0" wealth).ShowFails audit activation
        ⟨"boast", .condition .unspellable⟩ := by
  obtain ⟨hblame, hsurfaces⟩ := failures_blamed 256 ">=1.0" wealth audit
  refine ⟨?_, ?_, ?_, ?_⟩
  · obtain ⟨activation, hmem, hid, hstate⟩ := coins_audited
    refine ⟨activation, hmem, hid, ?_⟩
    rcases (hblame activation hmem _ hstate).mp rfl with
      ⟨-, -, -, -, -, -, hhost, -⟩ | hsum | ⟨-, -, hshown, -⟩
    · cases hhost
    · exact hsum
    · cases hshown
  · obtain ⟨-, haudited, -⟩ := hsurfaces
      [.visit "act_1" ledger "gift", .visit "act_1" ledger "pay",
        .visit "act_2" ledger "fee"]
      "act_2" ledger "charge"
      [.visit "act_3" ambush "entry", .visit "act_3" ambush "wild",
        .visit "act_4" ledger "boast"]
      _ (.increment (.notNumeric "owner" (.str "Ann"))) (by decide +kernel) rfl
      (by decide +kernel)
    exact ⟨_, haudited, rfl⟩
  · have haudited :
        Audited "act_3" ⟨"wild", .host "RuntimeError" "no creature"⟩ := by
      decide +kernel
    obtain ⟨activation, hmem, hid, hstate⟩ := haudited
    refine ⟨activation, hmem, hid, ?_⟩
    rcases (hblame activation hmem _ hstate).mp rfl with
      hhost | ⟨-, -, hsum, -⟩ | ⟨-, -, hshown, -⟩
    · exact hhost
    · cases hsum
    · cases hshown
  · have haudited : Audited "act_4" ⟨"boast", .condition .unspellable⟩ := by
      decide +kernel
    obtain ⟨activation, hmem, hid, hstate⟩ := haudited
    refine ⟨activation, hmem, hid, ?_⟩
    rcases (hblame activation hmem _ hstate).mp rfl with
      ⟨-, -, -, -, -, -, hhost, -⟩ | ⟨-, -, hsum, -⟩ | hshown
    · cases hhost
    · cases hsum
    · exact hshown

/-- A failure that is reported as one of the host need not be one. -/
theorem not_always_host : ¬ ∀ limit supported context events,
    ∀ activation ∈
      (session events (initial limit supported context)).1.activations,
    ∀ diagnostic, activation.state = .aborted diagnostic →
      diagnostic.code = "COLLABORATOR_FAILURE" →
      (initial limit supported context).HostFails events activation
        diagnostic := by
  intro hhost
  obtain ⟨activation, hmem, -, hstate⟩ := coins_audited
  obtain ⟨-, -, -, -, -, -, hfailure, -⟩ :=
    hhost 256 ">=1.0" wealth audit activation hmem _ hstate rfl
  cases hfailure

end Stage

end StoryGraph
