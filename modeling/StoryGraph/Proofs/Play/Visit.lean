import Mathlib.Data.List.Forall2
import StoryGraph.Play.Turn
import StoryGraph.Proofs.Node.Properties

/-!
# What a visit depends on

A visit reads and changes variables and flags, and never asks which activations
are under way.  The visit of a record whose left-out coordinates have been
written as zeros is the same one, up to these zeros in the call.  It fails with
the code of its kind of node, unless it adds an integer to a floating point
number and the integer is beyond all of them.
-/

namespace StoryGraph

namespace Call

/-- The same call without coordinates that were left out. -/
def settled : Call → Call
  | performTeleport properties => performTeleport properties.settled
  | call => call

/-- The same method with the same arguments, where an argument is the same if it
is identical or equal as a value. -/
def Same (left right : Call) : Prop :=
  left.method = right.method ∧
    List.Forall₂ (fun first second => first = second ∨
      first.equal second = true)
      left.arguments right.arguments

theorem same_refl (call : Call) : call.Same call :=
  ⟨rfl, List.forall₂_same.mpr fun _ _ => .inl rfl⟩

theorem same_coordinate (coordinate : Coordinate) :
    coordinate.toValue = Coordinate.toValue (some coordinate.number) ∨
      coordinate.toValue.equal (Coordinate.toValue (some coordinate.number)) =
        true := by
  cases coordinate with
  | none => exact .inr (by decide +kernel)
  | some number => exact .inl rfl

theorem same_settled (call : Call) : call.Same call.settled := by
  cases call with
  | presentDialogue => exact same_refl _
  | resolveEncounter => exact same_refl _
  | performAction => exact same_refl _
  | performTeleport properties =>
    refine ⟨rfl, .cons (.inl rfl) (.cons ?_ (.cons ?_ (.cons ?_ .nil)))⟩
    · exact same_coordinate properties.x
    · exact same_coordinate properties.y
    · exact same_coordinate properties.z

end Call

/-- The same move without coordinates that were left out. -/
def Move.settled : Move → Move
  | call made => call made.settled
  | move => move

/-- The same destination without coordinates that were left out. -/
def Destination.settled : Destination → Destination
  | host call => host call.settled
  | destination => destination

namespace Properties

theorem visit_settled (properties : Properties) (context : Context) :
    properties.settled.visit context =
      (properties.visit context).map fun result =>
        (result.1.settled, result.2) := by
  cases properties with
  | trigger properties =>
    simp only [settled, visit]
    cases Trigger.evaluate properties.condition context with
    | error error => rfl
    | ok passed => cases passed <;> rfl
  | condition properties =>
    simp only [settled, visit]
    cases Condition.evaluate properties.conditionType properties.operator
      properties.value properties.key context with
    | error error => rfl
    | ok passed => rfl
  | action properties =>
    simp only [settled, visit]
    cases ActionKind.ofWord? properties.actionType with
    | none => rfl
    | some kind =>
      cases kind with
      | onContext action =>
        simp only
        cases properties.change action context <;> rfl
      | delegated action => rfl
  | dialogue properties => rfl
  | encounter properties => rfl
  | teleport properties => rfl

theorem holds_activeEvents (trigger : Trigger) (context : Context)
    (events : IdSet) :
    trigger.holds { context with activeEvents := events } =
      trigger.holds context := by
  cases trigger <;> rfl

theorem increment_activeEvents (context : Context) (name : String)
    (amount : Value) (events : IdSet) :
    Context.increment { context with activeEvents := events } name amount =
      (context.increment name amount).map fun result =>
        ({ result.1 with activeEvents := events }, result.2) := by
  have hcurrent :
      Context.numericVariable { context with activeEvents := events } name =
        context.numericVariable name :=
    rfl
  simp only [Context.increment, hcurrent]
  cases context.numericVariable name with
  | error error => rfl
  | ok current =>
    simp only
    cases amount.number? with
    | none => rfl
    | some amount =>
      simp only
      cases Context.sum? current amount <;> rfl

theorem change_activeEvents (properties : ActionProperties)
    (action : ContextAction) (context : Context) (events : IdSet) :
    properties.change action { context with activeEvents := events } =
      (properties.change action context).map fun changed =>
        { changed with activeEvents := events } := by
  simp only [ActionProperties.change]
  split
  · rfl
  · cases action with
    | setVariable => rfl
    | setFlag => rfl
    | clearFlag => rfl
    | incrementVariable =>
      simp only
      cases properties.amount? with
      | none => cases properties.value.isSpellable <;> rfl
      | some amount =>
        simp only [increment_activeEvents]
        cases context.increment properties.target amount with
        | error error => rfl
        | ok changed => rfl

/-- A visit does not depend on the activations that are under way. -/
theorem visit_activeEvents (properties : Properties) (context : Context)
    (events : IdSet) :
    properties.visit { context with activeEvents := events } =
      (properties.visit context).map fun result =>
        (result.1, { result.2 with activeEvents := events }) := by
  cases properties with
  | trigger properties =>
    simp only [visit, Trigger.evaluate]
    cases Trigger.parse properties.condition with
    | error error => rfl
    | ok trigger =>
      simp only [Except.bind, holds_activeEvents]
      cases trigger.holds context <;> rfl
  | condition properties =>
    have hsame :
        Condition.evaluate properties.conditionType properties.operator
          properties.value properties.key { context with
            activeEvents := events } =
              Condition.evaluate properties.conditionType properties.operator
                properties.value properties.key context :=
      rfl
    simp only [visit, hsame]
    cases Condition.evaluate properties.conditionType properties.operator
      properties.value properties.key context with
    | error error => rfl
    | ok passed => rfl
  | action properties =>
    simp only [visit]
    cases ActionKind.ofWord? properties.actionType with
    | none => rfl
    | some kind =>
      cases kind with
      | onContext action =>
        simp only [change_activeEvents]
        cases properties.change action context <;> rfl
      | delegated action => rfl
  | dialogue properties => rfl
  | encounter properties => rfl
  | teleport properties => rfl

end Properties

/-! ## Sums that are too large and values that cannot be shown -/

/-- A value that should be shown cannot be shown. -/
def Failure.isUnspellable : Failure → Bool
  | unspellableAmount | increment .unspellable | condition .unspellable => true
  | _ => false

theorem Failure.code_of_isUnspellable {failure : Failure}
    (hunspellable : failure.isUnspellable = true) :
    failure.code = "COLLABORATOR_FAILURE" := by
  unfold isUnspellable at hunspellable
  split at hunspellable
  · rfl
  · rfl
  · rfl
  · cases hunspellable

namespace Context

/-- One of two numbers is a floating point number, and the other one is an
integer beyond all of them. -/
inductive TooLarge : Number → Number → Prop where
  | left {whole : Int} {real : Binary64}
    (hlarge : Binary64.ofInt? whole = none) :
    TooLarge (.int whole) (.float real)
  | right {whole : Int} {real : Binary64}
    (hlarge : Binary64.ofInt? whole = none) :
    TooLarge (.float real) (.int whole)

/-- The variable holds something that is no number and cannot be shown. -/
def HoldsUnspellable (context : Context) (name : String) : Prop :=
  ∃ value, context.getVariable? name = some value ∧
    (∀ number, value ≠ .int number) ∧ value.isSpellable = false

theorem sum?_eq_none_iff {left right : Number} :
    sum? left right = none ↔ TooLarge left right := by
  constructor
  · intro hnone
    cases left with
    | int whole =>
      cases right with
      | int other => cases hnone
      | float real => exact .left (Option.map_eq_none_iff.mp hnone)
    | float real =>
      cases right with
      | int whole => exact .right (Option.map_eq_none_iff.mp hnone)
      | float other => cases hnone
  · rintro (hlarge | hlarge)
    · rw [sum?, hlarge, Option.map_none]
    · rw [sum?, hlarge, Option.map_none]

theorem numericVariable_ne_tooLarge (context : Context) (name : String) :
    context.numericVariable name ≠ .error .tooLarge := by
  unfold numericVariable
  split
  · simp
  · simp
  · split <;> simp

theorem numericVariable_eq_unspellable_iff {context : Context} {name : String} :
    context.numericVariable name = .error .unspellable ↔
      context.HoldsUnspellable name := by
  unfold numericVariable HoldsUnspellable getVariable?
  cases context.values.find? name with
  | none => simp
  | some value =>
    cases hspellable : value.isSpellable <;> cases value <;>
      simp_all [Value.isSpellable]

theorem increment_eq_tooLarge_iff {context : Context} {name : String}
    {amount : Value} :
    context.increment name amount = .error .tooLarge ↔
      ∃ current number, context.numericVariable name = .ok current ∧
        amount.number? = some number ∧ TooLarge current number := by
  unfold increment
  cases hcurrent : context.numericVariable name with
  | error error =>
    have hother := hcurrent ▸ context.numericVariable_ne_tooLarge name
    simpa using hother
  | ok current =>
    cases hnumber : amount.number? with
    | none => simp
    | some number =>
      cases hsum : sum? current number with
      | some total => simp [← sum?_eq_none_iff, hsum]
      | none => simp [← sum?_eq_none_iff, hsum]

theorem increment_eq_unspellable_iff {context : Context} {name : String}
    {amount : Value} :
    context.increment name amount = .error .unspellable ↔
      context.HoldsUnspellable name := by
  rw [← numericVariable_eq_unspellable_iff]
  unfold increment
  cases context.numericVariable name with
  | error error => simp
  | ok current =>
    cases amount.number? with
    | none => simp
    | some number =>
      simp only
      cases sum? current number <;> simp

end Context

namespace ActionProperties

/-- The sum of the amount and the number in the target is too large. -/
def Overflows (properties : ActionProperties) (context : Context) : Prop :=
  properties.target ≠ "" ∧ ∃ amount current number,
    properties.amount? = some amount ∧
    context.numericVariable properties.target = .ok current ∧
      amount.number? = some number ∧
      Context.TooLarge current number

/-- What stands for the amount of an increment is none and cannot be shown, or
there is an amount, but nothing that can be shown in its target. -/
def CannotShow (properties : ActionProperties) (context : Context) : Prop :=
  properties.target ≠ "" ∧
    (properties.amount? = none ∧ properties.value.isSpellable = false ∨
      (∃ amount, properties.amount? = some amount) ∧
        context.HoldsUnspellable properties.target)

variable {properties : ActionProperties} {context : Context} {failure : Failure}

theorem change_of_overflows (hoverflows : properties.Overflows context) :
    properties.change .incrementVariable context =
      .error (.increment .tooLarge) := by
  obtain ⟨htarget, amount, current, number, hamount, hlarge⟩ := hoverflows
  simp [change, htarget, hamount,
    Context.increment_eq_tooLarge_iff.mpr ⟨current, number, hlarge⟩]

theorem change_of_cannotShow (hshown : properties.CannotShow context) :
    ∃ failure, properties.change .incrementVariable context = .error failure ∧
      failure.isUnspellable = true := by
  obtain ⟨htarget, ⟨hamount, hvalue⟩ | ⟨⟨amount, hamount⟩, hholds⟩⟩ := hshown
  · exact ⟨.unspellableAmount, by simp [change, htarget, hamount, hvalue], rfl⟩
  · exact ⟨.increment .unspellable, by simp [change, htarget, hamount,
      Context.increment_eq_unspellable_iff.mpr hholds], rfl⟩

/-- An action on the context fails with the code of the actions, unless a sum is
too large or a value cannot be shown. -/
theorem code_of_change {action : ContextAction}
    (hchange : properties.change action context = .error failure) :
    failure.code = "INVALID_ACTION" ∨
      action = .incrementVariable ∧
        (failure = .increment .tooLarge ∧ properties.Overflows context ∨
          failure.isUnspellable = true ∧ properties.CannotShow context) := by
  unfold change at hchange
  split at hchange
  · cases hchange
    exact .inl rfl
  · next htarget =>
    cases action with
    | setVariable => cases hchange
    | setFlag => cases hchange
    | clearFlag => cases hchange
    | incrementVariable =>
      simp only at hchange
      split at hchange
      · next hamount =>
        split at hchange
        · cases hchange
          exact .inl rfl
        · next hvalue =>
          cases hchange
          exact .inr ⟨rfl, .inr
            ⟨rfl, htarget, .inl ⟨hamount, eq_false_of_ne_true hvalue⟩⟩⟩
      · next amount hamount =>
        split at hchange
        · cases hchange
        · next error hincrement =>
          cases hchange
          cases error with
          | notNumeric name value => exact .inl rfl
          | badAmount current amount => exact .inl rfl
          | tooLarge =>
            obtain ⟨current, number, hlarge⟩ :=
              Context.increment_eq_tooLarge_iff.mp hincrement
            exact .inr ⟨rfl, .inl
              ⟨rfl, htarget, amount, current, number, hamount, hlarge⟩⟩
          | unspellable =>
            have hholds := Context.increment_eq_unspellable_iff.mp hincrement
            exact .inr ⟨rfl,
              .inr ⟨rfl, htarget, .inr ⟨⟨amount, hamount⟩, hholds⟩⟩⟩

end ActionProperties

/-! ## How a visit fails -/

/-- A condition fails with the code of the conditions, unless a value cannot be
shown. -/
theorem Failure.code_condition (error : ConditionError) :
    (Failure.condition error).code =
      if error = .unspellable then "COLLABORATOR_FAILURE"
      else "INVALID_CONDITION" := by
  cases error <;> rfl

namespace Properties

/-- The visit of a record fails because the runtime does not know its action, or
otherwise with one of three codes. -/
theorem visit_error {properties : Properties} {context : Context}
    {failure : Failure} (hvisit : properties.visit context = .error failure) :
    (∃ word, properties.unknownAction? = some word ∧
      failure = .unknownAction word) ∨
      properties.unknownAction? = none ∧
        failure.code ∈ ["INVALID_CONDITION", "INVALID_ACTION",
          "COLLABORATOR_FAILURE"] := by
  have hcondition : ∀ error, (Failure.condition error).code ∈
      ["INVALID_CONDITION", "INVALID_ACTION", "COLLABORATOR_FAILURE"] := by
    intro error
    rw [Failure.code_condition]
    split <;> decide
  cases properties with
  | trigger properties =>
    simp only [visit] at hvisit
    split at hvisit
    · cases hvisit
    · cases hvisit
      exact .inr ⟨rfl, hcondition _⟩
  | condition properties =>
    simp only [visit] at hvisit
    split at hvisit
    · cases hvisit
    · cases hvisit
      exact .inr ⟨rfl, hcondition _⟩
  | action properties =>
    simp only [visit] at hvisit
    split at hvisit
    · next hunknown =>
      cases hvisit
      exact .inl ⟨properties.actionType, by simp [unknownAction?, hunknown],
        rfl⟩
    · next change hknown =>
      cases hchange : properties.change change context with
      | ok changed =>
        rw [hchange] at hvisit
        cases hvisit
      | error error =>
        rw [hchange] at hvisit
        cases hvisit
        refine .inr ⟨by simp [unknownAction?, hknown], ?_⟩
        rcases ActionProperties.code_of_change hchange with
          hcode | ⟨-, ⟨rfl, -⟩ | ⟨hunspellable, -⟩⟩
        · simp [hcode]
        · simp [Failure.code]
        · simp [Failure.code_of_isUnspellable hunspellable]
    · cases hvisit
  | dialogue properties => cases hvisit
  | encounter properties => cases hvisit
  | teleport properties => cases hvisit

/-- Only actions that the runtime knows are performed. -/
theorem unknownAction?_of_visit_ok {properties : Properties} {context : Context}
    {result : Move × Context} (hvisit : properties.visit context = .ok result) :
    properties.unknownAction? = none := by
  cases properties with
  | action properties =>
    cases hword : ActionKind.ofWord? properties.actionType with
    | none => simp [visit, hword] at hvisit
    | some kind => simp [unknownAction?, hword]
  | _ => rfl

end Properties

end StoryGraph
