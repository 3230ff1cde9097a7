import StoryGraph.Context
import StoryGraph.Node.Kind
import StoryGraph.Number.Numeral

/-!
# Conditions

Condition nodes compare what a context holds under a key with an authored
value.  Triggers carry an expression instead: a constant, a reference to one
flag or variable, or a comparison written as three words.  Authored values are
often texts, so a text is first read as a value of the stored kind.

`compare` and `coerce` embed `compare` and `coerce_like`.  The two methods of
`DefaultConditionEvaluator` are `Condition.evaluate` for `evaluate_condition`
and `Trigger.evaluate` for `evaluate_trigger`, which is split into reading the
expression and deciding what has been read.
-/

namespace StoryGraph

/-- Why a condition has no truth value.  All but the last are a
`ConditionError`: the expression or the node cannot be understood. -/
inductive ConditionError where
  | unsupportedOperator (word : String)
  | missingKey (kind : String)
  | unknownReference (word : String)
  | unknownOperator (word expression : String)
  | unreadable (expression : String)
  /-- A value cannot be shown: a plain `ValueError`. -/
  | unspellable
  deriving DecidableEq

namespace ConditionError

def message : ConditionError → String
  | unsupportedOperator word => "Unsupported operator: " ++ word
  | missingKey kind => "A " ++ kind ++ " condition needs a key"
  | unknownReference word => "Unknown trigger condition prefix '" ++ word ++ "'"
  | unknownOperator word expression =>
    "Unknown operator '" ++ word ++ "' in '" ++ expression ++ "'"
  | unreadable expression =>
    "Cannot parse trigger condition '" ++ expression ++ "'"
  | unspellable => Numeral.Fault.unspellable.message

end ConditionError

/-- A numeral as a number, an integer if possible. -/
def Number.ofText? (text : String) : Option Number :=
  match Numeral.integer? text with
  | some number => some (.int number)
  | none => (Numeral.float? text).map .float

def Number.toValue : Number → Value
  | int number => .int number
  | float number => .float number

namespace Condition

/-- The truth value that a word stands for, if any. -/
def truthOfWord? (text : String) : Option Bool :=
  let word := Text.lowerLatin (Text.trim text)
  if ["true", "yes", "on", "1"].contains word then some true
  else if ["false", "no", "off", "0", ""].contains word then some false
  else none

/-- The authored value read as a value of the stored kind. -/
def coerce (expected actual : Value) : Value :=
  match actual, expected with
  | .bool _, .str text => ((truthOfWord? text).map Value.bool).getD expected
  | .int _, .str text =>
    ((Number.ofText? text).map Number.toValue).getD expected
  | .float _, .str text =>
    ((Number.ofText? text).map Number.toValue).getD expected
  | _, _ => expected

/-- What an operator says of a stored value and an authored value of its kind;
`none` when the two cannot be compared. -/
def relate? (operator : Operator) (actual authored : Value) : Option Bool :=
  match operator with
  | .truthy => some actual.isTruthy
  | .falsy => some !actual.isTruthy
  | .equals => some (actual.equal authored)
  | .notEquals => some !actual.equal authored
  | .greaterThan => actual.inOrder? .greater authored
  | .lessThan => actual.inOrder? .less authored
  | .greaterOrEqual => actual.inOrder? .greaterOrEqual authored
  | .lessOrEqual => actual.inOrder? .lessOrEqual authored
  | .contains => actual.contains? authored

/-- Applies an operator to a stored and an authored value.  Values that cannot
be compared are shown in a log line, which fails if one of them cannot be shown,
and then make the operator false. -/
def compare (operator : Operator) (actual expected : Value) :
    Except ConditionError Bool :=
  let authored := coerce expected actual
  match relate? operator actual authored with
  | some passed => .ok passed
  | none =>
    if actual.isSpellable && authored.isSpellable then .ok false
    else .error .unspellable

/-- The two values cannot be compared, and one of them cannot be shown. -/
def CannotShow (operator : Operator) (actual expected : Value) : Prop :=
  relate? operator actual (coerce expected actual) = none ∧
    (actual.isSpellable && (coerce expected actual).isSpellable) = false

instance (operator : Operator) (actual expected : Value) :
    Decidable (CannotShow operator actual expected) :=
  inferInstanceAs (Decidable (_ ∧ _))

section Compare

variable {operator : Operator} {actual expected : Value}

theorem compare_of_cannotShow (hshown : CannotShow operator actual expected) :
    compare operator actual expected = .error .unspellable := by
  simp only [compare, hshown.1, hshown.2]
  rfl

theorem compare_of_not_cannotShow
    (hshown : ¬ CannotShow operator actual expected) :
    compare operator actual expected =
      .ok ((relate? operator actual (coerce expected actual)).getD false) := by
  simp only [compare]
  cases hrelate : relate? operator actual (coerce expected actual) with
  | some passed => rfl
  | none =>
    have hspellable :
        (actual.isSpellable && (coerce expected actual).isSpellable) = true :=
      eq_true_of_ne_false fun hfalse => hshown ⟨hrelate, hfalse⟩
    simp only [hspellable]
    rfl

/-- The only error of a comparison. -/
theorem compare_eq_error_iff {error : ConditionError} :
    compare operator actual expected = .error error ↔
      error = .unspellable ∧ CannotShow operator actual expected := by
  by_cases hshown : CannotShow operator actual expected
  · simp [compare_of_cannotShow hshown, hshown, eq_comm]
  · simp [compare_of_not_cannotShow hshown, hshown]

end Compare

/-- Applies the operator with the given word. -/
def compareByWord (operator : String)
    (actual expected : Value) : Except ConditionError Bool :=
  match Operator.ofWord? operator with
  | some operator => compare operator actual expected
  | none => .error (.unsupportedOperator operator)

/-- What a condition of a kind finds under a key. -/
def stored (kind : ConditionKind) (key : String) (context : Context) : Value :=
  if kind = .flag then .bool (context.getFlag key) else context.lookup key

/-- Whether a condition node passes. -/
def evaluate (kind : ConditionKind) (operator : Operator) (value : Value)
    (key : String) (context : Context) : Except ConditionError Bool :=
  if kind = .always then .ok true
  else if key = "" then .error (.missingKey kind.word)
  else compare operator (stored kind key context) value

/-- The same for a kind and an operator given by any words.  An unknown kind
looks its key up like a variable. -/
def evaluateByWords (kindWord operatorWord : String) (value : Value)
    (key : String) (context : Context) : Except ConditionError Bool :=
  let kind := (ConditionKind.ofWord? kindWord).getD .variable
  if kind = .always then .ok true
  else if key = "" then .error (.missingKey kindWord)
  else compareByWord operatorWord (stored kind key context) value

end Condition

/-- What a trigger expression says. -/
inductive Trigger where
  | constant (truth : Bool)
  | flag (name : String) (truth : Bool)
  | variable (name : String)
  | comparison (key : String) (operator : Operator) (text : String)
  deriving DecidableEq

namespace Trigger

/-- A reference of the form `word:name`. -/
def ofReference (word name : String) : Except ConditionError Trigger :=
  match word with
  | "flag" => .ok (.flag name true)
  | "not_flag" => .ok (.flag name false)
  | "variable" => .ok (.variable name)
  | _ => .error (.unknownReference word)

/-- A comparison of the form `key operator text`. -/
def ofWords (expression : String) : Except ConditionError Trigger :=
  match Text.threeWords? expression with
  | none => .error (.unreadable expression)
  | some (key, operator, text) =>
    match (Operator.ofSymbol? operator).or (Operator.ofWord? operator) with
    | some operator => .ok (.comparison key operator text)
    | none => .error (.unknownOperator operator expression)

/-- The name and word of a reference, which holds no space. -/
def reference? (expression : String) : Option (String × String) :=
  match Text.atColon? expression with
  | some (word, name) =>
    if name = "" || expression.toList.contains ' ' then none
    else some (word, name)
  | none => none

/-- Reads an expression without its outer blanks. -/
def parse (text : String) : Except ConditionError Trigger :=
  let expression := Text.trim text
  if expression = "" || expression = "always" then .ok (.constant true)
  else if expression = "never" then .ok (.constant false)
  else
    match reference? expression with
    | some (word, name) => ofReference word name
    | none => ofWords expression

/-- Whether the trigger passes in a context. -/
def holds (trigger : Trigger)
    (context : Context) : Except ConditionError Bool :=
  match trigger with
  | constant truth => .ok truth
  | flag name truth => .ok (context.getFlag name == truth)
  | .variable name => .ok ((context.getVariable? name).getD .null).isTruthy
  | comparison key operator text =>
    Condition.compare operator (context.lookup key) (.str text)

/-- Whether a trigger expression passes in a context. -/
def evaluate (expression : String)
    (context : Context) : Except ConditionError Bool :=
  (parse expression).bind (·.holds context)

end Trigger

end StoryGraph
