/-!
# Kinds of nodes, conditions, operators and actions

The closed vocabularies of a story graph, each with the words that documents
use for it.

They are `NodeKind`, `ConditionKind`, `ConditionOperator` and `ActionType`.
-/

namespace StoryGraph

/-- What a node does when it is visited. -/
inductive Kind where
  | trigger
  | condition
  | action
  | dialogue
  | encounter
  | teleport
  deriving DecidableEq

namespace Kind

def word : Kind → String
  | trigger => "trigger"
  | condition => "condition"
  | action => "action"
  | dialogue => "dialogue"
  | encounter => "pokemon_encounter"
  | teleport => "teleport"

def all : List Kind :=
  [trigger, condition, action, dialogue, encounter, teleport]

def ofWord? (word : String) : Option Kind := all.find? (·.word == word)

end Kind

/-- Where a condition node looks for its key. -/
inductive ConditionKind where
  | variable
  | flag
  | always
  deriving DecidableEq

namespace ConditionKind

def word : ConditionKind → String
  | .variable => "variable"
  | flag => "flag"
  | always => "always"

def all : List ConditionKind := [.variable, flag, always]

def ofWord? (word : String) : Option ConditionKind := all.find? (·.word == word)

end ConditionKind

/-- Comparison operators of conditions. -/
inductive Operator where
  | equals
  | notEquals
  | greaterThan
  | lessThan
  | greaterOrEqual
  | lessOrEqual
  | truthy
  | falsy
  | contains
  deriving DecidableEq

namespace Operator

def word : Operator → String
  | equals => "equals"
  | notEquals => "not_equals"
  | greaterThan => "greater_than"
  | lessThan => "less_than"
  | greaterOrEqual => "greater_or_equal"
  | lessOrEqual => "less_or_equal"
  | truthy => "truthy"
  | falsy => "falsy"
  | contains => "contains"

def all : List Operator :=
  [equals, notEquals, greaterThan, lessThan, greaterOrEqual, lessOrEqual,
    truthy, falsy, contains]

def ofWord? (word : String) : Option Operator := all.find? (·.word == word)

/-- The symbols that trigger expressions may use for operators. -/
def ofSymbol? : String → Option Operator
  | "==" => some equals
  | "!=" => some notEquals
  | ">" => some greaterThan
  | "<" => some lessThan
  | ">=" => some greaterOrEqual
  | "<=" => some lessOrEqual
  | _ => none

end Operator

/-- Actions that change variables and flags. -/
inductive ContextAction where
  | setVariable
  | incrementVariable
  | setFlag
  | clearFlag
  deriving DecidableEq

/-- Actions that the host performs. -/
inductive DelegatedAction where
  | showMessage
  | giveItem
  | startQuest
  | completeQuest
  | startBattle
  | playSound
  | custom
  deriving DecidableEq

inductive ActionKind where
  | onContext (action : ContextAction)
  | delegated (action : DelegatedAction)
  deriving DecidableEq

def ContextAction.word : ContextAction → String
  | setVariable => "set_variable"
  | incrementVariable => "increment_variable"
  | setFlag => "set_flag"
  | clearFlag => "clear_flag"

def DelegatedAction.word : DelegatedAction → String
  | showMessage => "show_message"
  | giveItem => "give_item"
  | startQuest => "start_quest"
  | completeQuest => "complete_quest"
  | startBattle => "start_battle"
  | playSound => "play_sound"
  | custom => "custom"

namespace ActionKind

def word : ActionKind → String
  | onContext action => action.word
  | delegated action => action.word

def all : List ActionKind :=
  [.onContext .setVariable, .onContext .incrementVariable, .onContext .setFlag,
    .onContext .clearFlag, .delegated .showMessage, .delegated .giveItem,
    .delegated .startQuest, .delegated .completeQuest, .delegated .startBattle,
    .delegated .playSound, .delegated .custom]

def ofWord? (word : String) : Option ActionKind := all.find? (·.word == word)

end ActionKind

end StoryGraph
