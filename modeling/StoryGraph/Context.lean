import StoryGraph.Shape.Record
import StoryGraph.Value.Comparison
import StoryGraph.Value.Literal

/-!
# Contexts

A context is the state of one game world: its variables, its flags and the ids
of the activations that are under way.  All activations share it.

This embeds `RuntimeContext`.
-/

namespace StoryGraph

structure Context where
  /-- What the variables hold. -/
  values : Table Value
  flags : Table Bool
  /-- Ids of live activations. -/
  activeEvents : IdSet
  deriving DecidableEq

namespace Context

def empty : Context := ⟨.empty, .empty, .empty⟩

def known : List FieldName :=
  [.plain "variables", .plain "flags", .plain "active_events"]

def read (fields : List (String × Value)) : Checked Context :=
  mk <$> FieldName.withDefault (.plain "variables") (.table .any) .empty fields
    <*> FieldName.withDefault (.plain "flags") (.table .boolean) .empty fields
    <*> FieldName.withDefault (.plain "active_events") .idSet .empty fields

/-- A context from the object of its fields. -/
def check : Check Context := Check.record known read

def getVariable? (context : Context) (name : String) : Option Value :=
  context.values.find? name

def setVariable (context : Context) (name : String) (value : Value) : Context :=
  { context with values := context.values.insert name value }

/-- A flag that was never set is false. -/
def getFlag (context : Context) (name : String) : Bool :=
  (context.flags.find? name).getD false

def setFlag (context : Context) (name : String) (truth : Bool) : Context :=
  { context with flags := context.flags.insert name truth }

def clearFlag (context : Context) (name : String) : Context :=
  context.setFlag name false

/-- What is stored under a key: a variable, or else a flag, or else null. -/
def lookup (context : Context) (key : String) : Value :=
  match context.values.find? key with
  | some value => value
  | none =>
    match context.flags.find? key with
    | some truth => .bool truth
    | none => .null

def activate (context : Context) (id : String) : Context :=
  { context with activeEvents := context.activeEvents.insert id }

def deactivate (context : Context) (id : String) : Context :=
  { context with activeEvents := context.activeEvents.erase id }

/-- Why a variable cannot be incremented. -/
inductive IncrementError where
  | notNumeric (name : String) (value : Value)
  | badAmount (current amount : String)
  | tooLarge
  /-- What the variable holds instead of a number cannot be shown. -/
  | unspellable
  deriving DecidableEq

namespace IncrementError

def message : IncrementError → String
  | notNumeric name value =>
    "Variable '" ++ name ++ "' is not numeric: " ++ Literal.ofValue value
  | badAmount current amount =>
    "unsupported operand type(s) for +: '" ++ current ++ "' and '" ++
      amount ++ "'"
  | tooLarge => "int too large to convert to float"
  | unspellable => Numeral.Fault.unspellable.message

end IncrementError

/-- The sum of two numbers.  Integers are added exactly; otherwise both terms
are taken as floating point numbers, which very large integers have none of. -/
def sum? : Number → Number → Option Value
  | .int left, .int right => some (.int (left + right))
  | .float left, .float right => some (.float (left.add right))
  | .int left, .float right =>
    (Binary64.ofInt? left).map fun left => .float (left.add right)
  | .float left, .int right =>
    (Binary64.ofInt? right).map fun right => .float (left.add right)

/-- The number in a variable, where a missing variable is zero.  Truth values
do not count as numbers here. -/
def numericVariable (context : Context) (name : String) :
    Except IncrementError Number :=
  match (context.values.find? name).getD (.int 0) with
  | .int number => .ok (.int number)
  | .float number => .ok (.float number)
  | value =>
    if value.isSpellable then .error (.notNumeric name value)
    else .error .unspellable

/-- Adds an amount to a numeric variable, and answers the sum. -/
def increment (context : Context) (name : String) (amount : Value) :
    Except IncrementError (Context × Value) :=
  match context.numericVariable name with
  | .error error => .error error
  | .ok current =>
    match amount.number? with
    | none =>
      let kind := match current with
        | .int _ => "int"
        | .float _ => "float"
      .error (.badAmount kind amount.kindWord)
    | some amount =>
      match sum? current amount with
      | some total => .ok (context.setVariable name total, total)
      | none => .error .tooLarge

/-- Replaces one field by a checked value; private names are accepted and
ignored. -/
def assign (context : Context) (field : String)
    (value : Value) : Checked Context :=
  if FieldName.isPrivate field then .accepted context
  else match field with
  | "variables" =>
    ((Check.table .any value).under (.key field)).map fun values =>
      { context with values := values }
  | "flags" =>
    ((Check.table .boolean value).under (.key field)).map fun flags =>
      { context with flags := flags }
  | "active_events" =>
    ((Check.idSet value).under (.key field)).map fun ids =>
      { context with activeEvents := ids }
  | _ => .rejected [⟨.noSuchAttribute, [.key field]⟩]

/-- Two contexts with the same variables and flags, in any order. -/
def sameContent (left right : Context) : Bool :=
  left.values.sameContent right.values && left.flags.sameContent right.flags

end Context

end StoryGraph
