import StoryGraph.Location

/-!
# Values

Free-form data: what authors put into node properties, what variables hold and
what documents consist of.  Integers and floating point numbers are different
values, objects keep the order of their keys, and tuples are kept apart from
lists.  Positions and ports that have been checked are values as well.
-/

namespace StoryGraph

inductive Value where
  | null
  | bool (truth : Bool)
  | int (number : Int)
  | float (number : Binary64)
  | str (text : String)
  | list (items : List Value)
  | tuple (items : List Value)
  | dict (fields : List (String × Value))
  | position (place : Position)
  | port (ref : PortRef)
  deriving Inhabited

namespace Value

mutual

/-- Structural identity: the same kind, and identical parts in the same
order. -/
def identical : Value → Value → Bool
  | .null, .null => true
  | .bool left, .bool right => left == right
  | .int left, .int right => left == right
  | .float left, .float right => decide (left = right)
  | .str left, .str right => left == right
  | .list left, .list right => identicalItems left right
  | .tuple left, .tuple right => identicalItems left right
  | .dict left, .dict right => identicalFields left right
  | .position left, .position right => decide (left = right)
  | .port left, .port right => decide (left = right)
  | _, _ => false
termination_by structural value => value

def identicalItems : List Value → List Value → Bool
  | [], [] => true
  | left :: lefts, right :: rights =>
    identical left right && identicalItems lefts rights
  | _, _ => false
termination_by structural items => items

def identicalFields : List (String × Value) → List (String × Value) → Bool
  | [], [] => true
  | (leftKey, left) :: lefts, (rightKey, right) :: rights =>
    leftKey == rightKey && identical left right && identicalFields lefts rights
  | _, _ => false
termination_by structural fields => fields

end

mutual

theorem eq_of_identical :
    ∀ left right : Value, identical left right = true → left = right
  | .null, right, hidentical => by
    cases right with
    | null => rfl
    | _ => simp [identical] at hidentical
  | .bool truth, right, hidentical => by
    cases right with
    | bool other => rw [eq_of_beq hidentical]
    | _ => simp [identical] at hidentical
  | .int number, right, hidentical => by
    cases right with
    | int other => rw [eq_of_beq hidentical]
    | _ => simp [identical] at hidentical
  | .float number, right, hidentical => by
    cases right with
    | float other => rw [of_decide_eq_true hidentical]
    | _ => simp [identical] at hidentical
  | .str text, right, hidentical => by
    cases right with
    | str other => rw [eq_of_beq hidentical]
    | _ => simp [identical] at hidentical
  | .list items, right, hidentical => by
    cases right with
    | list others => rw [eq_of_identicalItems items others hidentical]
    | _ => simp [identical] at hidentical
  | .tuple items, right, hidentical => by
    cases right with
    | tuple others => rw [eq_of_identicalItems items others hidentical]
    | _ => simp [identical] at hidentical
  | .dict fields, right, hidentical => by
    cases right with
    | dict others => rw [eq_of_identicalFields fields others hidentical]
    | _ => simp [identical] at hidentical
  | .position place, right, hidentical => by
    cases right with
    | position other => rw [of_decide_eq_true hidentical]
    | _ => simp [identical] at hidentical
  | .port ref, right, hidentical => by
    cases right with
    | port other => rw [of_decide_eq_true hidentical]
    | _ => simp [identical] at hidentical

theorem eq_of_identicalItems :
    ∀ lefts rights : List Value, identicalItems lefts rights = true →
      lefts = rights
  | [], [], _ => rfl
  | left :: lefts, right :: rights, hidentical => by
    simp only [identicalItems, Bool.and_eq_true] at hidentical
    rw [eq_of_identical left right hidentical.1,
      eq_of_identicalItems lefts rights hidentical.2]

theorem eq_of_identicalFields :
    ∀ lefts rights : List (String × Value),
      identicalFields lefts rights = true → lefts = rights
  | [], [], _ => rfl
  | (leftKey, left) :: lefts, (rightKey, right) :: rights, hidentical => by
    simp only [identicalFields, Bool.and_eq_true, beq_iff_eq] at hidentical
    rw [hidentical.1.1, eq_of_identical left right hidentical.1.2,
      eq_of_identicalFields lefts rights hidentical.2]

end

mutual

theorem identical_refl : ∀ value : Value, identical value value = true
  | .null => rfl
  | .bool _ => by simp [identical]
  | .int _ => by simp [identical]
  | .float _ => by simp [identical]
  | .str _ => by simp [identical]
  | .list items => identicalItems_refl items
  | .tuple items => identicalItems_refl items
  | .dict fields => identicalFields_refl fields
  | .position _ => by simp [identical]
  | .port _ => by simp [identical]

theorem identicalItems_refl :
    ∀ items : List Value, identicalItems items items = true
  | [] => rfl
  | item :: items => by
    simp [identicalItems, identical_refl item, identicalItems_refl items]

theorem identicalFields_refl :
    ∀ fields : List (String × Value), identicalFields fields fields = true
  | [] => rfl
  | (key, value) :: fields => by
    simp [identicalFields, identical_refl value, identicalFields_refl fields]

end

theorem identical_iff {left right : Value} :
    identical left right = true ↔ left = right :=
  ⟨eq_of_identical left right, fun heq => heq ▸ identical_refl left⟩

instance : DecidableEq Value := fun _ _ => decidable_of_iff _ identical_iff

/-- The word for the kind of a value. -/
def kindWord : Value → String
  | .null => "NoneType"
  | .bool _ => "bool"
  | .int _ => "int"
  | .float _ => "float"
  | .str _ => "str"
  | .list _ => "list"
  | .tuple _ => "tuple"
  | .dict _ => "dict"
  | .position _ => "Position"
  | .port _ => "PortRef"

end Value

end StoryGraph
