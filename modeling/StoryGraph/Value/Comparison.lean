import StoryGraph.Value.Located

/-!
# Equality, order and truth of values

Two values are *equal* when they denote the same thing: numbers and truth
values by their exact numeric value, lists and tuples item by item, objects by
their keys whatever their order, and locations part by part.  Only numbers,
texts, lists and tuples are ordered, each among their own kind.
-/

namespace StoryGraph

/-- A value that counts as a number; truth values are zero and one. -/
inductive Number where
  | int (number : Int)
  | float (number : Binary64)
  deriving DecidableEq

namespace Number

/-- Place among the extended rationals; `nan` has none. -/
def toExtended? : Number → Option ExtendedRat
  | int number => some (.value number)
  | float number => number.toExtended?

def equal (left right : Number) : Bool :=
  match left.toExtended?, right.toExtended? with
  | some left, some right => left = right
  | _, _ => false

def less (left right : Number) : Bool :=
  match left.toExtended?, right.toExtended? with
  | some left, some right => left.less right
  | _, _ => false

end Number

/-- The four order relations. -/
inductive Order where
  | less
  | lessOrEqual
  | greater
  | greaterOrEqual
  deriving DecidableEq

namespace Order

def ofNumbers : Order → Number → Number → Bool
  | less, left, right => left.less right
  | lessOrEqual, left, right => left.less right || left.equal right
  | greater, left, right => right.less left
  | greaterOrEqual, left, right => right.less left || left.equal right

/-- Texts are ordered by their first differing character. -/
def ofTexts : Order → String → String → Bool
  | less, left, right => left < right
  | lessOrEqual, left, right => !decide (right < left)
  | greater, left, right => right < left
  | greaterOrEqual, left, right => !decide (left < right)

def ofLengths : Order → Nat → Nat → Bool
  | less, left, right => left < right
  | lessOrEqual, left, right => left ≤ right
  | greater, left, right => right < left
  | greaterOrEqual, left, right => right ≤ left

end Order

/-- Equality of positions by the numbers that their coordinates stand for. -/
def Position.equal (left right : Position) : Bool :=
  (Number.float left.x.number).equal (.float right.x.number) &&
    (Number.float left.y.number).equal (.float right.y.number)

namespace Value

def number? : Value → Option Number
  | .bool truth => some (.int truth.toInt)
  | .int number => some (.int number)
  | .float number => some (.float number)
  | _ => none

mutual

def equal : Value → Value → Bool
  | .null, .null => true
  | .str left, .str right => left == right
  | .list left, .list right => equalItems left right
  | .tuple left, .tuple right => equalItems left right
  | .dict left, .dict right =>
    left.length == right.length && agreesWith left right
  | .position left, .position right => left.equal right
  | .port left, .port right => left == right
  | left, right =>
    match left.number?, right.number? with
    | some left, some right => left.equal right
    | _, _ => false
termination_by structural value => value

def equalItems : List Value → List Value → Bool
  | [], [] => true
  | left :: lefts, right :: rights =>
    equal left right && equalItems lefts rights
  | _, _ => false
termination_by structural items => items

/-- Every field of the first object has an equal value in the second one. -/
def agreesWith : List (String × Value) → List (String × Value) → Bool
  | [], _ => true
  | (key, left) :: lefts, rights =>
    (match rights.lookup key with
      | some right => equal left right
      | none => false) && agreesWith lefts rights
termination_by structural fields => fields

end

mutual

/-- Whether two values stand in an order relation; `none` when they cannot be
ordered.  Lists are ordered by their first unequal items, or else by length. -/
def inOrder? (order : Order) : Value → Value → Option Bool
  | .str left, .str right => some (order.ofTexts left right)
  | .list left, .list right => itemsInOrder? order left right
  | .tuple left, .tuple right => itemsInOrder? order left right
  | left, right =>
    match left.number?, right.number? with
    | some left, some right => some (order.ofNumbers left right)
    | _, _ => none
termination_by structural value => value

def itemsInOrder? (order : Order) : List Value → List Value → Option Bool
  | [], rights => some (order.ofLengths 0 rights.length)
  | _ :: lefts, [] => some (order.ofLengths (lefts.length + 1) 0)
  | left :: lefts, right :: rights =>
    if equal left right then itemsInOrder? order lefts rights
    else inOrder? order left right
termination_by structural items => items

end

/-- Whether a value counts as true: not null, not zero and not empty. -/
def isTruthy : Value → Bool
  | .null => false
  | .bool truth => truth
  | .int number => number != 0
  | .float number => !number.isZero
  | .str text => !text.isEmpty
  | .list items => !items.isEmpty
  | .tuple items => !items.isEmpty
  | .dict fields => !fields.isEmpty
  | .position _ => true
  | .port _ => true

/-- Whether the pattern occurs somewhere in the text. -/
def occursIn (pattern : List Char) : List Char → Bool
  | [] => pattern.isEmpty
  | character :: rest =>
    pattern.isPrefixOf (character :: rest) || occursIn pattern rest

/-- Whether the first value holds the second one: a text a part of it, a
sequence an equal item, an object a key.  Other values hold nothing and answer
`none`. -/
def contains? : Value → Value → Option Bool
  | .str text, .str part => some (occursIn part.toList text.toList)
  | .dict fields, .str key => some (fields.any (·.1 == key))
  | .dict _, .null | .dict _, .bool _ | .dict _, .int _ | .dict _,
    .float _ | .dict _, .port _ =>
      some false
  | value, member => value.items?.map fun items => items.any (equal · member)

end Value

end StoryGraph
