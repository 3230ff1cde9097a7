import StoryGraph.Condition

/-!
# Consistent operators

The order of two values and their equality are decided by the same parts:
numbers by their places, texts by their characters, and lists by the first two
items that are not equal.  So of two values that are not equal at most one is
below the other, the weak orders add the equal case and nothing else, and the
operators of conditions agree with each other.
-/

namespace StoryGraph

namespace ExtendedRat

theorem less_irrefl (place : ExtendedRat) : place.less place = false := by
  cases place <;> simp [less]

theorem less_asymm {left right : ExtendedRat} (hless : left.less right = true) :
    right.less left = false := by
  cases left with
  | value left =>
    cases right with
    | value right =>
      have hbelow : left < right := of_decide_eq_true hless
      exact decide_eq_false (Rat.not_lt.mpr (Rat.le_of_lt hbelow))
    | _ => simp_all [less]
  | _ => cases right <;> simp_all [less]

end ExtendedRat

namespace Number

theorem less_of_equal {left right : Number} (hequal : left.equal right = true) :
    left.less right = false ∧ right.less left = false := by
  unfold equal at hequal
  split at hequal
  · next place other hleft hright =>
    obtain rfl : place = other := of_decide_eq_true hequal
    simp only [less, hleft, hright, ExtendedRat.less_irrefl, and_self]
  · cases hequal

theorem less_asymm {left right : Number} (hless : left.less right = true) :
    right.less left = false := by
  unfold less at hless ⊢
  split at hless
  · next hleft hright =>
    rw [hleft, hright]
    exact ExtendedRat.less_asymm hless
  · cases hless

end Number

namespace Order

/-- Whether equal values stand in the order. -/
def isWeak : Order → Bool
  | less | greater => false
  | lessOrEqual | greaterOrEqual => true

/-- Whether two values that are not equal stand in the order, if it is known
whether the first one is below and whether it is above the second one. -/
def ofSides (below above : Bool) : Order → Bool
  | less | lessOrEqual => below
  | greater | greaterOrEqual => above

end Order

namespace Value

/-- Whether values of the kind have an order: numbers, truth values, texts,
lists and tuples. -/
def isOrdered : Value → Bool
  | .bool _ | .int _ | .float _ | .str _ | .list _ | .tuple _ => true
  | .null | .dict _ | .position _ | .port _ => false

/-- How the orders in which two values stand go with their equality: the values
have no order, or they are equal, or one of them is below the other, or neither
is. -/
inductive Standing (ordered same : Bool)
    (stands : Order → Option Bool) : Prop where
  | apart (hkind : same = true → ordered = false)
      (hstands : ∀ order, stands order = none)
  | level (hkind : ordered = true) (hsame : same = true)
      (hstands : ∀ order, stands order = some order.isWeak)
  | unequal (hsame : same = false) (below above : Bool)
      (hsides : (below && above) = false)
      (hstands : ∀ order, stands order = some (order.ofSides below above))

theorem standing_numbers (left right : Number) :
    Standing true (left.equal right) fun order =>
      some (order.ofNumbers left right) := by
  cases hequal : left.equal right with
  | true =>
    obtain ⟨hbelow, habove⟩ := Number.less_of_equal hequal
    refine .level rfl rfl fun order => ?_
    cases order <;> simp [Order.ofNumbers, Order.isWeak, hbelow, habove, hequal]
  | false =>
    refine .unequal rfl (left.less right) (right.less left) ?_ fun order => ?_
    · cases hbelow : left.less right with
      | true => rw [Number.less_asymm hbelow, Bool.and_false]
      | false => rw [Bool.false_and]
    · cases order <;> simp [Order.ofNumbers, Order.ofSides, hequal]

theorem standing_texts (left right : String) :
    Standing true (left == right) fun order =>
      some (order.ofTexts left right) := by
  by_cases heq : left = right
  · subst heq
    refine .level rfl (beq_self_eq_true left) fun order => ?_
    cases order <;> simp [Order.ofTexts, Order.isWeak]
  · refine .unequal (beq_eq_false_iff_ne.mpr heq) (decide (left < right))
      (decide (right < left)) ?_ fun order => ?_
    · by_cases hbelow : left < right
      · simp [String.lt_asymm hbelow]
      · simp [hbelow]
    · -- Texts that are not equal are below each other in one way.
      have hsides : left < right ↔ ¬ right < left := by
        refine ⟨String.lt_asymm,
          fun habove => Classical.byContradiction fun hbelow => ?_⟩
        exact heq (String.le_antisymm (String.not_lt.mp habove)
          (String.not_lt.mp hbelow))
      cases order with
      | less | greater => rfl
      | lessOrEqual | greaterOrEqual =>
        simp only [Order.ofTexts, Order.ofSides, hsides, decide_not,
          Bool.not_not]

theorem equal_of_numbers {left right : Value} {first second : Number}
    (hleft : left.number? = some first) (hright : right.number? = some second) :
    left.equal right = first.equal second := by
  cases left <;> cases right <;> simp_all [number?, equal]

theorem equal_of_unordered {left right : Value}
    (hordered : left.isOrdered = true)
    (htexts : ∀ first second, left = .str first → right = .str second → False)
    (hlists : ∀ first second, left = .list first → right = .list second → False)
    (htuples : ∀ first second, left = .tuple first →
      right = .tuple second → False)
    (hnumbers : ∀ first second, left.number? = some first →
      right.number? = some second → False) : left.equal right = false := by
  cases left <;> cases right <;> simp_all [isOrdered, number?, equal]

/-- Any two values stand in one of these ways, which for lists is decided by
their first items that are not equal. -/
theorem standing_all :
    (∀ left right : Value,
      Standing left.isOrdered (left.equal right) fun order =>
        inOrder? order left right) ∧
    ∀ lefts rights : List Value,
      Standing true (equalItems lefts rights) fun order =>
        itemsInOrder? order lefts rights := by
  refine inOrder?.mutual_induct
    (fun left right =>
      Standing left.isOrdered (left.equal right) fun order =>
        inOrder? order left right)
    (fun lefts rights =>
      Standing true (equalItems lefts rights) fun order =>
        itemsInOrder? order lefts rights)
    ?texts ?lists ?tuples ?numbers ?others ?nil ?longer ?same ?different
  case texts => exact fun left right => standing_texts left right
  case lists => exact fun left right hitems => hitems
  case tuples => exact fun left right hitems => hitems
  case numbers =>
    intro left right htexts hlists htuples first second hsecond hfirst
    have hordered : left.isOrdered = true := by
      cases left <;> simp_all [number?, isOrdered]
    have hstands : (fun order => inOrder? order left right) =
        fun order => some (order.ofNumbers first second) := by
      funext order
      rw [inOrder?.eq_4 order left right htexts hlists htuples, hfirst, hsecond]
    rw [hordered, hstands, equal_of_numbers hfirst hsecond]
    exact standing_numbers first second
  case others =>
    intro left right htexts hlists htuples hnumbers
    refine .apart (fun hsame => ?_) fun order => ?_
    · rw [← Bool.not_eq_true]
      intro hordered
      rw [equal_of_unordered hordered htexts hlists htuples hnumbers] at hsame
      cases hsame
    · rw [inOrder?.eq_4 order left right htexts hlists htuples]
      split
      · next hfirst hsecond => exact (hnumbers _ _ hfirst hsecond).elim
      · rfl
  case nil =>
    intro rights
    cases rights with
    | nil => exact .level rfl rfl fun order => by cases order <;> rfl
    | cons right rights =>
      exact .unequal rfl true false rfl fun order => by
        cases order <;> simp [itemsInOrder?, Order.ofLengths, Order.ofSides]
  case longer =>
    intro left lefts
    exact .unequal rfl false true rfl fun order => by
      cases order <;> simp [itemsInOrder?, Order.ofLengths, Order.ofSides]
  case same =>
    intro left lefts right rights hsame hitems
    simpa only [equalItems, itemsInOrder?, hsame, Bool.true_and, if_true]
      using hitems
  case different =>
    intro left lefts right rights hdiffer hvalues
    rw [Bool.not_eq_true] at hdiffer
    simp only [equalItems, itemsInOrder?, hdiffer, Bool.false_and,
      Bool.false_eq_true, if_false]
    cases hvalues with
    | apart _ hstands => exact .apart (fun hsame => nomatch hsame) hstands
    | level _ hsame => rw [hsame] at hdiffer; cases hdiffer
    | unequal _ below above hsides hstands =>
      exact .unequal rfl below above hsides hstands

theorem standing (left right : Value) :
    Standing left.isOrdered (left.equal right) fun order =>
      inOrder? order left right :=
  standing_all.1 left right

end Value

namespace Condition

/-- Each operator gives a truth value, unless the two values cannot be compared
and one of them cannot be shown: then it fails. -/
theorem compare_cases (operator : Operator) (actual expected : Value) :
    ¬ CannotShow operator actual expected ∧
        (∃ passed, compare operator actual expected = .ok passed) ∨
      CannotShow operator actual expected ∧
        compare operator actual expected = .error .unspellable := by
  by_cases hshown : CannotShow operator actual expected
  · exact .inr ⟨hshown, compare_of_cannotShow hshown⟩
  · exact .inl ⟨hshown, _, compare_of_not_cannotShow hshown⟩

/-- The operators of conditions agree with each other on any two values.  An
operator gives a truth value, unless its two values cannot be compared and one
of them cannot be shown; equality and truth always give one.  Two operators are
the negations of two others, and at most one of three passes.  A weak order is a
strict order or, for values with an order, equality, and fails if the strict
order fails. -/
theorem operators_consistent (actual expected : Value) :
    (∀ operator : Operator,
      compareByWord operator.word actual expected =
          compare operator actual expected ∧
        (¬ CannotShow operator actual expected ∧
            (∃ passed, compare operator actual expected = .ok passed) ∨
          CannotShow operator actual expected ∧
            compare operator actual expected = .error .unspellable)) ∧
    (∀ operator ∈ [Operator.equals, .notEquals, .truthy, .falsy],
      ¬ CannotShow operator actual expected) ∧
    compare .notEquals actual expected =
      (compare .equals actual expected).map not ∧
    compare .falsy actual expected =
      (compare .truthy actual expected).map not ∧
    [Operator.greaterThan, .equals, .lessThan].Pairwise (fun first second =>
      ¬ (compare first actual expected = .ok true ∧
        compare second actual expected = .ok true)) ∧
    compare .greaterOrEqual actual expected =
      (compare .greaterThan actual expected).bind (fun above =>
        (compare .equals actual expected).map
          (above || actual.isOrdered && ·)) ∧
    compare .lessOrEqual actual expected =
      (compare .lessThan actual expected).bind (fun below =>
        (compare .equals actual expected).map
          (below || actual.isOrdered && ·)) := by
  refine ⟨fun operator => ⟨?_, compare_cases operator actual expected⟩, ?_, rfl,
    rfl, ?_⟩
  · have hword : Operator.ofWord? operator.word = some operator := by
      cases operator <;> decide
    simp only [compareByWord, hword]
  · simp [CannotShow, relate?]
  -- The authored value is read in one way for all operators.
  generalize hread : coerce expected actual = authored
  simp only [compare, relate?, hread]
  cases actual.standing authored with
  | apart hkind hstands =>
    simp only [hstands]
    cases hsame : actual.equal authored <;>
      cases hspellable : actual.isSpellable && authored.isSpellable <;>
      simp_all [Except.bind, Except.map]
  | level hkind hsame hstands =>
    simp [hkind, hsame, hstands, Order.isWeak, Except.bind, Except.map]
  | unequal hsame below above hsides hstands =>
    cases below <;> cases above <;>
      simp_all [Order.ofSides, Except.bind, Except.map]

/-- A word that is no number is not compared with a number. -/
theorem cannotShow_word {number : Int}
    (hnumber : Numeral.isSpellable number = false) :
    CannotShow .greaterThan (.int number) (.str "abc") := by
  have hread : Number.ofText? "abc" = none := by decide +kernel
  have hcoerce : coerce (.str "abc") (.int number) = .str "abc" := by
    simp only [coerce, hread, Option.map_none, Option.getD_none]
  refine ⟨by rw [hcoerce]; rfl, ?_⟩
  rw [Value.isSpellable, hnumber, Bool.false_and]

theorem not_always_decided :
    ¬ ∀ (operator : Operator) (actual expected : Value),
      ∃ passed, compareByWord operator.word actual expected = .ok passed := by
  intro hdecided
  obtain ⟨passed, hpassed⟩ :=
    hdecided .greaterThan (.int Numeral.leastUnspellable) (.str "abc")
  have hword : Operator.ofWord? Operator.greaterThan.word =
      some .greaterThan := by
    decide
  simp only [compareByWord, hword,
    compare_of_cannotShow
      (cannotShow_word Numeral.isSpellable_leastUnspellable)] at hpassed
  cases hpassed

end Condition

end StoryGraph
